import SunSpec.Description.Binding
import SunSpec.Proofs.Representation

/-!
# Integers from literals

The integer types have twelve ranges between them and three ways from a literal to a number: by its
integer with a sign, by its integer without one, and by the name of a define.  `Point.Denotes` says
in one place which literals are a number to a point, and which number; `Payload.ofInteger` is the
payload that a type has for a number.

Each way is narrowed to the width of the type before it is made a payload, and the premises of the
two lemmas on narrowing (`Point.integer?_eq_some_iff`, `Point.word?_eq_some_iff`) are what makes
this exact: the ranges lie within those of the literal.  From there the types differ only in their
values of `PointType.range?`.
-/

namespace SunSpec

/-! ## Integer types -/

namespace PointType

/-- The least and the greatest integer of a type, if its values are integers. -/
def range? : PointType → Option (Int × Int)
  | int16 | sunssf => some (-2 ^ 15, 2 ^ 15 - 1)
  | uint16 | acc16 | enum16 | bitfield16 => some (0, 2 ^ 16 - 1)
  | int32 => some (-2 ^ 31, 2 ^ 31 - 1)
  | uint32 | acc32 | bitfield32 => some (0, 2 ^ 32 - 1)
  | int64 => some (-2 ^ 63, 2 ^ 63 - 1)
  | uint64 => some (0, 2 ^ 64 - 1)
  | _ => none

/-- The integer is one of the type. -/
def Holds (t : PointType) (n : Int) : Prop := ∃ r, t.range? = some r ∧ r.1 ≤ n ∧ n ≤ r.2

/-- A type that takes the names of defines. -/
def isNamed : PointType → Bool
  | enum16 | bitfield16 | bitfield32 => true
  | _ => false

variable {t : PointType} {low high n : Int}

lemma cases_of_isNamed (named : t.isNamed = true) :
    t = .enum16 ∨ t = .bitfield16 ∨ t = .bitfield32 := by
  cases t with
  | enum16 | bitfield16 | bitfield32 => decide
  | _ => cases named

lemma holds_iff (range : t.range? = some (low, high)) : t.Holds n ↔ low ≤ n ∧ n ≤ high := by
  constructor
  · rintro ⟨r, eq, within⟩
    obtain rfl := Option.some.inj (range.symm.trans eq)
    exact within
  · exact fun within => ⟨_, range, within⟩

end PointType

namespace Payload

/-- The integer that a payload is. -/
def integer? : Payload → Option Int
  | i16 v => some v.toInt
  | u16 v => some v.toNat
  | i32 v => some v.toInt
  | u32 v => some v.toNat
  | i64 v => some v.toInt
  | u64 v => some v.toNat
  | none | f32 _ | f64 _ | string _ => Option.none

/-- The payload of an integer under an integer type. -/
def ofInteger (t : PointType) (n : Int) : Payload :=
  match t with
  | .int16 | .sunssf => .i16 (Int16.ofInt n)
  | .uint16 | .acc16 | .enum16 | .bitfield16 => .u16 (UInt16.ofNat n.toNat)
  | .int32 => .i32 (Int32.ofInt n)
  | .uint32 | .acc32 | .bitfield32 => .u32 (UInt32.ofNat n.toNat)
  | .int64 => .i64 (Int64.ofInt n)
  | .uint64 => .u64 (UInt64.ofNat n.toNat)
  | _ => .none

/-- Within the range of its type an integer is not wrapped. -/
lemma integer?_ofInteger {t : PointType} {n : Int} (holds : t.Holds n) :
    (ofInteger t n).integer? = some n := by
  cases t with
  | int16 | sunssf =>
    obtain ⟨low, high⟩ := (PointType.holds_iff rfl).1 holds
    exact congrArg some (Int16.toInt_ofInt_of_le low (Int.lt_of_le_sub_one high))
  | int32 =>
    obtain ⟨low, high⟩ := (PointType.holds_iff rfl).1 holds
    exact congrArg some (Int32.toInt_ofInt_of_le low (Int.lt_of_le_sub_one high))
  | int64 =>
    obtain ⟨low, high⟩ := (PointType.holds_iff rfl).1 holds
    exact congrArg some (Int64.toInt_ofInt_of_le low (Int.lt_of_le_sub_one high))
  | uint16 | acc16 | enum16 | bitfield16 =>
    obtain ⟨low, high⟩ := (PointType.holds_iff rfl).1 holds
    lift n to Nat using low
    have lt : n < UInt16.size := Int.ofNat_lt.1 (Int.lt_of_le_sub_one high)
    exact congrArg (fun k : Nat => some (k : Int)) (UInt16.toNat_ofNat_of_lt' lt)
  | uint32 | acc32 | bitfield32 =>
    obtain ⟨low, high⟩ := (PointType.holds_iff rfl).1 holds
    lift n to Nat using low
    have lt : n < UInt32.size := Int.ofNat_lt.1 (Int.lt_of_le_sub_one high)
    exact congrArg (fun k : Nat => some (k : Int)) (UInt32.toNat_ofNat_of_lt' lt)
  | uint64 =>
    obtain ⟨low, high⟩ := (PointType.holds_iff rfl).1 holds
    lift n to Nat using low
    have lt : n < UInt64.size := Int.ofNat_lt.1 (Int.lt_of_le_sub_one high)
    exact congrArg (fun k : Nat => some (k : Int)) (UInt64.toNat_ofNat_of_lt' lt)
  | _ =>
    obtain ⟨r, range, -⟩ := holds
    cases range

end Payload

/-! ## Literals -/

lemma Yaml.Value.int64?_eq_some_iff {literal : Yaml.Value} {n : Int} :
    literal.int64? = some n ↔
      literal.untagged = .int n ∧ Int64.minValue.toInt ≤ n ∧ n ≤ Int64.maxValue.toInt := by
  unfold int64?
  split
  · next m eq =>
    rw [eq]
    simp only [Option.ite_none_right_eq_some, Option.some.injEq, int.injEq]
    constructor
    · rintro ⟨within, rfl⟩
      exact ⟨rfl, within⟩
    · rintro ⟨rfl, within⟩
      exact ⟨within, rfl⟩
  · next other => exact iff_of_false nofun fun h => other n h.1

lemma Yaml.Value.natural?_eq_some_iff {literal : Yaml.Value} {k : Nat} :
    literal.natural? = some k ↔ literal.untagged = .int k ∧ k < UInt64.size := by
  unfold natural?
  split
  · next m eq =>
    rw [eq]
    simp only [Option.ite_none_right_eq_some, Option.some.injEq, int.injEq]
    omega
  · next other => exact iff_of_false nofun fun h => other k h.1

lemma Yaml.Value.text?_eq_some_iff {literal : Yaml.Value} {s : String} :
    literal.text? = some s ↔ literal.untagged = .string s := by
  unfold text?
  split
  · next eq => simp [eq]
  · next other => exact iff_of_false nofun fun h => other s h

namespace Point

/-- The define is the first of its name. -/
def IsFirst (p : Point) (d : Define) : Prop :=
  ∃ before after, p.defines = before ++ d :: after ∧ ∀ x ∈ before, x.name ≠ d.name

/-- What a literal is a number to a point by: an integer that the type of the point holds, or for
the types that take names the name of a define, if the type holds the value of the first define of
that name. -/
inductive Denotes (p : Point) : Yaml.Value → Int → Prop
  | integer {n : Int} (holds : p.encoding.type.Holds n) : Denotes p (.int n) n
  | define {d : Define} (named : p.encoding.type.isNamed = true) (first : p.IsFirst d)
      (holds : p.encoding.type.Holds d.value.toNat) : Denotes p (.string d.name) d.value.toNat

variable {p : Point} {literal : Yaml.Value} {low high n : Int} {k : Nat}

lemma IsFirst.find?_eq {d : Define} (first : p.IsFirst d) :
    p.defines.find? (fun x => x.name == d.name) = some d := by
  obtain ⟨before, after, eq, others⟩ := first
  refine List.find?_eq_some_iff_append.2 ⟨beq_self_eq_true _, before, after, eq, fun x hx => ?_⟩
  simpa using others x hx

lemma isFirst_of_find? {d : Define} {name : String}
    (found : p.defines.find? (fun x => x.name == name) = some d) : d.name = name ∧ p.IsFirst d := by
  obtain ⟨here, before, after, eq, others⟩ := List.find?_eq_some_iff_append.1 found
  obtain rfl := beq_iff_eq.1 here
  exact ⟨rfl, before, after, eq, fun x hx => by simpa using others x hx⟩

/-- A literal is one number at most. -/
lemma Denotes.unique {m n : Int} (hm : p.Denotes literal m) (hn : p.Denotes literal n) : m = n := by
  cases hm with
  | integer =>
    cases hn
    rfl
  | @define d named first holds =>
    generalize name : d.name = s at hn
    cases hn with
    | @define e _ first' =>
      have found := first.find?_eq
      rw [name, first'.find?_eq] at found
      rw [Option.some.inj found]

lemma Denotes.holds {y : Yaml.Value} (h : p.Denotes y n) : p.encoding.type.Holds n := by
  cases h with
  | integer holds => exact holds
  | define _ _ holds => exact holds

/-- Bounds within those of 64 bits are the bounds of what is read. -/
lemma integer?_eq_some_iff (above : Int64.minValue.toInt ≤ low)
    (below : high ≤ Int64.maxValue.toInt) :
    integer? literal low high = some n ↔ literal.untagged = .int n ∧ low ≤ n ∧ n ≤ high := by
  rw [integer?, Option.filter_eq_some_iff, Yaml.Value.int64?_eq_some_iff]
  simp only [Bool.and_eq_true, decide_eq_true_eq]
  constructor
  · rintro ⟨⟨eq, -⟩, within⟩
    exact ⟨eq, within⟩
  · rintro ⟨eq, within⟩
    exact ⟨⟨eq, above.trans within.1, within.2.trans below⟩, within⟩

lemma defineOf?_eq_some_iff : p.defineOf? literal = some k ↔
    ∃ d, literal.untagged = .string d.name ∧ p.IsFirst d ∧ d.value.toNat = k := by
  simp only [defineOf?, Option.bind_eq_some_iff, Option.map_eq_some_iff,
    Yaml.Value.text?_eq_some_iff]
  constructor
  · rintro ⟨name, text, d, found, eq⟩
    obtain ⟨rfl, first⟩ := isFirst_of_find? found
    exact ⟨d, text, first, eq⟩
  · rintro ⟨d, text, first, eq⟩
    exact ⟨d.name, text, d, first.find?_eq, eq⟩

lemma word?_eq_some_iff {bits : Nat} (narrow : bits ≤ 63) {named : Bool} :
    p.word? literal bits named = some k ↔ k < 2 ^ bits ∧ (literal.untagged = .int k ∨
      named = true ∧ ∃ d, literal.untagged = .string d.name ∧ p.IsFirst d ∧ d.value.toNat = k) := by
  have pos : 0 < 2 ^ bits := Nat.two_pow_pos bits
  have below : ((2 ^ bits - 1 : Nat) : Int) ≤ Int64.maxValue.toInt := by
    have le : 2 ^ bits ≤ 2 ^ 63 := Nat.pow_le_pow_right Nat.two_pos narrow
    show ((2 ^ bits - 1 : Nat) : Int) ≤ 2 ^ 63 - 1
    omega
  have number (n : Int) : integer? literal 0 ((2 ^ bits - 1 : Nat) : Int) = some n ↔
      literal.untagged = .int n ∧ 0 ≤ n ∧ n ≤ ((2 ^ bits - 1 : Nat) : Int) :=
    integer?_eq_some_iff (by decide) below
  unfold word?
  split
  · next n eq =>
    obtain ⟨untagged, low, high⟩ := (number n).1 eq
    rw [untagged]
    simp only [Option.some.injEq, Yaml.Value.int.injEq, reduceCtorEq, false_and, exists_false,
      and_false, or_false]
    omega
  · next none =>
    have other (h : k < 2 ^ bits) : literal.untagged ≠ .int k := by
      intro eq
      have read := (number k).2 ⟨eq, by omega, by omega⟩
      exact Option.some_ne_none _ (read.symm.trans none)
    cases named with
    | false =>
      refine iff_of_false nofun ?_
      rintro ⟨lt, eq | ⟨named, -⟩⟩
      · exact other lt eq
      · cases named
    | true =>
      rw [if_pos rfl, Option.filter_eq_some_iff, defineOf?_eq_some_iff, decide_eq_true_eq]
      constructor
      · rintro ⟨define, lt⟩
        exact ⟨lt, .inr ⟨rfl, define⟩⟩
      · rintro ⟨lt, eq | ⟨-, define⟩⟩
        · exact (other lt eq).elim
        · exact ⟨define, lt⟩

/-! ## Types -/

lemma denotes_iff (range : p.encoding.type.range? = some (low, high)) :
    p.Denotes literal n ↔ (low ≤ n ∧ n ≤ high) ∧ (literal = .int n ∨
      p.encoding.type.isNamed = true ∧
        ∃ d, literal = .string d.name ∧ p.IsFirst d ∧ (d.value.toNat : Int) = n) := by
  rw [← PointType.holds_iff range]
  constructor
  · rintro (holds | ⟨named, first, holds⟩)
    · exact ⟨holds, .inl rfl⟩
    · exact ⟨holds, .inr ⟨named, _, rfl, first, rfl⟩⟩
  · rintro ⟨holds, rfl | ⟨named, d, rfl, first, rfl⟩⟩
    · exact .integer holds
    · exact .define named first holds

variable {t : PointType} {v : Value}

/-- A type that takes integers with a sign. -/
lemma map_integer_eq_some_iff (type : p.encoding.type = t) (range : t.range? = some (low, high))
    (unnamed : t.isNamed = false) {read : Option Int}
    (reads : ∀ n, read = some n ↔ literal = .int n ∧ low ≤ n ∧ n ≤ high) {f : Int → Value}
    (makes : ∀ n, f n = .numeric t (.ofInteger t n)) :
    read.map f = some v ↔ ∃ n, p.Denotes literal n ∧ v = .numeric t (.ofInteger t n) := by
  have denotes (n : Int) : read = some n ↔ p.Denotes literal n := by
    rw [reads, denotes_iff (type ▸ range), type, unnamed]
    simp [and_comm]
  simp only [Option.map_eq_some_iff, denotes, makes, eq_comm (b := v)]

/-- A type that takes integers without a sign, and perhaps names. -/
lemma map_natural_eq_some_iff (size : Nat) (type : p.encoding.type = t)
    (range : t.range? = some (0, (size : Int) - 1)) {read : Option Nat}
    (reads : ∀ k : Nat, read = some k ↔ k < size ∧ (literal = .int k ∨
      t.isNamed = true ∧ ∃ d, literal = .string d.name ∧ p.IsFirst d ∧ d.value.toNat = k))
    {f : Nat → Value} (makes : ∀ k : Nat, f k = .numeric t (.ofInteger t k)) :
    read.map f = some v ↔ ∃ n, p.Denotes literal n ∧ v = .numeric t (.ofInteger t n) := by
  have denotes (k : Nat) : read = some k ↔ p.Denotes literal k := by
    have within : (0 ≤ (k : Int) ∧ (k : Int) ≤ size - 1) ↔ k < size := by omega
    rw [reads, denotes_iff (type ▸ range), type, within]
    simp only [Int.natCast_inj]
  simp only [Option.map_eq_some_iff, denotes, makes]
  constructor
  · rintro ⟨k, denotes, rfl⟩
    exact ⟨k, denotes, rfl⟩
  · rintro ⟨n, denotes, rfl⟩
    obtain ⟨⟨low, -⟩, -⟩ := (denotes_iff (type ▸ range)).1 denotes
    lift n to Nat using low
    exact ⟨n, denotes, rfl⟩

/-- A literal has a value at an integer type exactly if it is a number to the point, and then the
value of this number. -/
lemma literalValue?_eq_some_iff (integers : p.encoding.type.range?.isSome = true) :
    p.literalValue? literal = some v ↔ ∃ n, p.Denotes literal.untagged n ∧
      v = .numeric p.encoding.type (.ofInteger p.encoding.type n) := by
  unfold literalValue?
  simp only [Option.map_map]
  cases type : p.encoding.type with
  | int16 | sunssf | int32 =>
    exact map_integer_eq_some_iff type rfl rfl
      (fun _ => integer?_eq_some_iff (by decide) (by decide)) fun _ => rfl
  | uint16 | acc16 | enum16 | bitfield16 =>
    exact map_natural_eq_some_iff (2 ^ 16) type rfl
      (fun _ => word?_eq_some_iff (by decide)) fun _ => rfl
  | uint32 | acc32 | bitfield32 =>
    exact map_natural_eq_some_iff (2 ^ 32) type rfl
      (fun _ => word?_eq_some_iff (by decide)) fun _ => rfl
  | int64 =>
    exact map_integer_eq_some_iff type rfl rfl (fun _ => Yaml.Value.int64?_eq_some_iff) fun _ => rfl
  | uint64 =>
    refine map_natural_eq_some_iff UInt64.size type rfl (fun k => ?_) fun _ => rfl
    rw [Yaml.Value.natural?_eq_some_iff, and_comm]
    show _ ↔ _ ∧ (_ ∨ false = true ∧ _)
    rw [or_iff_left fun named => Bool.false_ne_true named.1]
  | _ =>
    rw [type] at integers
    cases integers

end Point

namespace Value

/-- The accessor of the type of a value returns a number. -/
def Returns (v : Value) (n : Int) : Prop :=
  ∃ access p, accessor v.type = some access ∧ access v = .ok p ∧ p.integer? = some n

lemma returns_numeric {t : PointType} {n : Int} (holds : t.Holds n) :
    (numeric t (.ofInteger t n)).Returns n := by
  obtain ⟨access, listed, answer⟩ : ∃ access, accessor t = some access ∧
      access (numeric t (.ofInteger t n)) = .ok (.ofInteger t n) := by
    obtain ⟨r, range, -⟩ := holds
    cases t with
    | null | undef | string | float32 | float64 => cases range
    | _ => exact ⟨_, rfl, rfl⟩
  exact ⟨access, _, listed, answer, Payload.integer?_ofInteger holds⟩

end Value

namespace Point

lemma isSkipped_of_integers {p : Point} (integers : p.encoding.type.range?.isSome = true) :
    p.isSkipped = false := by
  rw [isSkipped]
  cases type : p.encoding.type with
  | null | undef =>
    rw [type] at integers
    cases integers
  | _ => rfl

/-- Either a literal is a number to a point and gives its value, or it is none and refused. -/
lemma literalValue_cases (p : Point) (integers : p.encoding.type.range?.isSome = true)
    (literal : Yaml.Value) :
    (∃ n, p.Denotes literal.untagged n ∧ p.literalValue literal =
      .ok (.numeric p.encoding.type (.ofInteger p.encoding.type n))) ∨
    (¬ ∃ n, p.Denotes literal.untagged n) ∧
      p.literalValue literal = .error (.invalidLiteral p.name literal.quoted p.encoding) := by
  have some_iff (v : Value) : p.literalValue? literal = some v ↔ _ :=
    literalValue?_eq_some_iff integers
  rw [literalValue, isSkipped_of_integers integers]
  cases found : p.literalValue? literal with
  | some v =>
    obtain ⟨n, denotes, rfl⟩ := (some_iff v).1 found
    exact .inl ⟨n, denotes, rfl⟩
  | none =>
    refine .inr ⟨?_, rfl⟩
    rintro ⟨n, denotes⟩
    exact Option.some_ne_none _ (((some_iff _).2 ⟨n, denotes, rfl⟩).symm.trans found)

/-- **Literals are bound exactly.**  At a point of an integer type a literal gives a value if and
only if it is a number to the point: an integer in the range of the type or, for an enumeration or
a bit field, the name of a define of which the first has a value in this range.  The value has the
type of the point, and the accessor of this type returns the number.  Every other literal is an
error in the definition that names the point, the literal and the type. -/
theorem literalValue_exact (p : Point) (integers : p.encoding.type.range?.isSome = true)
    (literal : Yaml.Value) :
    ((∃ v, p.literalValue literal = .ok v) ↔ ∃ n, p.Denotes literal.untagged n) ∧
    (∀ n v, p.Denotes literal.untagged n → p.literalValue literal = .ok v →
      v.type = p.encoding.type ∧ v.Returns n) ∧
    ((¬ ∃ n, p.Denotes literal.untagged n) →
      p.literalValue literal = .error (.invalidLiteral p.name literal.quoted p.encoding) ∧
      (Fault.invalidLiteral p.name literal.quoted p.encoding).kind = .definition) := by
  obtain ⟨m, denotes, eq⟩ | ⟨nothing, eq⟩ := p.literalValue_cases integers literal
  · refine ⟨iff_of_true ⟨_, eq⟩ ⟨m, denotes⟩, fun n v hn hv => ?_, fun none => ?_⟩
    · obtain rfl := Except.ok.inj (eq.symm.trans hv)
      obtain rfl := denotes.unique hn
      exact ⟨rfl, Value.returns_numeric denotes.holds⟩
    · exact (none ⟨m, denotes⟩).elim
  · refine ⟨iff_of_false ?_ nothing, fun n v hn => (nothing ⟨n, hn⟩).elim, fun _ => ⟨eq, rfl⟩⟩
    rintro ⟨v, bound⟩
    cases eq.symm.trans bound

/-- The last define has the greatest value of the type, and the first one of the name before it a
value that is too great; the integer behind the greatest is refused like a text of digits. -/
theorem literalValue_exact_mode :
    let p : Point := ⟨"Mode", .plain .enum16, none,
      [⟨"OFF", 0⟩, ⟨"AUTO", 70000⟩, ⟨"AUTO", 3⟩, ⟨"MAX", 0xFFFF⟩]⟩
    p.encoding.type.range?.isSome = true ∧
      (∃ v, p.literalValue (.string "MAX") = .ok v ∧ v.type = .enum16 ∧ v.Returns 65535) ∧
      ∀ literal ∈ [.string "AUTO", .int 65536, .string "3", .null],
        p.literalValue literal =
          .error (.invalidLiteral "Mode" literal.quoted (.plain .enum16)) := by
  intro p
  have refused (literal : Yaml.Value) (none : p.literalValue? literal = none) :
      p.literalValue literal =
        .error (.invalidLiteral "Mode" literal.quoted (.plain .enum16)) := by
    obtain ⟨ok_iff, -, refuse⟩ := p.literalValue_exact rfl literal
    refine (refuse fun denotes => ?_).1
    obtain ⟨v, bound⟩ := ok_iff.2 denotes
    rw [literalValue, none] at bound
    cases bound
  refine ⟨rfl, ?_, by simpa using ⟨refused _ rfl, refused _ rfl, refused _ rfl, refused _ rfl⟩⟩
  obtain ⟨ok_iff, returns, -⟩ := p.literalValue_exact rfl (.string "MAX")
  have first : p.IsFirst ⟨"MAX", 0xFFFF⟩ := ⟨p.defines.take 3, [], rfl, by decide⟩
  have holds : PointType.enum16.Holds 65535 := (PointType.holds_iff rfl).2 (by decide)
  have denotes : p.Denotes (.string "MAX") 65535 := .define rfl first holds
  obtain ⟨v, bound⟩ := ok_iff.2 ⟨_, denotes⟩
  exact ⟨v, bound, returns _ v denotes bound⟩

end Point

end SunSpec
