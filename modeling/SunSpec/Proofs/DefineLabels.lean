import SunSpec.Dataset
import SunSpec.Proofs.BoundValues
import SunSpec.Proofs.IntegerLiterals
import SunSpec.Proofs.WireImage

/-!
# Names of defines, there and back

A literal that is a name finds the first define of that name, and a reading finds the defines of a
number: the first one of it at an enumeration, all that share a bit with it at a bit field.  The two
searches meet in the number of the define.  It is narrowed to the width of the point, written,
read back and widened again, and `Value.Codes` is what is left of the value at each of these places:
the type, a status that can be used, and the number.

The premises enter in the second search only.  A number that several defines of an enumeration share
shows as the first of them, and a bit field without a bit as nothing.
-/

namespace SunSpec

/-- The value is of a type and stands for a number that defines are looked up by. -/
structure Value.Codes (v : Value) (t : PointType) (code : UInt32) : Prop where
  type_eq : v.type = t
  isOk : v.isOk = true
  code_eq : v.asUInt32 = some code

namespace Value

variable {t : PointType} {code : UInt32} {v w : Value}

/-- A number of a type that takes names is widened to itself. -/
lemma codes_numeric (named : t.isNamed = true) (holds : t.Holds code.toNat) :
    (numeric t (.ofInteger t code.toNat)).Codes t code := by
  have narrow (range : t.range? = some (0, 2 ^ 16 - 1)) :
      some (UInt32.ofNat (UInt16.ofNat code.toNat).toNat) = some code := by
    obtain ⟨-, high⟩ := (PointType.holds_iff range).1 holds
    have lt : code.toNat < 2 ^ 16 := by omega
    rw [UInt16.toNat_ofNat_of_lt' lt, UInt32.ofNat_toNat]
  obtain rfl | rfl | rfl := PointType.cases_of_isNamed named
  · exact ⟨rfl, rfl, narrow rfl⟩
  · exact ⟨rfl, rfl, narrow rfl⟩
  · exact ⟨rfl, rfl, congrArg some UInt32.ofNat_toNat⟩

lemma wellFormed_numeric (named : t.isNamed = true) (n : Int) :
    (numeric t (.ofInteger t n)).WellFormed := by
  refine wellFormed_of_made ?_
  obtain rfl | rfl | rfl := PointType.cases_of_isNamed named
  · exact .ofEnum16 _
  · exact .ofBitfield16 _
  · exact .ofBitfield32 _

lemma encode_numeric (named : t.isNamed = true) (n : Int) :
    Codec.encode (numeric t (.ofInteger t n)) = .ok (Payload.ofInteger t n).wire := by
  obtain rfl | rfl | rfl := PointType.cases_of_isNamed named <;> rfl

lemma Codes.congr (h : v.Codes t code) (type : w.type = t) (same : w.SameDatum v) :
    w.Codes t code := by
  refine ⟨type, ?_, ?_⟩
  · have isOk := h.isOk
    rw [Value.isOk, ← same.status] at isOk
    exact isOk
  · rw [asUInt32, same.payload]
    exact h.code_eq

end Value

namespace Point

variable {p : Point} {name : String} {v : Value}

/-- A type that takes names binds a name to the number of its first define. -/
lemma exists_define (named : p.encoding.type.isNamed = true)
    (bound : p.literalValue (.string name) = .ok v) :
    ∃ d, p.IsFirst d ∧ d.name = name ∧ p.encoding.type.Holds d.value.toNat ∧
      v = .numeric p.encoding.type (.ofInteger p.encoding.type d.value.toNat) := by
  have integers : p.encoding.type.range?.isSome = true := by
    obtain type | type | type := PointType.cases_of_isNamed named <;> rw [type] <;> rfl
  obtain ⟨n, denotes, rfl⟩ :=
    (literalValue?_eq_some_iff integers).1 (literalValue?_of_literalValue bound)
  have denotes : p.Denotes (.string name) n := denotes
  cases denotes with
  | define _ first holds => exact ⟨_, first, rfl, holds, rfl⟩

/-- The number of a value that was bound is written and read back at the point. -/
lemma exists_decoded (named : p.encoding.type.isNamed = true) {code : UInt32}
    (holds : p.encoding.type.Holds code.toNat) :
    ∃ bytes w, Codec.encode (.numeric p.encoding.type (.ofInteger p.encoding.type code.toNat)) =
        .ok bytes ∧
      Codec.decode p.encoding bytes = .ok w ∧ w.Codes p.encoding.type code := by
  obtain ⟨numeric, readable⟩ :
      p.encoding.type ≠ .string ∧ p.encoding.type.isSkipped = false := by
    obtain type | type | type := PointType.cases_of_isNamed named <;> rw [type] <;> decide
  -- the encoding of the value declares no length, that of the point may, and neither counts
  have suits : (Value.numeric p.encoding.type
      (.ofInteger p.encoding.type code.toNat)).Suits p :=
    ⟨Value.wellFormed_numeric named _, rfl, Value.size_eq_of_type_eq rfl numeric⟩
  have written := Value.encode_numeric named code.toNat
  obtain ⟨length, same⟩ := suits.readBack written
  exact ⟨_, _, written, Codec.decode_of_length readable length,
    (Value.codes_numeric named holds).congr rfl same⟩

/-- Where no two defines have the same number, a number finds its define. -/
lemma enumLabel?_eq {d : Define} (distinct : (p.defines.map Define.value).Nodup)
    (mem : d ∈ p.defines) : p.enumLabel? d.value = some d := by
  rw [enumLabel?]
  cases found : p.defines.find? fun x => x.value == d.value with
  | none =>
    have other := List.find?_eq_none.1 found d mem
    exact (other (beq_self_eq_true _)).elim
  | some e =>
    have same : e.value = d.value := by simpa using List.find?_some found
    rw [List.inj_on_of_nodup_map distinct (List.mem_of_find?_eq_some found) mem same]

end Point

namespace Reading

variable {r : Reading} {t : PointType} {code : UInt32}

lemma code?_of_codes (codes : r.value.Codes t code) : r.code? = some code := by
  rw [code?, if_pos codes.isOk, codes.code_eq]

lemma labels_enum (codes : r.value.Codes t code) (enum : t = .enum16) :
    r.labels = ((r.point.enumLabel? code).map Define.name).toList := by
  rw [labels, code?_of_codes codes, codes.type_eq, enum]

lemma labels_bits (codes : r.value.Codes t code) (bits : t = .bitfield16 ∨ t = .bitfield32) :
    r.labels = (r.point.defines.filter fun d => d.value &&& code != 0).map Define.name := by
  rw [labels, code?_of_codes codes, codes.type_eq]
  obtain rfl | rfl := bits <;> rfl

/-- **A value that was set by a name is shown under the name.**  Where a point that takes names
admits the name of a define, the value is written and read back as a reading of the point.  At an
enumeration of which no two defines have the same number this reading has exactly the name for its
label.  At a bit field it has the names of all defines that share a bit with the value, in their
order, and the name is one of them unless it stands for no bit. -/
theorem labels_of_name (p : Point) (named : p.encoding.type.isNamed = true) (name : String)
    (v : Value) (bound : p.literalValue (.string name) = .ok v) (index : Option Nat) :
    ∃ d bytes w, p.IsFirst d ∧ d.name = name ∧ v.asUInt32 = some d.value ∧
      Codec.encode v = .ok bytes ∧ Codec.decode p.encoding bytes = .ok w ∧
      (p.encoding.type = .enum16 → (p.defines.map Define.value).Nodup →
        (⟨p, index, w⟩ : Reading).labels = [name]) ∧
      (p.encoding.type ≠ .enum16 →
        (⟨p, index, w⟩ : Reading).labels =
            (p.defines.filter fun e => e.value &&& d.value != 0).map Define.name ∧
          (d.value ≠ 0 → name ∈ (⟨p, index, w⟩ : Reading).labels)) := by
  obtain ⟨d, first, rfl, holds, rfl⟩ := Point.exists_define named bound
  have mem : d ∈ p.defines := List.mem_of_find?_eq_some first.find?_eq
  have codes := Value.codes_numeric named holds
  obtain ⟨bytes, w, written, decoded, read⟩ := Point.exists_decoded named holds
  refine ⟨d, bytes, w, first, rfl, codes.code_eq, written, decoded, fun enum distinct => ?_,
    fun other => ?_⟩
  · rw [labels_enum read enum, Point.enumLabel?_eq distinct mem]
    rfl
  · have bits := (PointType.cases_of_isNamed named).resolve_left other
    have eq := labels_bits (r := ⟨p, index, w⟩) read bits
    refine ⟨eq, fun some => ?_⟩
    rw [eq]
    refine List.mem_map_of_mem (List.mem_filter.2 ⟨mem, ?_⟩)
    rw [UInt32.and_self]
    exact bne_iff_ne.2 some

/-- A state and two events of which one comes with a mask for both. -/
theorem labels_of_name_events :
    let state : Point := ⟨"St", .plain .enum16, none, [⟨"OFF", 1⟩, ⟨"MPPT", 4⟩]⟩
    let events : Point := ⟨"Evt", .plain .bitfield16, none,
      [⟨"GROUND_FAULT", 1⟩, ⟨"ANY", 3⟩, ⟨"OVER_TEMP", 2⟩]⟩
    (state.literalValue (.string "MPPT") = .ok (.ofEnum16 4) ∧
      ∃ w, Codec.decode state.encoding [0, 4] = .ok w ∧
        (⟨state, some 1, w⟩ : Reading).labels = ["MPPT"]) ∧
    (events.literalValue (.string "OVER_TEMP") = .ok (.ofBitfield16 2) ∧
      ∃ w, Codec.decode events.encoding [0, 2] = .ok w ∧
        (⟨events, none, w⟩ : Reading).labels = ["ANY", "OVER_TEMP"]) := by
  intro state events
  constructor
  · have bound : state.literalValue (.string "MPPT") = .ok (.ofEnum16 4) := rfl
    obtain ⟨d, bytes, w, -, -, -, written, decoded, labels, -⟩ :=
      labels_of_name state rfl "MPPT" _ bound (some 1)
    obtain rfl : [0, 4] = bytes := Except.ok.inj written
    exact ⟨bound, w, decoded, labels rfl (by decide)⟩
  · have bound : events.literalValue (.string "OVER_TEMP") = .ok (.ofBitfield16 2) := rfl
    obtain ⟨d, bytes, w, -, -, code, written, decoded, -, labels⟩ :=
      labels_of_name events rfl "OVER_TEMP" _ bound none
    obtain rfl : [0, 2] = bytes := Except.ok.inj written
    have value : 2 = d.value := Option.some.inj code
    refine ⟨bound, w, decoded, (labels (by decide)).1.trans ?_⟩
    rw [← value]
    decide

end Reading

end SunSpec
