import SunSpec.Proofs.Requests

/-!
# Reads in parts and reads in one

A read is cut into requests, and each part finds out for itself whether its registers have addresses
and whether the device has them.  How early a read fails depends on the cut.  Whether it fails, and
what it gives otherwise, does not.

On a device that shows a register map, `Device.Shows.read_slice` says so.  On any device, a read
asks for its registers from the first one on, for none of them twice, and for all of them if it
succeeds: `Device.records_read_registers`, from the requests laid out by their registers.
-/

namespace SunSpec

/-! ## Registers by their addresses -/

namespace RegisterMap

variable {m : RegisterMap} {register count : Nat}

lemma isSome_at?_iff : (m.at? register).isSome = true ↔
    (1 ≤ register ∧ register ≤ lastRegister) ∧ (m (.ofNat (register - 1))).isSome = true := by
  unfold at?
  split
  · next inside => rw [and_iff_right inside]
  · next outside => exact ⟨nofun, fun inside => absurd inside.1 outside⟩

lemma mapped_one : m.Mapped register 1 ↔ (m.at? register).isSome = true := by
  constructor
  · rintro ⟨regs, length, holds⟩
    obtain ⟨v, rfl⟩ := List.length_eq_one_iff.1 length
    rw [holds.1]
    rfl
  · intro there
    obtain ⟨v, here⟩ := Option.isSome_iff_exists.1 there
    exact ⟨[v], rfl, here, trivial⟩

lemma mapped_iff_at? : m.Mapped register count ↔
    ∀ r, register ≤ r → r < register + count → (m.at? r).isSome = true := by
  induction count generalizing register with
  | zero => exact iff_of_true (m.mapped_zero register) fun r first last => by omega
  | succ count ih =>
    rw [Nat.add_comm count, mapped_add, mapped_one, ih]
    constructor
    · rintro ⟨here, behind⟩ r first last
      rcases Nat.eq_or_lt_of_le first with rfl | later
      · exact here
      · exact behind r later (by omega)
    · intro all
      exact ⟨all register le_rfl (by omega), fun r first last => all r (by omega) (by omega)⟩

/-- Registers are mapped where they have addresses and the addresses have values. -/
lemma mapped_iff (pos : 1 ≤ count) : m.Mapped register count ↔
    1 ≤ register ∧ register + count - 1 ≤ lastRegister ∧
      ∀ r, register ≤ r → r ≤ register + count - 1 → (m (.ofNat (r - 1))).isSome = true := by
  rw [mapped_iff_at?]
  constructor
  · intro all
    have first := (isSome_at?_iff.1 (all register le_rfl (by omega))).1
    have last := (isSome_at?_iff.1 (all (register + count - 1) (by omega) (by omega))).1
    exact ⟨first.1, last.2, fun r ge le => (isSome_at?_iff.1 (all r ge (by omega))).2⟩
  · rintro ⟨first, last, all⟩ r ge lt
    exact isSome_at?_iff.2 ⟨by omega, all r ge (by omega)⟩

/-- The values of a row, by the addresses of its registers. -/
lemma Holds.map_some {regs : List UInt16} (holds : m.Holds register regs) :
    regs.map some = (List.range' register regs.length).map fun r => m (.ofNat (r - 1)) := by
  induction regs generalizing register with
  | nil => rfl
  | cons v vs ih =>
    obtain ⟨head, tail⟩ := holds
    have inside := (isSome_at?_iff.1 (by rw [head]; rfl)).1
    rw [at?, if_pos inside] at head
    rw [List.map_cons, List.length_cons, List.range'_succ, List.map_cons, head, ih tail]

end RegisterMap

/-! ## Devices that show a register map -/

namespace ComesTo

variable {α : Type} {row : Option α} {P : Fault → Prop} {answer other : Except Fault α}

lemma weaken (comes : ComesTo row P answer) : ComesTo row (fun _ => True) answer := by
  cases answer with
  | ok a => exact comes
  | error f => exact ⟨comes.1, trivial⟩

lemma agree (comes : ComesTo row P answer) (comes' : ComesTo row P other) :
    (∃ a, answer = .ok a ∧ other = .ok a) ∨ ∃ f f', answer = .error f ∧ other = .error f' := by
  cases answer with
  | ok a => exact .inl ⟨a, rfl, comes'.ok_iff.2 comes⟩
  | error f =>
    cases other with
    | ok b =>
      rw [comes.1] at comes'
      cases comes'
    | error f' => exact .inr ⟨f, f', rfl, rfl⟩

end ComesTo

namespace Device

/-- The device that a register map stands for. -/
def ofMap (m : RegisterMap) : Device Unit := fun r => ExceptT.mk <| pure <|
  match m.slice? (r.address.toNat + 1) r.count.toNat with
  | some regs => .ok regs
  | none => .error (.illegalAddress r.address.toNat r.count.toNat)

/-- For every register map there is a device that shows it. -/
theorem shows_ofMap (m : RegisterMap) : (ofMap m).Shows m Fault.IsLink := by
  intro r _
  unfold ofMap
  refine Ensures.pure (P := ComesTo _ _) ?_
  cases slice : m.slice? (r.address.toNat + 1) r.count.toNat with
  | some regs => exact rfl
  | none => exact ⟨rfl, Fault.isLink_illegalAddress _ _⟩

/-- The same map, with faults of whatever kind. -/
lemma Shows.weaken {σ : Type} {d : Device σ} {m : RegisterMap} {P : Fault → Prop}
    (shows_map : d.Shows m P) : d.Shows m fun _ => True :=
  fun r pos => (shows_map r pos).imp fun _ comes => comes.weaken

end Device

/-! ## The registers that are asked for -/

/-- The registers that a request asks for, by their numbers. -/
def Request.registers (r : Request) : List Nat := List.range' (r.address.toNat + 1) r.count.toNat

/-- Requests for registers in a row: for a front of the row, and for all of it where an answer was
got. -/
structure Covers {α : Type} (register count : Nat) (answer : Except Fault α)
    (asked : List Request) : Prop where
  front : asked.flatMap Request.registers <+: List.range' register count
  whole : ∀ a, answer = .ok a → asked.flatMap Request.registers = List.range' register count

namespace Covers

variable {α : Type} {register count rest : Nat} {answer : Except Fault α} {asked : List Request}

lemma nil : Covers register 0 answer [] := ⟨List.nil_prefix, fun _ _ => rfl⟩

lemma failed {f : Fault} : Covers register count (.error f : Except Fault α) [] :=
  ⟨List.nil_prefix, nofun⟩

lemma cons {r : Request} (starts : r.address.toNat + 1 = register) (counted : r.count.toNat = count)
    (tail : Covers (register + count) rest answer asked) :
    Covers register (count + rest) answer (r :: asked) := by
  have row : List.range' register (count + rest) =
      r.registers ++ List.range' (register + count) rest := by
    rw [Request.registers, starts, counted, List.range'_append_1]
  constructor
  · rw [List.flatMap_cons, row, List.prefix_append_right_inj]
    exact tail.front
  · intro a got
    rw [List.flatMap_cons, row, tail.whole a got]

end Covers

/-- Parts that follow each other ask for the registers of all of them. -/
lemma Asks.covers {α : Type} {ps : List Part} {answer : Except Fault α} {asked : List Request}
    (asks : Asks ps answer asked) {register total : Nat}
    (parts : Part.Contiguous register total ps) : Covers register total answer asked := by
  induction asks generalizing register total with
  | done =>
    cases parts
    exact .nil
  | failed => exact .failed
  | cons request _ ih =>
    cases parts with
    | cons pos le tail =>
      obtain ⟨starts, counted⟩ := Part.starts_of_request pos le request
      exact .cons starts counted (ih tail)

/-- A read asks for its registers in their order, none twice, and for all of them if it succeeds. -/
theorem Device.records_read_registers {σ : Type} (d : Device σ) (limit : ReadLimit)
    (register count : Nat) :
    Records (d.read limit register count).run (d.recorded.read limit register count).run
      (Covers register count) :=
  (d.records_readParts _ #[]).imp fun _ _ asks =>
    asks.covers (Part.split_contiguous limit register count)

/-! ## Reads -/

/-- **Reads in parts are one read.**  On a device that shows a register map, with whatever faults,
in whatever state and whatever the limit of one request: a read succeeds exactly where its registers
have addresses and all of these have values, and gives the values in order.  The requests, laid out,
are a front of the registers, each of them once, and all of them if the read succeeds.  So under two
limits, and in two states, either both reads fail or both give the same registers. -/
theorem Device.Shows.read_exact {σ : Type} {d : Device σ} {m : RegisterMap} {P : Fault → Prop}
    (shows_map : d.Shows m P) (limit : ReadLimit) {register count : Nat} (pos : 1 ≤ count)
    (state : σ) :
    let read := ((d.read limit register count).run.run state).1
    let recorded := (d.recorded.read limit register count).run.run (state, [])
    let asked := recorded.2.2.reverse.flatMap Request.registers
    ((∃ regs, read = .ok regs) ↔ 1 ≤ register ∧ register + count - 1 ≤ lastRegister ∧
      ∀ r, register ≤ r → r ≤ register + count - 1 → (m (.ofNat (r - 1))).isSome = true) ∧
    (∀ regs, read = .ok regs →
      regs.map some = (List.range' register count).map fun r => m (.ofNat (r - 1))) ∧
    (recorded.1 = read ∧ asked <+: List.range' register count ∧
      ∀ regs, read = .ok regs → asked = List.range' register count) ∧
    ∀ (limit' : ReadLimit) (state' : σ),
      let other := ((d.read limit' register count).run.run state').1
      (∃ regs, read = .ok regs ∧ other = .ok regs) ∨
        ∃ f f', read = .error f ∧ other = .error f' := by
  intro read recorded asked
  have slices (limit' : ReadLimit) := shows_map.weaken.read_slice (fun _ => trivial) limit'
    register count
  have slice : ComesTo (m.slice? register count) _ read := slices limit state
  obtain ⟨requests, covers, run⟩ := d.records_read_registers limit register count state []
  have same : recorded.1 = read := congrArg Prod.fst run
  have asked_eq : asked = requests.flatMap Request.registers := by
    show (recorded.2.2.reverse).flatMap Request.registers = _
    rw [congrArg (fun run => run.2.2) run, List.append_nil, List.reverse_reverse]
  rw [← RegisterMap.mapped_iff pos]
  refine ⟨⟨?_, ?_⟩, fun regs got => ?_, ⟨same, ?_, fun regs got => ?_⟩, fun limit' state' => ?_⟩
  · rintro ⟨regs, got⟩
    exact ⟨regs, RegisterMap.slice?_eq_some_iff.1 (slice.ok_iff.1 got)⟩
  · rintro ⟨regs, found⟩
    exact ⟨regs, slice.ok_iff.2 (RegisterMap.slice?_eq_some_iff.2 found)⟩
  · obtain ⟨rfl, holds⟩ := RegisterMap.slice?_eq_some_iff.1 (slice.ok_iff.1 got)
    exact holds.map_some
  · rw [asked_eq]
    exact covers.front
  · rw [asked_eq]
    exact covers.whole regs got
  · exact slice.agree (slices limit' state')

/-! ### Registers up to the last, and a gap in front of them -/

/-- A device without register 65529. -/
def gapMap : RegisterMap := fun address => if address = 65528 then none else some address

theorem Device.Shows.read_exact_gap :
    (Device.ofMap gapMap).Shows gapMap Fault.IsLink ∧ 1 ≤ 7 ∧
      let read := fun limit register => (((Device.ofMap gapMap).read limit register 7).run.run ()).1
      let recorded := ((Device.ofMap gapMap).recorded.read (.clamp 3) 65530 7).run.run ((), [])
      read (.clamp 3) 65530 = .ok [65529, 65530, 65531, 65532, 65533, 65534, 65535] ∧
        recorded.2.2.reverse.flatMap Request.registers = List.range' 65530 7 ∧
        ¬ ∃ regs, read .protocol 65526 = .ok regs := by
  have shows_map := Device.shows_ofMap gapMap
  have pos : 1 ≤ 7 := by decide
  have mapped : ∀ k < 7, (gapMap (.ofNat (65530 + k - 1))).isSome = true := by decide
  obtain ⟨succeeds, values, ⟨-, -, whole⟩, -⟩ :=
    @Device.Shows.read_exact _ _ _ _ shows_map (.clamp 3) 65530 7 pos ()
  have fails := (@Device.Shows.read_exact _ _ _ _ shows_map .protocol 65526 7 pos ()).1
  obtain ⟨regs, got⟩ := succeeds.2 ⟨by decide, by decide, fun r first last => by
    obtain ⟨k, rfl⟩ := Nat.exists_eq_add_of_le first
    exact mapped k (by omega)⟩
  have row : regs = [65529, 65530, 65531, 65532, 65533, 65534, 65535] :=
    List.map_injective_iff.2 (Option.some_injective _) (values regs got)
  refine ⟨shows_map, pos, row ▸ got, whole regs got, fun answered => ?_⟩
  obtain ⟨-, -, all⟩ := fails.1 answered
  cases all 65529 (by decide) (by decide)

end SunSpec
