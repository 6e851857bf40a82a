import SunSpec.Proofs.CleanReading

/-!
# Instances of a repeating block

The instances of a repeating block stand in one slice of bytes, and the reader asks of each field
whether it ends inside the slice, not whether it ends inside its instance.  Where the points of the
block are in order the two are the same: `Block.chunk` cuts the bytes of one instance out of the
slice, and `Block.PlacedAt.readings_chunk` says that nothing of the slice but the chunk of an
instance has a part in what is read of it.  So a slice is read chunk by chunk, each of them to its
end, and what is left over behind the last is the one thing that the reader has to report.
-/

namespace SunSpec

/-- The reading with the number of another instance. -/
def Reading.numbered (r : Reading) (k : Nat) : Reading := { r with index := some k }

/-- The bytes of instance `k`, cut out of a slice. -/
def Block.chunk (b : Block) (bytes : List UInt8) (k : Nat) : List UInt8 :=
  (bytes.drop (k * b.unit)).take b.unit

namespace Block

variable {b : Block} {first k : Nat} {bytes : List UInt8}

/-- The chunk of an instance that the slice holds is a whole one. -/
lemma length_chunk (lt : k < bytes.length / b.unit) : (b.chunk bytes k).length = b.unit := by
  have inside : (k + 1) * b.unit ≤ bytes.length :=
    (Nat.mul_le_mul_right _ lt).trans (Nat.div_mul_le_self _ _)
  rw [Nat.add_mul, Nat.one_mul] at inside
  rw [chunk, List.length_take, List.length_drop]
  omega

lemma kind_of_tailDiagnostic {available : Nat} {d : Diagnostic}
    (h : b.tailDiagnostic available = some d) : d.kind = .overrun := by
  obtain ⟨text, rfl⟩ := overrun_of_tailDiagnostic h
  rfl

namespace PlacedAt

/-- A chunk by itself is one instance, and it is read to its end. -/
lemma read_chunk (h : b.PlacedAt first) (ordered : b.InOrder) (repeating : b.repeating = true)
    (pos : 0 < b.unit) (lt : k < bytes.length / b.unit) :
    b.read (b.chunk bytes k) = ⟨b.instanceReadings first (b.chunk bytes k) 0, b.unit, none⟩ := by
  have single : (b.chunk bytes k).length = 1 * b.unit := by rw [length_chunk lt, Nat.one_mul]
  rw [h.read_of_repeating ordered repeating pos single]
  simp

/-- What is read of an instance is read of its chunk, by the number of the instance. -/
lemma readings_chunk (h : b.PlacedAt first) (ordered : b.InOrder) (repeating : b.repeating = true)
    (bytes : List UInt8) (k : Nat) :
    (b.instanceReadings first (b.chunk bytes k) 0).map (·.numbered k) =
      b.instanceReadings first bytes k := by
  unfold instanceReadings
  rw [List.map_map]
  refine List.map_congr_left fun p hp => ?_
  -- the field ends inside the instance, so the cut behind the chunk does not reach it
  have field := h.field_le ordered hp
  have size := p.size_le_registers
  have value : p.valueIn ((b.chunk bytes k).drop (2 * (p.first - first))) =
      p.valueIn ((bytes.drop (k * b.unit)).drop (2 * (p.first - first))) :=
    Point.valueIn_drop_take (by omega)
  have index : b.indexOf k = some k := by simp [indexOf, repeating]
  rw [List.drop_drop] at value
  simp only [Function.comp_apply, Reading.numbered, Slot.readingIn, Nat.zero_mul, Nat.zero_add,
    value, index]

end PlacedAt

/-- **A repeating block is read instance by instance.**  Of a model that was laid out, a repeating
block that has a length and whose points are in order reads a slice of any length as if each
instance had been cut out of it and read by itself, as many of them as there is room for.  Each of
these reads is of all points and comes to its end; together they take whole units, and bytes behind
the last unit are an overrun, which is all that can be reported. -/
theorem read_by_instances {source : Model} {name : String}
    (accepted : (source.resolve name).fault = none)
    (hb : b ∈ (source.resolve name).model.blocks) (repeating : b.repeating = true)
    (length : 0 < b.len.toNat) (ordered : b.InOrder) (bytes : List UInt8) :
    let count := bytes.length / b.unit
    (b.read bytes).readings = ((List.range count).flatMap fun k =>
        (b.read (b.chunk bytes k)).readings.map (·.numbered k)) ∧
      (∀ k < count, (b.read (b.chunk bytes k)).diagnostic = none ∧
        (b.read (b.chunk bytes k)).readings.map Reading.slot = b.points.map fun p => ⟨p, some 0⟩) ∧
      (b.read bytes).consumed = count * b.unit ∧
      (∀ d, (b.read bytes).diagnostic = some d → d.kind ≠ .truncation) ∧
      ((∃ d, (b.read bytes).diagnostic = some d ∧ d.kind = .overrun) ↔
        ¬ b.unit ∣ bytes.length) := by
  intro count
  obtain ⟨first, -, -, placed⟩ := (Model.laidOut_of_resolve accepted).tiled.exists_placedAt hb
  have pos : 0 < b.unit := by
    rw [unit]
    omega
  have whole := placed.read_eq_of_repeating ordered repeating pos bytes
  have chunk : ∀ k < count, b.read (b.chunk bytes k) =
      ⟨b.instanceReadings first (b.chunk bytes k) 0, b.unit, none⟩ :=
    fun k lt => placed.read_chunk ordered repeating pos lt
  rw [whole]
  refine ⟨?_, fun k lt => ⟨by rw [chunk k lt], ?_⟩, rfl, ?_, ?_⟩
  · refine List.flatMap_congr fun k hk => ?_
    rw [chunk k (List.mem_range.1 hk), placed.readings_chunk ordered repeating]
  · have index : b.indexOf 0 = some 0 := by simp [indexOf, repeating]
    rw [chunk k lt, instanceReadings, List.map_map, index]
    rfl
  · intro d tail
    rw [kind_of_tailDiagnostic tail]
    decide
  · rw [← tailDiagnostic_eq_none_iff]
    cases tail : b.tailDiagnostic bytes.length with
    | none => simp
    | some d => simp [kind_of_tailDiagnostic tail]

end Block

/-! ### The inputs of a converter -/

/-- The repeating block of the converter after layout. -/
def converterInput : Block :=
  ⟨[⟨"ID", .plain .uint16, some 11, []⟩, ⟨"WH", .plain .uint64, some 12, []⟩], true, 5, 11⟩

/-- Two inputs, and three bytes of a third one. -/
theorem Block.read_by_instances_converter :
    let bytes : List UInt8 := [0, 1, 0, 0, 0, 0, 0, 0, 0, 7, 0, 2, 0, 0, 0, 0, 0, 0, 0, 9, 0, 3, 0]
    (converter.model.resolve converter.name).fault = none ∧
      converterInput ∈ (converter.model.resolve converter.name).model.blocks ∧
      converterInput.repeating = true ∧ 0 < converterInput.len.toNat ∧ converterInput.InOrder ∧
      (converterInput.read bytes).readings.map (fun r => (r.name, r.index, r.value.payload)) =
        [("ID", some 0, .u16 1), ("WH", some 0, .u64 7), ("ID", some 1, .u16 2),
          ("WH", some 1, .u64 9)] ∧
      (converterInput.read bytes).consumed = 20 ∧
      ∃ d, (converterInput.read bytes).diagnostic = some d ∧ d.kind = .overrun := by
  intro bytes
  have accepted : (converter.model.resolve converter.name).fault = none := rfl
  have mem : converterInput ∈ (converter.model.resolve converter.name).model.blocks := by decide
  have ordered : converterInput.InOrder := by decide
  obtain ⟨readings, -, consumed, -, overrun⟩ :=
    Block.read_by_instances accepted mem rfl (by decide) ordered bytes
  refine ⟨accepted, mem, rfl, by decide, ordered, ?_, consumed.trans (by decide),
    overrun.2 (by decide)⟩
  rw [readings]
  decide

end SunSpec
