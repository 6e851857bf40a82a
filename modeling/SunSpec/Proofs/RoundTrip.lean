import SunSpec.Proofs.CleanReading
import SunSpec.Proofs.Placement
import SunSpec.Proofs.WireForm

/-!
# Writing a data block and reading it back

`DataBlock.encode` fills the payload of a model instance and `Dataset.decode` reads one.  What is
read of a payload that was written is said by `DataBlock.Shows`, slot by slot: the value that was
given for the slot in the form in which its point takes it, else the sentinel of its type; zero
where the type can be read but not written; and nothing where it has no wire form.

`placed_of_plan` brings the positions of what was written, `ofPayload_of_fits` the positions of
what is read, and both are `Model.position`; so each field is read where it was written, and
`Value.Suits.readBack` takes the value through it.
-/

namespace SunSpec

/-! ## Counting instances -/

namespace Dataset

lemma foldl_le_iff {n : Nat} {f : Nat → Reading → Nat}
    (step : ∀ a r, f a r ≤ n ↔ a ≤ n ∧ ∀ k, r.index = some k → k < n) (rs : List Reading)
    (a : Nat) : rs.foldl f a ≤ n ↔ a ≤ n ∧ ∀ r ∈ rs, ∀ k, r.index = some k → k < n := by
  induction rs generalizing a with
  | nil => simp
  | cons r rs ih => rw [List.foldl_cons, ih, step, List.forall_mem_cons, and_assoc]

lemma repeatCount_le_iff (ds : Dataset) (n : Nat) :
    ds.repeatCount ≤ n ↔ ∀ s ∈ ds.readings.map Reading.slot, ∀ k, s.index = some k → k < n := by
  rw [repeatCount, foldl_le_iff, List.forall_mem_map]
  · exact and_iff_right (Nat.zero_le n)
  · intro a r
    cases r.index with
    | none => simp
    | some k =>
      have le : max a (k + 1) ≤ n ↔ a ≤ n ∧ k < n := Nat.max_le
      simp [le]

/-- The readings of all slots show how many instances there are. -/
lemma repeatCount_eq {m : Model} (laidOut : m.LaidOut) (orderly : m.Orderly) {count : Nat}
    (single : m.repeatingBlock? = none → count = 0) {ds : Dataset}
    (slots : ds.readings.map Reading.slot = m.slots count) : ds.repeatCount = count := by
  apply Nat.le_antisymm
  · rw [repeatCount_le_iff, slots]
    intro s hs k index
    obtain ⟨b, -, -, ⟨-, none⟩ | ⟨-, j, lt, some⟩⟩ := Model.LaidOut.exists_block_of_mem_slots hs
    · rw [none] at index
      cases index
    · rw [some] at index
      cases index
      exact lt
  · cases count with
    | zero => exact Nat.zero_le _
    | succ k =>
      cases hr : m.repeatingBlock? with
      | none => exact absurd (single hr) (Nat.succ_ne_zero k)
      | some b =>
        obtain ⟨s, hs, index⟩ := laidOut.exists_slot orderly hr (Nat.lt_succ_self k)
        rw [← slots] at hs
        exact (ds.repeatCount_le_iff _).1 le_rfl s hs k index

end Dataset

/-! ## What was written -/

/-- The zero of a type that can be read but not written. -/
def Value.unwritten? : PointType → Option Value
  | .int64 => some (.ofInt64 0)
  | .uint64 => some (.ofUInt64 0)
  | .float64 => some (.ofFloat64 0)
  | _ => none

lemma Value.sameDatum_unwritten {e : Encoding} (wire : e.type.isSkipped = false)
    (unwritten : e.type.isEncodable = false) : ∃ z, unwritten? e.type = some z ∧
      (ofPayload e (Codec.payload e.type (List.replicate e.size 0))).SameDatum z := by
  obtain ⟨t, len⟩ := e
  cases t with
  | int64 | uint64 | float64 => exact ⟨_, rfl, rfl, rfl, rfl, rfl⟩
  | null | undef => cases wire
  | _ => cases unwritten

lemma PointValue.covers_iff {g : PointValue} {name : String} {index : Option Nat} :
    g.covers name index = true ↔ g.point = name ∧ (g.index = none ∨ g.index = index) := by
  simp [covers]

namespace DataBlock

/-- What is read at a slot of a data block that was written. -/
inductive Shows (d : DataBlock) (s : Slot) (v : Value) : Prop
  /-- The point has no wire form. -/
  | skipped (skipped : s.point.isSkipped = true) (eq : v = .undefined s.point.encoding)
  /-- The type of the point can be read but not written. -/
  | zero {z : Value} (unwritten : Value.unwritten? s.point.encoding.type = some z)
      (same : v.SameDatum z)
  /-- A value was given; of several the last one counts. -/
  | given {before after : List PointValue} {g : PointValue} {w : Value}
      (written : s.isWritten = true) (values : d.values = before ++ g :: after)
      (covers : g.covers s.point.name s.index = true)
      (last : ∀ x ∈ after, x.covers s.point.name s.index = false)
      (fitted : g.value.fitTo s.point = .ok w) (same : v.SameDatum w)
  /-- No value was given. -/
  | missing (written : s.isWritten = true)
      (none : ∀ x ∈ d.values, x.covers s.point.name s.index = false)
      (same : v.SameDatum (.sentinel s.point.encoding))

variable {d : DataBlock}

/-- The value of a slot suits its point, and a reading that says the same is as it should be. -/
lemma shows_of_valueAt (made : ∀ g ∈ d.values, g.value.Made) {s : Slot} {w : Value}
    (value : d.valueAt s = .ok w) :
    w.Suits s.point ∧ (s.isWritten = true → ∀ {v : Value}, v.SameDatum w → d.Shows s v) := by
  unfold valueAt valueFor at value
  cases found : d.values.reverse.find? fun x => x.covers s.point.name s.index with
  | none =>
    simp only [found, Option.map_none, Except.ok.injEq] at value
    subst value
    refine ⟨Value.suits_sentinel s.point, fun written v same => .missing written ?_ same⟩
    simpa using found
  | some g =>
    simp only [found, Option.map_some] at value
    obtain ⟨covers, after, before, split, last⟩ := List.find?_eq_some_iff_append.1 found
    have values : d.values = before.reverse ++ g :: after.reverse := by
      rw [← List.reverse_reverse d.values, split]
      simp
    have mem : g ∈ d.values := by simp [values]
    refine ⟨Value.suits_of_fitTo (Value.wellFormed_of_made (made g mem)) value,
      fun written v same => .given written values covers ?_ value same⟩
    simpa using last

/-! ## The image -/

lemma instances_of_flat {m : Model} (flat : m.hasRepeating = false) : d.instances m = 0 := by
  rw [instances, flat]
  rfl

lemma payloadRegisters_ok {m : Model} {declared : UInt16}
    (h : d.payloadRegisters m = .ok declared) :
    declared.toNat = m.baseLen.toNat + d.instances m * m.repeatLen.toNat := by
  unfold payloadRegisters at h
  dsimp only at h
  split at h
  · cases h
  · split at h
    · next lt =>
      cases h
      rw [UInt16.toNat_ofNat_of_lt' lt, Nat.add_comm]
    · cases h

/-- An image is a header and the payload that the plan makes. -/
lemma encode_ok {e : Entry} {regs : List UInt16} (h : d.encode e = .ok regs) :
    ∃ declared, d.payloadRegisters e.model = .ok declared ∧
      (d.plan e.model declared).fault = none ∧
      regs = e.id :: declared ::
        Registers.ofBytes (payload declared (d.plan e.model declared).placements) := by
  unfold encode at h
  obtain ⟨declared, counted, h⟩ := exists_of_bind_eq_ok h
  refine ⟨declared, counted, ?_⟩
  dsimp only at h
  cases hf : (d.plan e.model declared).fault with
  | some f => simp [hf, throw, throwThe, MonadExceptOf.throw] at h
  | none =>
    simp only [hf, pure, Except.pure, Except.ok.injEq] at h
    exact ⟨rfl, h.symm⟩

/-- The other way round, a walk that comes to its end makes an image. -/
lemma encode_of_plan {e : Entry} {declared : UInt16}
    (counted : d.payloadRegisters e.model = .ok declared)
    (unstopped : (d.plan e.model declared).fault = none) :
    d.encode e = .ok (e.id :: declared ::
      Registers.ofBytes (payload declared (d.plan e.model declared).placements)) := by
  unfold encode
  simp only [counted, bind, Except.bind, unstopped, pure, Except.pure]

/-- The payload of an image has as many registers as its header declares. -/
lemma length_image (declared : UInt16) (qs : List Placement) :
    (Registers.ofBytes (payload declared qs)).length = declared.toNat := by
  have length := length_payload declared qs
  have whole := Registers.toBytes_ofBytes (payload declared qs) (by omega)
  have count := congrArg List.length whole
  rw [Registers.length_toBytes] at count
  omega

/-- On the wire an image is its header and the payload, byte by byte. -/
lemma toBytes_image (id declared : UInt16) (qs : List Placement) :
    Registers.toBytes (id :: declared :: Registers.ofBytes (payload declared qs)) =
      Registers.toBytes [id, declared] ++ payload declared qs := by
  rw [Registers.toBytes_cons, Registers.toBytes_cons,
    Registers.toBytes_ofBytes _ (by rw [length_payload]; exact Nat.mul_mod_right 2 _)]
  simp

/-- What a placement is made of, at the position of its slot. -/
lemma Placed.spec (made : ∀ g ∈ d.values, g.value.Made) {m : Model} {available : Nat}
    {q : Placement} (h : d.Placed m available q) :
    q.start = m.position q.slot ∧ d.valueAt q.slot = .ok q.value ∧
      q.bytes.length = q.slot.point.size ∧ q.stop ≤ available ∧
      (Value.ofPayload q.slot.point.encoding
        (Codec.payload q.slot.point.encoding.type q.bytes)).SameDatum q.value := by
  obtain ⟨-, start, value, room, written⟩ := place_ok h
  obtain ⟨length, same⟩ := (shows_of_valueAt made value).1.readBack written
  refine ⟨start, value, length, ?_, same⟩
  rw [Placement.stop, start, length]
  exact room

variable {m : Model} {declared : UInt16} {qs : List Placement}

/-- Every field of a payload that was written shows what it should. -/
lemma shows_payload (laidOut : m.LaidOut) (orderly : m.Orderly)
    (made : ∀ g ∈ d.values, g.value.Made)
    (counted : declared.toNat = m.baseLen.toNat + d.instances m * m.repeatLen.toNat)
    (slots : qs.map Placement.slot = (m.slots (d.instances m)).filter Slot.isWritten)
    (placed : ∀ q ∈ qs, d.Placed m (2 * declared.toNat) q) {s : Slot}
    (hs : s ∈ m.slots (d.instances m)) :
    d.Shows s (s.point.valueIn ((payload declared qs).drop (m.position s))) := by
  have spec := fun q hq => (placed q hq).spec made
  have ordered : qs.Pairwise fun q r => q.stop ≤ r.start :=
    laidOut.pairwise_placements orderly slots fun q hq => ⟨(spec q hq).1, (spec q hq).2.2.1⟩
  have room : ∀ q ∈ qs, q.stop ≤ 2 * declared.toNat := fun q hq => (spec q hq).2.2.2.1
  have mem : ∀ t, (∃ q ∈ qs, q.slot = t) ↔ t ∈ m.slots (d.instances m) ∧ t.isWritten = true := by
    intro t
    rw [← List.mem_filter, ← slots, List.mem_map]
  by_cases skipped : s.point.isSkipped = true
  · refine .skipped skipped ?_
    rw [Point.valueIn, if_pos skipped]
  have wire : s.point.isSkipped = false := by simpa using skipped
  by_cases written : s.isWritten = true
  · -- the field holds the bytes of its own placement
    obtain ⟨q, hq, rfl⟩ := (mem s).2 ⟨hs, written⟩
    obtain ⟨start, value, length, -, same⟩ := spec q hq
    have field := field_payload_of_mem ordered room hq
    rw [start, length] at field
    refine (shows_of_valueAt made value).2 written ?_
    rw [Point.valueIn, wire, field]
    exact same
  · -- no placement reaches into the field
    have apart : ∀ q ∈ qs, m.position s + s.point.size ≤ q.start ∨ q.stop ≤ m.position s := by
      intro q hq
      obtain ⟨ht, other⟩ := (mem q.slot).1 ⟨q, hq, rfl⟩
      obtain ⟨start, -, length, -⟩ := spec q hq
      have ne : s ≠ q.slot := by
        rintro rfl
        exact written other
      have size := s.point.size_le_registers
      have size' := q.slot.point.size_le_registers
      have := laidOut.apart_of_ne orderly hs ht ne
      rw [Placement.stop, start, length]
      omega
    have inside := (laidOut.field_le orderly.inOrder hs).2
    have size := s.point.size_le_registers
    rw [← counted] at inside
    have field := field_payload_of_apart (by omega : _ ≤ 2 * declared.toNat) apart
    have unwritten : s.point.encoding.type.isEncodable = false := by
      simpa [Slot.isWritten] using written
    obtain ⟨z, zero, same⟩ := Value.sameDatum_unwritten wire unwritten
    refine .zero zero ?_
    rw [Point.valueIn, wire, field]
    exact same

/-! ## The round trip -/

/-- **A data block is read back as it was given.**  Whatever `encode` accepts, `decode` reads to
the end without a diagnostic: as many instances as the data block repeats, if the model has a block
that does, all points in block, instance and point order, and at each of them what `Shows` asks
for. -/
theorem decode_encode {source : Model} {name : String}
    (accepted : (source.resolve name).fault = none) {e : Entry}
    (resolved : e.model = (source.resolve name).model) {registry : Registry}
    (held : registry.get? e.id = some e) (orderly : e.model.Orderly)
    (made : ∀ g ∈ d.values, g.value.Made) {regs : List UInt16} (encoded : d.encode e = .ok regs) :
    ∃ ds, Dataset.decode registry (Registers.toBytes regs) = .ok ds ∧ ds.isPartial = false ∧
      ds.diagnostics = [] ∧
      ds.repeatCount = (if e.model.repeatingBlock?.isSome then d.repeats.toNat else 0) ∧
      ds.readings.map Reading.slot = e.model.slots ds.repeatCount ∧
      ∀ r ∈ ds.readings, d.Shows r.slot r.value := by
  have laidOut : e.model.LaidOut := resolved ▸ Model.laidOut_of_resolve accepted
  have repeating : e.model.hasRepeating = e.model.repeatingBlock?.isSome := by
    rw [Bool.eq_iff_iff, laidOut.hasRepeating_iff, Option.isSome_iff_exists]
    constructor
    · rintro ⟨b, hb, -⟩
      exact ⟨b, hb⟩
    · rintro ⟨b, hb⟩
      exact ⟨b, hb, laidOut.len_pos_of_repeating orderly hb⟩
  have instances : d.instances e.model =
      if e.model.repeatingBlock?.isSome then d.repeats.toNat else 0 := by
    rw [instances, repeating]
  obtain ⟨declared, counted, unstopped, rfl⟩ := encode_ok encoded
  have counted := payloadRegisters_ok counted
  obtain ⟨slots, placed⟩ := laidOut.placed_of_plan unstopped
  obtain ⟨fits, count⟩ :=
    Model.checkLength_of_eq laidOut.baseLen_le_len instances_of_flat counted
  have length := length_payload declared (d.plan e.model declared).placements
  have read := Dataset.ofPayload_of_fits laidOut orderly fits length.ge
  rw [count] at read
  rw [toBytes_image]
  refine ⟨_, Dataset.decode_header held declared _, ?_⟩
  have covered : (Dataset.ofPayload e declared
      (payload declared (d.plan e.model declared).placements)).readings.map Reading.slot =
        e.model.slots (d.instances e.model) := by
    rw [read, List.map_map]
    exact List.map_id'' (fun _ => rfl) _
  have single : e.model.repeatingBlock? = none → d.instances e.model = 0 := by
    intro none
    rw [instances, none]
    rfl
  have repeatCount := Dataset.repeatCount_eq laidOut orderly single covered
  rw [repeatCount]
  refine ⟨by rw [read], by rw [read]; rfl, instances, covered, ?_⟩
  intro r hr
  rw [read] at hr
  obtain ⟨s, hs, rfl⟩ := List.mem_map.1 hr
  exact shows_payload laidOut orderly made counted slots placed hs

end DataBlock

/-! ### Values for a converter

A string that must be cut and is no text, a point without a value, and inputs that take a value of
their own, one that holds for all of them and one of a type that is not written. -/

/-- Values for two inputs. -/
def converterBlock : DataBlock where
  name := "roof"
  modelId := 160
  repeats := 2
  values := [⟨"SF", none, .ofScaleFactor (-2)⟩, ⟨"Nm", none, .ofBytes [0x41, 0xC3, 0x42] 3⟩,
    ⟨"ID", none, .ofUInt16 1⟩, ⟨"ID", some 1, .ofUInt16 2⟩, ⟨"WH", some 0, .ofUInt64 7⟩]

/-- The registers of the converter with these values. -/
def converterImage : List UInt16 :=
  [160, 18, 0xFFFE, 0x41C3, 0x4200, 0, 0, 0, 0, 0, 1, 0, 0, 0, 0, 2, 0, 0, 0, 0]

theorem DataBlock.decode_encode_converter :
    (converter.model.resolve converter.name).fault = none ∧
      laidConverter.model = (converter.model.resolve converter.name).model ∧
      converterRegistry.get? laidConverter.id = some laidConverter ∧
      laidConverter.model.Orderly ∧ (∀ g ∈ converterBlock.values, g.value.Made) ∧
      converterBlock.encode laidConverter = .ok converterImage ∧
      ∃ ds, Dataset.decode converterRegistry (Registers.toBytes converterImage) = .ok ds ∧
        ds.isPartial = false ∧ ds.diagnostics = [] ∧ ds.repeatCount = 2 ∧
        ds.readings.map Reading.slot = laidConverter.model.slots 2 ∧
        ∀ r ∈ ds.readings, converterBlock.Shows r.slot r.value := by
  have accepted : (converter.model.resolve converter.name).fault = none := rfl
  have held : converterRegistry.get? laidConverter.id = some laidConverter := rfl
  have orderly : laidConverter.model.Orderly := by decide
  have made : ∀ g ∈ converterBlock.values, g.value.Made := by
    simp only [converterBlock, List.forall_mem_cons]
    exact ⟨.ofScaleFactor _, .ofBytes _ _, .ofUInt16 _, .ofUInt16 _, .ofUInt64 _, by simp⟩
  have encoded : converterBlock.encode laidConverter = .ok converterImage := by decide
  obtain ⟨ds, decoded, whole, clean, count, slots, shown⟩ :=
    DataBlock.decode_encode accepted rfl held orderly made encoded
  have count : ds.repeatCount = 2 := count
  rw [count] at slots
  exact ⟨accepted, rfl, held, orderly, made, encoded, ds, decoded, whole, clean, count, slots,
    shown⟩

end SunSpec
