import Mathlib.Data.List.Nodup
import SunSpec.Proofs.RoundTrip
import SunSpec.Proofs.WireImage

/-!
# Reading an instance and writing it back

The other way round from `Proofs/RoundTrip.lean`: what a device sent is read, every reading is
given to a data block under its own name and instance (`Dataset.toDataBlock`), and the data block
is written.  No value is lost on the way, whatever the device sent: each field that can be written
holds the bytes that were received, and every other byte is zero.

Three facts carry it.  Names that are distinct lead each slot back to its own value
(`DataBlock.valueFor_of_slots`).  A value that was read off a field is written as the field
(`DataBlock.place_of_valueFor`, from `Codec.encodeWithin_ofPayload`), so that by
`Model.LaidOut.unstopped_of_place` nothing stops the writer.  And byte by byte the image is that of
its placements (`DataBlock.getElem?_payload_of_mem` and `_of_apart`).
-/

namespace SunSpec

/-- A reading as a value for its point and its instance. -/
def Reading.toPointValue (r : Reading) : PointValue := ⟨r.name, r.index, r.value⟩

/-- The data block that writes back what was read. -/
def Dataset.toDataBlock (ds : Dataset) (name : String) : DataBlock where
  name
  modelId := ds.entry.id
  repeats := UInt64.ofNat (ds.entry.model.instancesIn ds.declared)
  values := ds.readings.map Reading.toPointValue

/-- Byte `i` of the payload belongs to the field of a slot. -/
def Model.Covers (m : Model) (s : Slot) (i : Nat) : Prop :=
  m.position s ≤ i ∧ i < m.position s + s.point.size

instance (m : Model) (s : Slot) (i : Nat) : Decidable (m.Covers s i) :=
  inferInstanceAs (Decidable (m.position s ≤ i ∧ i < m.position s + s.point.size))

/-! ## The value of a slot -/

namespace Model

variable {m : Model} {count : Nat} {s t : Slot}

/-- A name that only one point has tells the point, and its block. -/
lemma eq_of_name (distinct : (m.points.map Point.name).Nodup) {b c : Block} (hb : b ∈ m.blocks)
    (hc : c ∈ m.blocks) {p q : Point} (hp : p ∈ b.points) (hq : q ∈ c.points)
    (same : p.name = q.name) : p = q ∧ b = c := by
  have mem : ∀ {b : Block}, b ∈ m.blocks → ∀ {p : Point}, p ∈ b.points → p ∈ m.points :=
    fun hb _ hp => List.mem_flatMap.2 ⟨_, hb, hp⟩
  have eq : p = q := List.inj_on_of_nodup_map distinct (mem hb hp) (mem hc hq) same
  refine ⟨eq, ?_⟩
  by_contra ne
  have once : (m.blocks.flatMap (·.points)).Nodup := List.Nodup.of_map Point.name distinct
  have symm : Std.Symm (Function.onFun List.Disjoint fun b : Block => b.points) :=
    ⟨fun _ _ => List.disjoint_symm⟩
  have apart := (List.nodup_flatMap.1 once).2.forall hb hc ne
  exact apart hp (eq ▸ hq)

/-- Where names are distinct, a value for a slot holds for no other slot. -/
lemma eq_of_covers (distinct : (m.points.map Point.name).Nodup) (hs : s ∈ m.slots count)
    (ht : t ∈ m.slots count) {v : Value}
    (covers : PointValue.covers ⟨t.point.name, t.index, v⟩ s.point.name s.index = true) :
    t = s := by
  obtain ⟨name, index⟩ :
      t.point.name = s.point.name ∧ (t.index = none ∨ t.index = s.index) :=
    PointValue.covers_iff.1 covers
  obtain ⟨b, hb, hp, place⟩ := LaidOut.exists_block_of_mem_slots ht
  obtain ⟨c, hc, hq, place'⟩ := LaidOut.exists_block_of_mem_slots hs
  obtain ⟨point, rfl⟩ := eq_of_name distinct hb hc hp hq name
  have index : t.index = s.index := by
    rcases index with none | same
    · -- the point stands once, so the slot asked for carries no number either
      rcases place with ⟨fixed, -⟩ | ⟨-, k, -, some⟩
      · rcases place' with ⟨-, none'⟩ | ⟨repeating, -⟩
        · rw [none, none']
        · rw [fixed] at repeating
          cases repeating
      · rw [some] at none
        cases none
    · exact same
  obtain ⟨point', index'⟩ := s
  cases t
  cases point
  cases index
  rfl

end Model

namespace DataBlock

variable {d : DataBlock} {m : Model} {count : Nat} {s : Slot}

/-- Of values for all slots, each slot gets its own. -/
lemma valueFor_of_slots (distinct : (m.points.map Point.name).Nodup) {value : Slot → Value}
    (values : d.values = (m.slots count).map fun s => ⟨s.point.name, s.index, value s⟩)
    (hs : s ∈ m.slots count) : d.valueFor s.point.name s.index = some (value s) := by
  unfold valueFor
  cases found : d.values.reverse.find? fun v => v.covers s.point.name s.index with
  | none =>
    have own : (⟨s.point.name, s.index, value s⟩ : PointValue) ∈ d.values := by
      rw [values]
      exact List.mem_map_of_mem hs
    have missed := List.find?_eq_none.1 found _ (List.mem_reverse.2 own)
    simp [PointValue.covers] at missed
  | some g =>
    have mem : g ∈ d.values := List.mem_reverse.1 (List.mem_of_find?_eq_some found)
    rw [values] at mem
    obtain ⟨t, ht, rfl⟩ := List.mem_map.1 mem
    have covers := List.find?_some found
    obtain rfl := Model.eq_of_covers distinct hs ht covers
    rfl

/-! ## Fields that were read -/

lemma fitTo_valueIn {p : Point} (wire : p.isSkipped = false) (bytes : List UInt8) :
    (p.valueIn bytes).fitTo p = .ok (p.valueIn bytes) := by
  have encoding : (p.valueIn bytes).encoding = p.encoding := by
    simp [Point.valueIn, wire]
  exact Value.fitTo_of_encoding_eq encoding

/-- A point takes the value that was read off a field, and writes the field. -/
lemma place_of_valueFor {p : Point} {index : Option Nat} {bytes : List UInt8}
    {available start : Nat} (written : Slot.isWritten ⟨p, index⟩ = true)
    (given : d.valueFor p.name index = some (p.valueIn bytes)) (whole : p.size ≤ bytes.length)
    (room : start + p.size ≤ available) :
    d.place available index p start =
      .ok ⟨p, index, p.valueIn bytes, start, bytes.take p.size⟩ := by
  have encodable : p.encoding.type.isEncodable = true := written
  have wire : p.isSkipped = false := PointType.isSkipped_of_isEncodable encodable
  have value : p.valueIn bytes =
      .ofPayload p.encoding (Codec.payload p.encoding.type (bytes.take p.size)) := by
    simp [Point.valueIn, wire]
  have field : (bytes.take p.size).length = p.encoding.size := by
    rw [List.length_take, Nat.min_eq_left whole, Point.size]
  have bytes_eq : Codec.encodeWithin p.size (p.valueIn bytes) = .ok (bytes.take p.size) := by
    rw [value]
    exact Codec.encodeWithin_ofPayload encodable field le_rfl
  have fitted : d.valueAt ⟨p, index⟩ = .ok (p.valueIn bytes) := by
    simp only [valueAt, given, fitTo_valueIn wire]
  exact place_of_valueAt fitted room bytes_eq

/-! ## The image, byte by byte -/

variable {declared : UInt16} {qs : List Placement} {i : Nat}

lemma getElem?_payload_of_mem (ordered : qs.Pairwise fun q r => q.stop ≤ r.start)
    (room : ∀ q ∈ qs, q.stop ≤ 2 * declared.toNat) {q : Placement} (hq : q ∈ qs) {j : Nat}
    (inside : j < q.bytes.length) : (payload declared qs)[q.start + j]? = q.bytes[j]? := by
  rw [payload_eq, Array.getElem?_toList]
  exact Placement.getElem?_layOver_of_mem ordered (by simpa using room) hq inside

lemma getElem?_payload_of_apart (lt : i < 2 * declared.toNat)
    (apart : ∀ q ∈ qs, i < q.start ∨ q.stop ≤ i) : (payload declared qs)[i]? = some 0 := by
  rw [payload_eq, Array.getElem?_toList, Placement.getElem?_layOver_of_apart apart,
    Array.getElem?_replicate, if_pos lt]

/-! ## The size of the image -/

/-- A length that a header declares is one that a header can declare. -/
lemma payloadRegisters_of_eq
    (eq : declared.toNat = m.baseLen.toNat + d.instances m * m.repeatLen.toNat) :
    d.payloadRegisters m = .ok declared := by
  have lt := declared.toNat_lt
  have total : d.instances m * m.repeatLen.toNat + m.baseLen.toNat = declared.toNat := by omega
  unfold payloadRegisters
  dsimp only
  rw [total, if_neg (by simp only [UInt64.size]; omega), if_pos lt, UInt16.ofNat_toNat]

/-- A data block that repeats as often as a length has room for has as many instances. -/
lemma instances_of_repeats (repeats : d.repeats.toNat = m.instancesIn declared) :
    d.instances m = m.instancesIn declared := by
  unfold instances
  by_cases repeating : m.hasRepeating = true
  · rw [if_pos repeating, repeats]
  · rw [if_neg repeating, Model.instancesIn, if_neg repeating]

end DataBlock

/-- The instances that a length has room for can be counted in 64 bits. -/
lemma Model.toNat_instancesIn (m : Model) (declared : UInt16) :
    (UInt64.ofNat (m.instancesIn declared)).toNat = m.instancesIn declared := by
  refine UInt64.toNat_ofNat_of_lt' ?_
  have declared_lt := declared.toNat_lt
  unfold instancesIn
  split
  · have le := Nat.div_le_self (declared.toNat - m.baseLen.toNat) m.repeatLen.toNat
    simp only [UInt64.size]
    omega
  · decide

namespace Dataset

lemma toNat_repeats (ds : Dataset) (name : String) :
    (ds.toDataBlock name).repeats.toNat = ds.entry.model.instancesIn ds.declared :=
  ds.entry.model.toNat_instancesIn ds.declared

lemma instances_toDataBlock (ds : Dataset) (name : String) :
    (ds.toDataBlock name).instances ds.entry.model = ds.entry.model.instancesIn ds.declared :=
  DataBlock.instances_of_repeats (ds.toNat_repeats name)

end Dataset

/-! ## Writing back -/

/-- The placement that puts the field of a slot back where it stands in a payload. -/
def Slot.restored (m : Model) (payload : List UInt8) (s : Slot) : Placement where
  point := s.point
  index := s.index
  value := s.point.valueIn (payload.drop (m.position s))
  start := m.position s
  bytes := (payload.drop (m.position s)).take s.point.size

namespace DataBlock

variable {d : DataBlock} {m : Model} {declared : UInt16} {payload : List UInt8}

/-- A field inside the payload is restored at its full size. -/
lemma length_restored (laidOut : m.LaidOut) (orderly : m.Orderly)
    (length : payload.length = 2 * declared.toNat)
    (counted : declared.toNat = m.baseLen.toNat + d.instances m * m.repeatLen.toNat) {s : Slot}
    (hs : s ∈ m.slots (d.instances m)) :
    (s.restored m payload).bytes.length = s.point.size ∧
      m.position s + s.point.size ≤ 2 * declared.toNat := by
  have field := (laidOut.field_le orderly.inOrder hs).2
  have size := s.point.size_le_registers
  rw [← counted] at field
  refine ⟨?_, by omega⟩
  rw [Slot.restored, List.length_take, List.length_drop]
  omega

/-- With the values that were read off a payload, the writer restores every field. -/
lemma plan_of_readings (laidOut : m.LaidOut) (orderly : m.Orderly)
    (distinct : (m.points.map Point.name).Nodup)
    (length : payload.length = 2 * declared.toNat)
    (counted : declared.toNat = m.baseLen.toNat + d.instances m * m.repeatLen.toNat)
    (values : d.values = (m.slots (d.instances m)).map fun s =>
      ⟨s.point.name, s.index, s.point.valueIn (payload.drop (m.position s))⟩) :
    (d.plan m declared).fault = none ∧ (d.plan m declared).placements =
      ((m.slots (d.instances m)).filter Slot.isWritten).map (Slot.restored m payload) := by
  have restored : ∀ s ∈ m.slots (d.instances m), s.isWritten = true →
      d.place (2 * declared.toNat) s.index s.point (m.position s) =
        .ok (s.restored m payload) := by
    intro s hs written
    have given := valueFor_of_slots distinct values hs
    have room := (length_restored laidOut orderly length counted hs).2
    exact place_of_valueFor written given (by rw [List.length_drop]; omega) room
  have unstopped : (d.plan m declared).fault = none :=
    laidOut.unstopped_of_place fun s hs written => ⟨_, restored s hs written⟩
  refine ⟨unstopped, ?_⟩
  obtain ⟨slots, placed⟩ := laidOut.placed_of_plan unstopped
  rw [← slots, List.map_map]
  -- each placement is the one that its slot has
  refine (List.map_id'' (fun _ => rfl) _).symm.trans (List.map_congr_left fun q hq => ?_)
  have mem : q.slot ∈ (m.slots (d.instances m)).filter Slot.isWritten := by
    rw [← slots]
    exact List.mem_map_of_mem hq
  obtain ⟨hs, written⟩ := List.mem_filter.1 mem
  exact Except.ok.inj ((placed q hq).symm.trans (restored q.slot hs written))

/-- Values that were read off a payload are laid over zeros where they stood in it. -/
lemma encode_of_readings {e : Entry} (laidOut : e.model.LaidOut) (orderly : e.model.Orderly)
    (distinct : (e.model.points.map Point.name).Nodup)
    (length : payload.length = 2 * declared.toNat)
    (counted : declared.toNat = e.model.baseLen.toNat +
      d.instances e.model * e.model.repeatLen.toNat)
    (values : d.values = (e.model.slots (d.instances e.model)).map fun s =>
      ⟨s.point.name, s.index, s.point.valueIn (payload.drop (e.model.position s))⟩) :
    ∃ regs image, d.encode e = .ok regs ∧
      Registers.toBytes regs = Registers.toBytes [e.id, declared] ++ image ∧
      image.length = payload.length ∧
      (∀ s ∈ e.model.slots (d.instances e.model), s.isWritten = true →
        ∀ i, e.model.Covers s i → image[i]? = payload[i]?) ∧
      ∀ i < payload.length, (∀ s ∈ e.model.slots (d.instances e.model), s.isWritten = true →
        ¬ e.model.Covers s i) → image[i]? = some 0 := by
  obtain ⟨unstopped, placements⟩ :=
    plan_of_readings laidOut orderly distinct length counted values
  have fill : ∀ s ∈ e.model.slots (d.instances e.model),
      (s.restored e.model payload).bytes.length = s.point.size ∧
        e.model.position s + s.point.size ≤ 2 * declared.toNat :=
    fun s hs => length_restored laidOut orderly length counted hs
  set qs := (d.plan e.model declared).placements with plan
  have of_mem : ∀ q ∈ qs, ∃ s ∈ e.model.slots (d.instances e.model), s.isWritten = true ∧
      s.restored e.model payload = q := by
    intro q hq
    rw [placements] at hq
    obtain ⟨s, hs, rfl⟩ := List.mem_map.1 hq
    obtain ⟨hs, written⟩ := List.mem_filter.1 hs
    exact ⟨s, hs, written, rfl⟩
  have ordered : qs.Pairwise fun q r => q.stop ≤ r.start := by
    refine laidOut.pairwise_placements orderly ((laidOut.placed_of_plan unstopped).1) ?_
    intro q hq
    obtain ⟨s, hs, -, rfl⟩ := of_mem q hq
    exact ⟨rfl, (fill s hs).1⟩
  have room : ∀ q ∈ qs, q.stop ≤ 2 * declared.toNat := by
    intro q hq
    obtain ⟨s, hs, -, rfl⟩ := of_mem q hq
    rw [Placement.stop, (fill s hs).1]
    exact (fill s hs).2
  refine ⟨e.id :: declared :: Registers.ofBytes (DataBlock.payload declared qs),
    DataBlock.payload declared qs, ?_, toBytes_image e.id declared qs, ?_, ?_, ?_⟩
  · rw [encode_of_plan (payloadRegisters_of_eq counted) unstopped, ← plan]
  · rw [length_payload, length]
  · intro s hs written i covers
    have hq : s.restored e.model payload ∈ qs := by
      rw [placements]
      exact List.mem_map_of_mem (List.mem_filter.2 ⟨hs, written⟩)
    obtain ⟨j, rfl⟩ := Nat.exists_eq_add_of_le covers.1
    have inside : j < s.point.size := by
      have := covers.2
      omega
    have byte := getElem?_payload_of_mem ordered room hq (by rw [(fill s hs).1]; exact inside)
    refine byte.trans ?_
    rw [Slot.restored, List.getElem?_take_of_lt inside, List.getElem?_drop]
  · intro i lt uncovered
    refine getElem?_payload_of_apart (by omega) fun q hq => ?_
    obtain ⟨s, hs, written, rfl⟩ := of_mem q hq
    have outside := uncovered s hs written
    rw [Placement.stop, (fill s hs).1]
    simp only [Model.Covers] at outside
    simp only [Slot.restored]
    omega

end DataBlock

/-- **What a device sent is written back as it was.**  Of a model of a registry that was built,
whose points are in order and have names of their own, every instance with a length that fits is
read, and the data block that holds what was read is written: under the same header, with the
bytes that were received in every field that can be written, and with zeros everywhere else. -/
theorem Dataset.encode_decode {c : Catalogue} {registry : Registry}
    (built : c.build = .ok registry) {id : UInt16} {e : Entry}
    (held : registry.get? id = some e) (orderly : e.model.Orderly)
    (distinct : (e.model.points.map Point.name).Nodup) {declared : UInt16}
    (fits : e.model.checkLength id declared = none) {payload : List UInt8}
    (length : payload.length = 2 * declared.toNat) (name : String) :
    let slots := e.model.slots (e.model.instancesIn declared)
    ∃ ds regs image,
      Dataset.decode registry (Registers.toBytes [id, declared] ++ payload) = .ok ds ∧
      (ds.toDataBlock name).repeats.toNat = e.model.instancesIn declared ∧
      (ds.toDataBlock name).encode e = .ok regs ∧
      Registers.toBytes regs = Registers.toBytes [id, declared] ++ image ∧
      image.length = payload.length ∧
      (∀ s ∈ slots, s.isWritten = true → ∀ i, e.model.Covers s i → image[i]? = payload[i]?) ∧
      ∀ i < payload.length, (∀ s ∈ slots, s.isWritten = true → ¬ e.model.Covers s i) →
        image[i]? = some 0 := by
  intro slots
  obtain ⟨mem, rfl⟩ := Registry.mem_of_get? held
  have laidOut := Registry.laidOut_of_build built mem
  have read := ofPayload_of_fits laidOut orderly fits length.ge
  set ds := Dataset.ofPayload e declared payload with source
  have entry : ds.entry = e := by rw [read]
  have header : ds.declared = declared := by rw [read]
  have instances : (ds.toDataBlock name).instances e.model = e.model.instancesIn declared := by
    have eq := ds.instances_toDataBlock name
    rw [entry, header] at eq
    exact eq
  have counted := Model.declared_eq laidOut.baseLen_le_len fits
  rw [← instances] at counted
  have values : (ds.toDataBlock name).values =
      (e.model.slots ((ds.toDataBlock name).instances e.model)).map fun s =>
        ⟨s.point.name, s.index, s.point.valueIn (payload.drop (e.model.position s))⟩ := by
    rw [instances, Dataset.toDataBlock, read, List.map_map]
    rfl
  obtain ⟨regs, image, encoded, wire, size, kept, blank⟩ :=
    DataBlock.encode_of_readings laidOut orderly distinct length counted values
  rw [instances] at kept blank
  have repeats := ds.toNat_repeats name
  rw [entry, header] at repeats
  exact ⟨ds, regs, image, decode_header held declared payload, repeats, encoded, wire, size, kept,
    blank⟩

/-- Two inputs of a converter that has nothing to say: sentinels, a name that is no text and goes
on behind a zero, and something in every place that belongs to no point. -/
def silentRegisters : List UInt16 :=
  [0x8000, 0xC300, 0x41FF, 0x807F, 0xDEAD, 0xBEEF, 0xFFFF, 0xFFFF, 0xFFFF, 1, 2, 3, 4, 0xFFFF, 5, 6,
    7, 8]

theorem Dataset.encode_decode_silent :
    converterCatalogue.build = .ok converterRegistry ∧
      converterRegistry.get? 160 = some laidConverter ∧ laidConverter.model.Orderly ∧
      (laidConverter.model.points.map Point.name).Nodup ∧
      laidConverter.model.checkLength 160 18 = none ∧
      (Registers.toBytes silentRegisters).length = 2 * (18 : UInt16).toNat ∧
      ∃ ds regs image,
        Dataset.decode converterRegistry
          (Registers.toBytes [160, 18] ++ Registers.toBytes silentRegisters) = .ok ds ∧
        (ds.toDataBlock "silent").repeats.toNat = 2 ∧
        (ds.toDataBlock "silent").encode laidConverter = .ok regs ∧
        Registers.toBytes regs = Registers.toBytes [160, 18] ++ image ∧
        -- the last byte of the name, the byte behind it, and a byte of the second input
        image[6]? = some 0x80 ∧ image[7]? = some 0 ∧ image[27]? = some 0xFF := by
  have built : converterCatalogue.build = .ok converterRegistry := rfl
  have held : converterRegistry.get? 160 = some laidConverter := rfl
  have orderly : laidConverter.model.Orderly := by decide
  have distinct : (laidConverter.model.points.map Point.name).Nodup := by decide
  have fits : laidConverter.model.checkLength 160 18 = none := by decide
  have length : (Registers.toBytes silentRegisters).length = 2 * (18 : UInt16).toNat := by decide
  obtain ⟨ds, regs, image, read, repeats, encoded, wire, -, kept, blank⟩ :=
    Dataset.encode_decode built held orderly distinct fits length "silent"
  refine ⟨built, held, orderly, distinct, fits, length, ds, regs, image, read, repeats, encoded,
    wire, ?_, ?_, ?_⟩
  · refine (kept ⟨⟨"Nm", .string 5, some 4, []⟩, none⟩ (by decide) rfl 6 (by decide)).trans ?_
    decide
  · exact blank 7 (by decide) (by decide)
  · refine (kept ⟨⟨"ID", .plain .uint16, some 11, []⟩, some 1⟩ (by decide) rfl 27
      (by decide)).trans ?_
    decide

end SunSpec
