import SunSpec.Dataset
import SunSpec.Proofs.Slots
import SunSpec.Proofs.WireForm

/-!
# Reading an instance that keeps to its model

A device conforms when it declares a length that its model can have and sends that many registers.
This file says what `Dataset.decode` makes of such an instance.  The reader walks the blocks with a
cursor that each block moves by what it consumed; `Model.LaidOut.readBlocks_eq` shows that, where
blocks are in order, this walk reads a payload of the right length slot by slot, each at its
position, to the last byte and without a diagnostic.  The steps are `Block.PlacedAt.readPoints_eq`
for the points of one instance, `Block.PlacedAt.readInstances_eq` for the instances of one block,
and an induction over the blocks.

`Dataset.ofPayload_of_fits` is the form that other files build on.  The theorem behind it says the
same in the terms of a device: offsets into the buffer that was received.
-/

namespace SunSpec

/-- The slot that a reading is of. -/
def Reading.slot (r : Reading) : Slot := ⟨r.point, r.index⟩

/-- The value that a point has when its field is at the front of the bytes. -/
def Point.valueIn (p : Point) (bytes : List UInt8) : Value :=
  if p.isSkipped then .undefined p.encoding
  else .ofPayload p.encoding (Codec.payload p.encoding.type (bytes.take p.size))

/-- The reading of a slot whose field is at the front of the bytes. -/
def Slot.readingIn (s : Slot) (bytes : List UInt8) : Reading :=
  ⟨s.point, s.index, s.point.valueIn bytes⟩

/-- The readings of instance `k` of a block, off the bytes of all its instances. -/
def Block.instanceReadings (b : Block) (first : Nat) (bytes : List UInt8) (k : Nat) :
    List Reading :=
  b.points.map fun p =>
    Slot.readingIn ⟨p, b.indexOf k⟩ (bytes.drop (k * b.unit + 2 * (p.first - first)))

lemma Codec.decode_of_size_le {p : Point} {bytes : List UInt8} (wire : p.isSkipped = false)
    (room : p.size ≤ bytes.length) : Codec.decode p.encoding bytes = .ok (p.valueIn bytes) := by
  refine Codec.decode_eq_ok_iff.2 ⟨wire, room, ?_⟩
  rw [Point.valueIn, wire]
  rfl

/-- A field that ends inside a slice is read off the slice as off the whole. -/
lemma Point.valueIn_drop_take {p : Point} {bytes : List UInt8} {position limit : Nat}
    (inside : position + p.size ≤ limit) :
    p.valueIn ((bytes.take limit).drop position) = p.valueIn (bytes.drop position) := by
  unfold valueIn
  rw [List.drop_take, List.take_take, Nat.min_eq_left (by omega)]

lemma Block.tailDiagnostic_eq_none_iff {b : Block} {available : Nat} :
    b.tailDiagnostic available = none ↔ b.unit ∣ available := by
  simp [tailDiagnostic, Nat.dvd_iff_mod_eq_zero]

lemma Block.overrun_of_tailDiagnostic {b : Block} {available : Nat} {d : Diagnostic}
    (tail : b.tailDiagnostic available = some d) : ∃ text, d = .warning .overrun text := by
  unfold tailDiagnostic at tail
  split at tail
  · cases tail
  · cases tail
    exact ⟨_, rfl⟩

/-! ## One instance -/

namespace Block.PlacedAt

variable {b : Block} {first : Nat}

lemma readPoints_eq (h : b.PlacedAt first) (ordered : b.InOrder) (index : Option Nat)
    {bytes : List UInt8} {left : Nat} (room : b.unit ≤ left) (le : left ≤ bytes.length)
    {ps : List Point} (sub : ∀ p ∈ ps, p ∈ b.points) {cursor : Nat} (inside : cursor ≤ b.unit) :
    ∃ stop ≤ b.unit, b.readPoints index bytes left cursor ps =
      ⟨ps.map fun p => Slot.readingIn ⟨p, index⟩ (bytes.drop (2 * (p.first - first))), stop,
        none⟩ := by
  induction ps generalizing cursor with
  | nil => exact ⟨cursor, inside, rfl⟩
  | cons p ps ih =>
    have mem : p ∈ b.points := sub p List.mem_cons_self
    have rest : ∀ q ∈ ps, q ∈ b.points := fun q hq => sub q (List.mem_cons_of_mem _ hq)
    have field := h.field_le ordered mem
    unfold readPoints
    cases hs : p.isSkipped with
    | true =>
      obtain ⟨stop, le_unit, eq⟩ := ih rest inside
      refine ⟨stop, le_unit, ?_⟩
      simp [eq, Slot.readingIn, Point.valueIn, hs]
    | false =>
      obtain ⟨stop, le_unit, eq⟩ := ih rest field
      have size := p.size_le_registers
      have fits : ¬ left < 2 * (p.first - first) + p.size := by omega
      have value : Codec.decode p.encoding (bytes.drop (2 * (p.first - first))) =
          .ok (p.valueIn (bytes.drop (2 * (p.first - first)))) :=
        Codec.decode_of_size_le hs (by rw [List.length_drop]; omega)
      refine ⟨stop, le_unit, ?_⟩
      simp only [h.positionOf_eq mem, eq, value, if_neg fits, Bool.false_eq_true, if_false]
      rfl

/-! ## The instances of one block -/

/-- Instances are read one behind the other, and every one of them moves the reader by a unit. -/
lemma readInstances_eq (h : b.PlacedAt first) (ordered : b.InOrder) {slice : List UInt8}
    (count k : Nat) (room : (k + count) * b.unit ≤ slice.length) (acc : Array Reading) :
    b.readInstances slice.length acc (k * b.unit) count k (slice.drop (k * b.unit)) =
      ⟨acc.toList ++ (List.range' k count).flatMap (b.instanceReadings first slice),
        (k + count) * b.unit, none⟩ := by
  induction count generalizing k acc with
  | zero => simp [readInstances]
  | succ count ih =>
    have next : (k + (count + 1)) * b.unit = k * b.unit + b.unit + count * b.unit := by
      rw [Nat.add_mul, Nat.add_mul, Nat.one_mul]
      omega
    have length : (slice.drop (k * b.unit)).length = slice.length - k * b.unit :=
      List.length_drop
    obtain ⟨stop, le_unit, eq⟩ := h.readPoints_eq ordered (b.indexOf k)
      (by omega : b.unit ≤ slice.length - k * b.unit) length.ge (fun _ hp => hp) (Nat.zero_le _)
    have consumed : min (k * b.unit + max b.unit stop) slice.length = (k + 1) * b.unit := by
      rw [Nat.max_eq_left le_unit, Nat.add_mul, Nat.one_mul, Nat.min_eq_left (by omega)]
    have rest : (slice.drop (k * b.unit)).drop b.unit = slice.drop ((k + 1) * b.unit) := by
      rw [List.drop_drop, Nat.add_mul, Nat.one_mul]
    unfold readInstances
    simp only [eq, consumed, rest]
    rw [ih (k + 1) (by rw [Nat.add_assoc, Nat.add_comm 1]; exact room)]
    simp [List.range'_succ, instanceReadings, List.drop_drop, Nat.add_assoc, Nat.add_comm 1]

/-- A block that stands once takes its unit off the front of the bytes. -/
lemma read_of_fixed (h : b.PlacedAt first) (ordered : b.InOrder) (fixed : b.repeating = false)
    {bytes : List UInt8} (room : b.unit ≤ bytes.length) :
    b.read bytes = ⟨b.instanceReadings first bytes 0, b.unit, none⟩ := by
  have eq := h.readInstances_eq ordered 1 0 (by omega : (0 + 1) * b.unit ≤ bytes.length) #[]
  simp only [Nat.zero_mul, List.drop_zero] at eq
  simp [read, fixed, eq]

/-- A repeating block takes as many whole units as there are, and says what it leaves. -/
lemma read_eq_of_repeating (h : b.PlacedAt first) (ordered : b.InOrder)
    (repeating : b.repeating = true) (pos : 0 < b.unit) (bytes : List UInt8) :
    b.read bytes = ⟨(List.range (bytes.length / b.unit)).flatMap (b.instanceReadings first bytes),
      bytes.length / b.unit * b.unit, b.tailDiagnostic bytes.length⟩ := by
  have room : (0 + bytes.length / b.unit) * b.unit ≤ bytes.length := by
    rw [Nat.zero_add]
    exact Nat.div_mul_le_self _ _
  have eq := h.readInstances_eq ordered (bytes.length / b.unit) 0 room #[]
  simp only [Nat.zero_mul, List.drop_zero] at eq
  simp [read, repeating, Nat.ne_of_gt pos, eq, List.range_eq_range']

/-- It takes all bytes where they are a whole number of units. -/
lemma read_of_repeating (h : b.PlacedAt first) (ordered : b.InOrder)
    (repeating : b.repeating = true) (pos : 0 < b.unit) {bytes : List UInt8} {count : Nat}
    (length : bytes.length = count * b.unit) :
    b.read bytes = ⟨(List.range count).flatMap (b.instanceReadings first bytes),
      count * b.unit, none⟩ := by
  have whole : bytes.length / b.unit = count := by rw [length, Nat.mul_div_cancel _ pos]
  have tail : b.tailDiagnostic bytes.length = none :=
    tailDiagnostic_eq_none_iff.2 (Dvd.intro_left count length.symm)
  rw [h.read_eq_of_repeating ordered repeating pos, whole, tail]

end Block.PlacedAt

/-! ## The blocks of a model -/

/-- The blocks behind a block count their bytes from its end. -/
lemma instanceReadings_behind {first last : Nat} {b : Block} {bs : List Block}
    (tail : Layout.Tiled (first + b.len.toNat) bs last) (bytes : List UInt8) :
    (bs.flatMap fun c => c.instanceReadings (first + b.len.toNat) (bytes.drop b.unit) 0) =
      bs.flatMap fun c => c.instanceReadings first bytes 0 := by
  refine List.flatMap_congr fun c hc => List.map_congr_left fun p hp => ?_
  obtain ⟨n, le, -, placed⟩ := tail.exists_placedAt hc
  have behind := placed.first_le hp
  rw [List.drop_drop]
  congr 2
  simp only [Block.unit]
  omega

/-- Blocks that stand once are read one behind the other, each where the one before it ended. -/
lemma readBlocks_of_fixed {first last : Nat} {bs : List Block}
    (tiled : Layout.Tiled first bs last) (ordered : ∀ b ∈ bs, b.InOrder)
    (fixed : ∀ b ∈ bs, b.repeating = false) {bytes : List UInt8}
    (room : 2 * Layout.totalLen bs ≤ bytes.length) (cs : List Block) :
    readBlocks (bs ++ cs) bytes =
      let rest := readBlocks cs (bytes.drop (2 * Layout.totalLen bs))
      ⟨(bs.flatMap fun b => b.instanceReadings first bytes 0) ++ rest.readings,
        2 * Layout.totalLen bs + rest.consumed, rest.stop⟩ := by
  induction tiled generalizing bytes with
  | nil n => simp
  | @cons first last b bs head tail ih =>
    rw [Layout.totalLen_cons] at room ⊢
    have unit : b.unit = 2 * b.len.toNat := rfl
    have read := head.read_of_fixed (ordered b List.mem_cons_self) (fixed b List.mem_cons_self)
      (by omega : b.unit ≤ bytes.length)
    have left : 2 * Layout.totalLen bs ≤ (bytes.drop b.unit).length := by
      rw [List.length_drop]
      omega
    have rest := ih (fun c hc => ordered c (List.mem_cons_of_mem _ hc))
      (fun c hc => fixed c (List.mem_cons_of_mem _ hc)) left
    rw [instanceReadings_behind tail] at rest
    rw [List.cons_append, readBlocks, read]
    dsimp only
    rw [rest]
    simp only [List.drop_drop, List.flatMap_cons, List.append_assoc, Nat.mul_add, unit,
      Nat.add_assoc]

namespace Model

lemma wanted_eq {m : Model} {id declared : UInt16} (fits : m.checkLength id declared = none) :
    Dataset.wanted m declared = 2 * declared.toNat := by
  unfold checkLength at fits
  unfold Dataset.wanted
  cases hr : m.hasRepeating with
  | true => simp
  | false =>
    simp only [checkLength?_of_flat hr, Option.join_some, ite_eq_left_iff, reduceCtorEq, imp_false,
      not_not, Bool.false_eq_true, if_false] at fits ⊢
    rw [fits]

namespace LaidOut

variable {m : Model}

/-- What the blocks that stand once read is what stands at the positions of their slots. -/
lemma fixedReadings_eq (m : Model) (bytes : List UInt8) :
    (m.fixedBlocks.flatMap fun b => b.instanceReadings firstDataOffset bytes 0) =
      (m.fixedBlocks.flatMap fun b => b.points.map fun p => (⟨p, none⟩ : Slot)).map fun s =>
        s.readingIn (bytes.drop (m.position s)) := by
  rw [List.map_flatMap]
  refine List.flatMap_congr fun b hb => ?_
  simp [Block.instanceReadings, Block.indexOf, (fixed_of_mem hb).2, position]

/-- The same of the instances of the repeating block, which count their bytes from its start. -/
lemma repeatingReadings_eq (h : m.LaidOut) {b : Block} (hb : m.repeatingBlock? = some b)
    (bytes : List UInt8) (count : Nat) :
    ((List.range count).flatMap (b.instanceReadings (firstDataOffset + m.baseLen.toNat)
        (bytes.drop (2 * m.baseLen.toNat)))) =
      ((List.range count).flatMap fun k => b.points.map fun p => (⟨p, some k⟩ : Slot)).map
        fun s => s.readingIn (bytes.drop (m.position s)) := by
  rw [List.map_flatMap]
  refine List.flatMap_congr fun k _ => ?_
  rw [List.map_map]
  refine List.map_congr_left fun p hp => ?_
  have behind := (h.placedAt_repeating hb).first_le hp
  have shift : k * b.unit = 2 * k * m.repeatLen.toNat := by
    rw [Block.unit, h.repeatLen_of_repeating hb]
    ring
  have index : b.indexOf k = some k := by simp [Block.indexOf, (repeating_of_mem hb).2]
  simp only [Function.comp_apply, List.drop_drop, index, position, Option.getD_some]
  congr 2
  omega

/-- A payload of the right length is read slot by slot, each at its position, to the last byte. -/
theorem readBlocks_eq (h : m.LaidOut) (orderly : m.Orderly) {count : Nat}
    (single : m.repeatingBlock? = none → count = 0) {bytes : List UInt8}
    (length : bytes.length = 2 * (m.baseLen.toNat + count * m.repeatLen.toNat)) :
    readBlocks m.blocks bytes =
      ⟨(m.slots count).map fun s => s.readingIn (bytes.drop (m.position s)), bytes.length,
        none⟩ := by
  have room : 2 * Layout.totalLen m.fixedBlocks ≤ bytes.length := by
    rw [← h.baseLen_eq]
    omega
  have front := readBlocks_of_fixed h.tiled_fixed orderly.fixed
    (fun b hb => (fixed_of_mem hb).2) room m.repeatingBlock?.toList
  rw [← h.blocks_eq, ← h.baseLen_eq, fixedReadings_eq] at front
  rw [front, h.slots_eq, List.map_append]
  cases hr : m.repeatingBlock? with
  | none => simp [readBlocks, single hr, length]
  | some b =>
    have unit : b.unit = 2 * m.repeatLen.toNat := by rw [h.repeatLen_of_repeating hr]; rfl
    have pos : 0 < b.unit := by
      have := h.len_pos_of_repeating orderly hr
      simp only [Block.unit]
      omega
    have rest : (bytes.drop (2 * m.baseLen.toNat)).length = count * b.unit := by
      rw [List.length_drop, length, unit, Nat.mul_add, Nat.add_sub_cancel_left]
      ring
    obtain ⟨mem, repeating⟩ := repeating_of_mem hr
    have read := (h.placedAt_repeating hr).read_of_repeating (orderly.inOrder b mem) repeating
      pos rest
    rw [h.repeatingReadings_eq hr] at read
    have total : 2 * m.baseLen.toNat + count * b.unit = bytes.length := by
      rw [length, unit]
      ring
    simp [readBlocks, read, total]

end LaidOut

end Model

/-! ## Datasets -/

namespace Dataset

/-- A header is taken off the front, and its entry is looked up. -/
lemma decode_header {registry : Registry} {id : UInt16} {e : Entry}
    (held : registry.get? id = some e) (declared : UInt16) (payload : List UInt8) :
    decode registry (Registers.toBytes [id, declared] ++ payload) =
      .ok (ofPayload e declared payload) := by
  simp [decode, wordBytes16, Registers.ofPair_word, Registry.get, held, bind, Except.bind, pure,
    Except.pure]

/-- A buffer is shorter than a header, or it begins with one. -/
lemma exists_header {buffer : List UInt8} (enough : headerBytes ≤ buffer.length) :
    ∃ id declared payload, buffer = Registers.toBytes [id, declared] ++ payload := by
  match buffer with
  | i1 :: i0 :: n1 :: n0 :: payload =>
    have header : Registers.toBytes [Registers.ofPair i1 i0, Registers.ofPair n1 n0] =
        [i1, i0, n1, n0] := Registers.toBytes_ofBytes [i1, i0, n1, n0] (by simp)
    exact ⟨_, _, payload, by rw [header]; rfl⟩
  | [] | [_] | [_, _] | [_, _, _] => simp [headerBytes, headerRegisters] at enough

lemma decode_of_unknown {registry : Registry} {id : UInt16} (unregistered : registry.get? id = none)
    (declared : UInt16) (payload : List UInt8) :
    decode registry (Registers.toBytes [id, declared] ++ payload) = .error (.unknownModel id) := by
  simp [decode, wordBytes16, Registers.ofPair_word, Registry.get, unregistered, bind, Except.bind]

lemma decode_of_short (registry : Registry) {buffer : List UInt8}
    (short : buffer.length < headerBytes) :
    decode registry buffer = .error (.truncated headerBytes buffer.length) := by
  match buffer with
  | i1 :: i0 :: n1 :: n0 :: payload =>
    simp only [List.length_cons, headerBytes, headerRegisters] at short
    omega
  | [] | [_] | [_, _] | [_, _, _] => rfl

/-- What is read of an instance that keeps to its model. -/
theorem ofPayload_of_fits {e : Entry} (laidOut : e.model.LaidOut) (orderly : e.model.Orderly)
    {declared : UInt16} (fits : e.model.checkLength e.id declared = none) {payload : List UInt8}
    (room : 2 * declared.toNat ≤ payload.length) :
    ofPayload e declared payload =
      { entry := e
        declared
        readings := (e.model.slots (e.model.instancesIn declared)).map fun s =>
          s.readingIn (payload.drop (e.model.position s))
        notes := []
        stop := none
        isPartial := false
        consumed := 2 * declared.toNat } := by
  have declared_eq := Model.declared_eq laidOut.baseLen_le_len fits
  have wanted := Model.wanted_eq fits
  have single : e.model.repeatingBlock? = none → e.model.instancesIn declared = 0 := by
    intro none
    have flat : e.model.hasRepeating = false := by
      rw [← Bool.not_eq_true, laidOut.hasRepeating_iff]
      simp [none]
    simp [Model.instancesIn, flat]
  have length : (payload.take (2 * declared.toNat)).length = 2 * declared.toNat := by
    rw [List.length_take, Nat.min_eq_left room]
  have read := laidOut.readBlocks_eq orderly single (length.trans (by rw [← declared_eq]))
  have whole : ((e.model.slots (e.model.instancesIn declared)).map fun s =>
        s.readingIn ((payload.take (2 * declared.toNat)).drop (e.model.position s))) =
      (e.model.slots (e.model.instancesIn declared)).map fun s =>
        s.readingIn (payload.drop (e.model.position s)) := by
    refine List.map_congr_left fun s hs => ?_
    have field := (laidOut.field_le orderly.inOrder hs).2
    have size := s.point.size_le_registers
    rw [← declared_eq] at field
    simp only [Slot.readingIn]
    rw [Point.valueIn_drop_take (by omega)]
  rw [length, whole] at read
  simp [ofPayload, fits, wanted, read, Nat.not_lt.2 room]

/-- **A conforming device is read cleanly, each point from its own registers.**  A declared length
that fits, and at least that many registers behind the header, give every point of the blocks that
stand once and then every point of each instance of the repeating block; and each point that has a
wire form has what the codec reads at its offset, moved by the instances in front of its own. -/
theorem decode_conforming {c : Catalogue} {registry : Registry} (built : c.build = .ok registry)
    {id : UInt16} {e : Entry} (held : registry.get? id = some e) (orderly : e.model.Orderly)
    {declared : UInt16} (fits : e.model.checkLength id declared = none) {payload : List UInt8}
    (room : 2 * declared.toNat ≤ payload.length) :
    let buffer := Registers.toBytes [id, declared] ++ payload
    ∃ d, decode registry buffer = .ok d ∧ d.isPartial = false ∧ d.diagnostics = [] ∧
      d.readings.map Reading.slot =
        (e.model.fixedBlocks.flatMap fun b => b.points.map fun p => ⟨p, none⟩) ++
        ((List.range (e.model.instancesIn declared)).flatMap fun k =>
          e.model.repeatingBlock?.toList.flatMap fun b => b.points.map fun p => ⟨p, some k⟩) ∧
      ∀ r ∈ d.readings, ∃ offset, r.point.offset = some offset ∧
        (r.point.isSkipped = true → r.value = .undefined r.point.encoding) ∧
        (r.point.isSkipped = false → Codec.decode r.point.encoding (buffer.drop
          (2 * (offset.toNat - 1) + 2 * r.index.getD 0 * e.model.repeatLen.toNat)) =
            .ok r.value) := by
  intro buffer
  obtain ⟨mem, rfl⟩ := Registry.mem_of_get? held
  have laidOut := Registry.laidOut_of_build built mem
  have whole := ofPayload_of_fits laidOut orderly fits room
  refine ⟨_, decode_header held declared payload, ?_⟩
  rw [whole, ← laidOut.slots_eq]
  refine ⟨rfl, rfl, ?_, ?_⟩
  · rw [List.map_map]
    exact List.map_id'' (fun _ => rfl) _
  · intro r hr
    obtain ⟨s, hs, rfl⟩ := List.mem_map.1 hr
    obtain ⟨b, hb, hp, -⟩ := Model.LaidOut.exists_block_of_mem_slots hs
    obtain ⟨first, -, -, placed⟩ := laidOut.tiled.exists_placedAt hb
    obtain ⟨offset, eq⟩ := placed.exists_offset hp
    obtain ⟨behind, field⟩ := laidOut.field_le orderly.inOrder hs
    refine ⟨offset, eq, fun skipped => ?_, fun wire => ?_⟩
    · simp_all [Slot.readingIn, Point.valueIn]
    · have size := s.point.size_le_registers
      rw [← Model.declared_eq laidOut.baseLen_le_len fits] at field
      -- the header is two registers, and offsets count it
      have start : 2 * (offset.toNat - 1) + 2 * s.index.getD 0 * e.model.repeatLen.toNat =
          headerBytes + e.model.position s := by
        rw [Point.first_of_offset eq] at behind
        simp only [Model.position, Point.first_of_offset eq]
        simp only [firstDataOffset, headerBytes, headerRegisters] at *
        omega
      have field_eq : buffer.drop (headerBytes + e.model.position s) =
          payload.drop (e.model.position s) := by
        rw [← List.drop_drop]
        rfl
      show Codec.decode s.point.encoding (buffer.drop
          (2 * (offset.toNat - 1) + 2 * s.index.getD 0 * e.model.repeatLen.toNat)) =
        .ok (s.point.valueIn (payload.drop (e.model.position s)))
      rw [start, field_eq]
      exact Codec.decode_of_size_le wire (by rw [List.length_drop]; omega)

end Dataset

/-! ### A converter

One model in which everything that moves a cursor occurs: a string of odd length, a point without a
wire form, a gap in front of the last fixed point, and an instance whose points differ in size. -/

/-- The model before layout. -/
def converter : Entry where
  id := 160
  name := "converter"
  model := .ofBlocks [
    .ofPoints [.ofEncoding "SF" (.plain .sunssf), .ofEncoding "Nm" (.string 5),
      .ofEncoding "Pad" (.plain .null), ⟨"Evt", .plain .bitfield32, some 9, []⟩] false,
    .ofPoints [.ofEncoding "ID" (.plain .uint16), .ofEncoding "WH" (.plain .uint64)] true]

/-- The catalogue of the converter alone. -/
def converterCatalogue : Catalogue := ⟨[converter], List.pairwise_singleton _ _⟩

/-- The converter after layout: 8 registers, and 5 for each input. -/
def laidConverter : Entry :=
  { converter with model := (converter.model.resolve converter.name).model }

/-- The registry of the converter alone. -/
def converterRegistry : Registry := ⟨[laidConverter], List.pairwise_singleton _ _⟩

/-- The registers of two inputs behind the fixed block, and one more. -/
def converterRegisters : List UInt16 :=
  [0xFFFE, 0x4142, 0x4344, 0x4500, 0, 0, 0x8000, 1, 1, 0, 0, 0, 7, 2, 0, 0, 0, 9, 0xDEAD]

theorem Dataset.decode_conforming_converter :
    converterCatalogue.build = .ok converterRegistry ∧
      converterRegistry.get? 160 = some laidConverter ∧ laidConverter.model.Orderly ∧
      laidConverter.model.checkLength 160 18 = none ∧
      2 * (18 : UInt16).toNat ≤ (Registers.toBytes converterRegisters).length ∧
      ∃ d, Dataset.decode converterRegistry
          (Registers.toBytes [160, 18] ++ Registers.toBytes converterRegisters) = .ok d ∧
        d.isPartial = false ∧ d.diagnostics = [] ∧
        d.readings.map (fun r => (r.name, r.index)) =
          [("SF", none), ("Nm", none), ("Pad", none), ("Evt", none),
            ("ID", some 0), ("WH", some 0), ("ID", some 1), ("WH", some 1)] := by
  have built : converterCatalogue.build = .ok converterRegistry := rfl
  have held : converterRegistry.get? 160 = some laidConverter := rfl
  have orderly : laidConverter.model.Orderly := by decide
  have fits : laidConverter.model.checkLength 160 18 = none := by decide
  have room : 2 * (18 : UInt16).toNat ≤ (Registers.toBytes converterRegisters).length := by decide
  refine ⟨built, held, orderly, fits, room, ?_⟩
  obtain ⟨d, decoded, whole, clean, slots, -⟩ :=
    Dataset.decode_conforming built held orderly fits room
  refine ⟨d, decoded, whole, clean, ?_⟩
  have names := congrArg (List.map fun s : Slot => (s.point.name, s.index)) slots
  rw [List.map_map] at names
  exact names.trans (by decide)

end SunSpec
