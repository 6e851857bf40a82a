import SunSpec.Proofs.RoundTrip

/-!
# Where the reader and the writer part

The writer moves from block to block by the length that layout found.  The reader moves by what it
has read: to the end of the last field (`Block.reach`), where that lies behind the end of the block.
Layout puts it there when a block ends in a point without a wire form whose explicit offset goes
back behind a field.  `Block.Closed` rules this out, and `Block.PlacedAt.consumed_eq_iff` says that
it is exactly what keeps the reader at the blocks that follow.

Blocks whose points are in order are closed, and so are those that end in a field
(`closed_of_inOrder`, `closed_of_wire`); in between, offsets may go back and forth and fields may
overlap.  `Model.LaidOut.readBlocks_upTo` follows the reader through blocks of that kind.  The
theorem on whole instances sets this against the positions of the plan.  Behind it stands a model
with a block that is not closed, where what was written at one position is read at another.
-/

namespace SunSpec

/-! ## The end of a block -/

namespace Block

/-- End of the last field among points, behind one that ends at `cursor`. -/
def endOfFields (b : Block) : (cursor : Nat) → List Point → Nat
  | cursor, [] => cursor
  | cursor, p :: ps =>
    b.endOfFields (if p.isSkipped then cursor else b.positionOf p cursor + 2 * p.registers) ps

/-- Bytes from the start of an instance to the end of its last field. -/
def reach (b : Block) : Nat := b.endOfFields 0 b.points

/-- The last field ends inside the block. -/
def Closed (b : Block) : Prop := b.reach ≤ b.unit

instance (b : Block) : Decidable b.Closed := inferInstanceAs (Decidable (b.reach ≤ b.unit))

namespace PlacedAt

variable {b : Block} {first : Nat}

lemma endOfFields_le (h : b.PlacedAt first) (ordered : b.InOrder) {ps : List Point}
    (sub : ∀ p ∈ ps, p ∈ b.points) {cursor : Nat} (inside : cursor ≤ b.unit) :
    b.endOfFields cursor ps ≤ b.unit := by
  induction ps generalizing cursor with
  | nil => exact inside
  | cons p ps ih =>
    have mem : p ∈ b.points := sub p List.mem_cons_self
    have field := h.field_le ordered mem
    unfold endOfFields
    apply ih fun q hq => sub q (List.mem_cons_of_mem _ hq)
    rw [h.positionOf_eq mem]
    split
    · exact inside
    · exact field

lemma closed_of_inOrder (h : b.PlacedAt first) (ordered : b.InOrder) : b.Closed :=
  h.endOfFields_le ordered (fun _ hp => hp) (Nat.zero_le _)

lemma endOfFields_eq (h : b.PlacedAt first) {counter next : Nat} {ps : List Point}
    (points : Layout.PointsPlaced first counter ps next) (sub : ∀ p ∈ ps, p ∈ b.points)
    (wire : ∀ p ∈ ps.getLast?, p.isSkipped = false) {cursor : Nat}
    (start : ps = [] → cursor = 2 * (counter - first)) :
    b.endOfFields cursor ps = 2 * (next - first) := by
  induction points generalizing cursor with
  | nil n => exact start rfl
  | @cons counter next p ps o offset start_le rest ih =>
    have mem : p ∈ b.points := sub p List.mem_cons_self
    have wire' : ∀ q ∈ ps.getLast?, q.isSkipped = false := by
      intro q hq
      apply wire q
      rw [List.getLast?_cons, hq]
      rfl
    unfold endOfFields
    apply ih (fun q hq => sub q (List.mem_cons_of_mem _ hq)) wire'
    intro nil
    subst nil
    have wire : p.isSkipped = false := wire p rfl
    rw [wire, h.positionOf_eq mem, Point.stop]
    simp only [Bool.false_eq_true, if_false]
    omega

/-- A block that ends in a field ends with this field. -/
lemma closed_of_wire (h : b.PlacedAt first)
    (wire : ∀ p ∈ b.points.getLast?, p.isSkipped = false) : b.Closed := by
  have reach : b.reach = 2 * (first + b.len.toNat - first) :=
    h.endOfFields_eq h.points (fun _ hp => hp) wire fun _ => by rw [Nat.sub_self]
  rw [Closed, reach, unit]
  omega

end PlacedAt

end Block

/-! ## Reading up to a stop -/

/-- What was read of a row: its front as far as something stopped the reader, and all of it where
nothing did. -/
def ReadUpTo {α : Type} (stop : Option α) (readings row : List Reading) : Prop :=
  readings <+: row ∧ (stop = none → readings = row)

namespace ReadUpTo

variable {α : Type} {stop : Option α} {readings row : List Reading}

lemma all (row : List Reading) : ReadUpTo stop row row := ⟨List.prefix_rfl, fun _ => rfl⟩

lemma of_front {a : α} (front : readings <+: row) : ReadUpTo (some a) readings row :=
  ⟨front, nofun⟩

lemma append (h : ReadUpTo stop readings row) (front : List Reading) :
    ReadUpTo stop (front ++ readings) (front ++ row) := by
  obtain ⟨isFront, whole⟩ := h
  exact ⟨(List.prefix_append_right_inj front).2 isFront, fun none => by rw [whole none]⟩

lemma cons (h : ReadUpTo stop readings row) (r : Reading) :
    ReadUpTo stop (r :: readings) (r :: row) := h.append [r]

end ReadUpTo

namespace Block.PlacedAt

variable {b : Block} {first : Nat}

lemma readPoints_upTo (h : b.PlacedAt first) (index : Option Nat) {bytes : List UInt8} {left : Nat}
    (le : left ≤ bytes.length) {ps : List Point} (sub : ∀ p ∈ ps, p ∈ b.points) (cursor : Nat) :
    let r := b.readPoints index bytes left cursor ps
    ReadUpTo r.shortfall r.readings
        (ps.map fun p => Slot.readingIn ⟨p, index⟩ (bytes.drop (2 * (p.first - first)))) ∧
      (r.shortfall = none → r.cursor = b.endOfFields cursor ps ∧
        (cursor ≤ 2 * ((left + 1) / 2) → r.cursor ≤ 2 * ((left + 1) / 2))) := by
  induction ps generalizing cursor with
  | nil => exact ⟨.all _, fun _ => ⟨rfl, fun le => le⟩⟩
  | cons p ps ih =>
    have mem : p ∈ b.points := sub p List.mem_cons_self
    have ih := ih fun q hq => sub q (List.mem_cons_of_mem _ hq)
    unfold readPoints endOfFields
    cases hs : p.isSkipped with
    | true =>
      obtain ⟨upTo, stop⟩ := ih cursor
      have reading : Slot.readingIn ⟨p, index⟩ (bytes.drop (2 * (p.first - first))) =
          ⟨p, index, .undefined p.encoding⟩ := by
        simp [Slot.readingIn, Point.valueIn, hs]
      rw [List.map_cons, reading]
      exact ⟨upTo.cons _, stop⟩
    | false =>
      simp only [h.positionOf_eq mem, Bool.false_eq_true, if_false]
      by_cases short : left < 2 * (p.first - first) + p.size
      · rw [if_pos short]
        exact ⟨.of_front List.nil_prefix, fun unstopped => by cases unstopped⟩
      · obtain ⟨upTo, stop⟩ := ih (2 * (p.first - first) + 2 * p.registers)
        have value : Codec.decode p.encoding (bytes.drop (2 * (p.first - first))) =
            .ok (p.valueIn (bytes.drop (2 * (p.first - first)))) :=
          Codec.decode_of_size_le hs (by rw [List.length_drop]; omega)
        rw [if_neg short, value]
        refine ⟨upTo.cons _, fun unstopped => ?_⟩
        obtain ⟨cursor_eq, bounded⟩ := stop unstopped
        refine ⟨cursor_eq, fun _ => bounded ?_⟩
        -- a field that ends inside the bytes ends, in whole registers, where they do
        have registers : p.registers = (p.size + 1) / 2 := rfl
        omega

/-- Instance `k` of a block is read to the end of its last field, if nothing stops the reader. -/
lemma readInstance_upTo (h : b.PlacedAt first) (slice : List UInt8) (k : Nat) :
    let left := slice.length - k * b.unit
    let r := b.readPoints (b.indexOf k) (slice.drop (k * b.unit)) left 0 b.points
    ReadUpTo r.shortfall r.readings (b.instanceReadings first slice k) ∧
      (r.shortfall = none → r.cursor = b.reach ∧ b.reach ≤ 2 * ((left + 1) / 2)) := by
  intro left r
  have length : (slice.drop (k * b.unit)).length = left := List.length_drop
  obtain ⟨upTo, stop⟩ := h.readPoints_upTo (b.indexOf k) length.ge (fun _ hp => hp) 0
  have row : b.instanceReadings first slice k = b.points.map fun p =>
      Slot.readingIn ⟨p, b.indexOf k⟩ ((slice.drop (k * b.unit)).drop (2 * (p.first - first))) := by
    simp [instanceReadings]
  rw [row]
  refine ⟨upTo, fun unstopped => ?_⟩
  obtain ⟨cursor, bounded⟩ := stop unstopped
  have bounded := bounded (Nat.zero_le _)
  rw [cursor] at bounded
  exact ⟨cursor, bounded⟩

/-! ## Instances of a block -/

lemma readInstances_upTo (h : b.PlacedAt first) (slice : List UInt8) (count k : Nat)
    (acc : Array Reading) (consumed : Nat) :
    let r := b.readInstances slice.length acc consumed count k (slice.drop (k * b.unit))
    ReadUpTo r.diagnostic r.readings
      (acc.toList ++ (List.range' k count).flatMap (b.instanceReadings first slice)) := by
  induction count generalizing k acc consumed with
  | zero =>
    rw [List.range'_zero, List.flatMap_nil, List.append_nil]
    exact .all _
  | succ count ih =>
    obtain ⟨upTo, -⟩ := h.readInstance_upTo slice k
    have rest : (slice.drop (k * b.unit)).drop b.unit = slice.drop ((k + 1) * b.unit) := by
      rw [List.drop_drop, Nat.add_mul, Nat.one_mul]
    rw [List.range'_succ, List.flatMap_cons, ← List.append_assoc]
    unfold readInstances
    dsimp only
    cases hr : (b.readPoints (b.indexOf k) (slice.drop (k * b.unit))
        (slice.length - k * b.unit) 0 b.points).shortfall with
    | some needed =>
      dsimp only
      rw [Array.toList_appendList]
      apply ReadUpTo.of_front
      exact ((List.prefix_append_right_inj _).2 upTo.1).trans (List.prefix_append _ _)
    | none =>
      dsimp only
      rw [rest, ← upTo.2 hr, ← @Array.toList_appendList _ acc]
      exact ih (k + 1) _ _

lemma read_upTo_of_once (h : b.PlacedAt first) (fixed : b.repeating = false)
    (bytes : List UInt8) :
    ReadUpTo (b.read bytes).diagnostic (b.read bytes).readings
      (b.instanceReadings first bytes 0) := by
  have upTo := h.readInstances_upTo bytes 1 0 #[] 0
  rw [Nat.zero_mul, List.drop_zero] at upTo
  simpa [read, fixed] using upTo

/-- A block that stands once takes its own bytes, and those up to the end of its last field. -/
lemma consumed_of_once (h : b.PlacedAt first) (fixed : b.repeating = false) {bytes : List UInt8}
    (unstopped : (b.read bytes).diagnostic = none) :
    (b.read bytes).consumed = min (max b.unit b.reach) bytes.length ∧
      b.reach ≤ 2 * ((bytes.length + 1) / 2) := by
  obtain ⟨-, stop⟩ := h.readInstance_upTo bytes 0
  rw [Nat.zero_mul, List.drop_zero, Nat.sub_zero] at stop
  unfold read readInstances at unstopped ⊢
  simp only [fixed, Bool.not_false, if_true, Nat.zero_mul, Nat.sub_zero] at unstopped ⊢
  cases hr : (b.readPoints (b.indexOf 0) bytes bytes.length 0 b.points).shortfall with
  | some needed =>
    rw [hr] at unstopped
    cases unstopped
  | none =>
    obtain ⟨cursor, bounded⟩ := stop hr
    simp only [readInstances, Nat.zero_add, cursor]
    exact ⟨trivial, bounded⟩

/-- The reader comes to the end of a block exactly where the last field does not lead it on. -/
lemma consumed_eq_iff (h : b.PlacedAt first) (fixed : b.repeating = false) {bytes : List UInt8}
    (room : b.unit ≤ bytes.length) (unstopped : (b.read bytes).diagnostic = none) :
    (b.read bytes).consumed = b.unit ↔ b.Closed := by
  obtain ⟨consumed, bounded⟩ := h.consumed_of_once fixed unstopped
  rw [consumed, Closed]
  simp only [unit] at *
  omega

/-- A repeating block is read instance by instance off bytes that are a whole number of them. -/
lemma read_upTo_of_repeating (h : b.PlacedAt first) (repeating : b.repeating = true)
    {bytes : List UInt8} {count : Nat} (length : bytes.length = count * b.unit) :
    ReadUpTo (b.read bytes).diagnostic (b.read bytes).readings
      ((List.range count).flatMap (b.instanceReadings first bytes)) := by
  unfold read
  by_cases zero : b.unit = 0
  · simp only [repeating, Bool.not_true, Bool.false_eq_true, if_false, if_pos zero]
    exact .of_front List.nil_prefix
  · have whole : bytes.length / b.unit = count := by
      rw [length, Nat.mul_div_cancel _ (Nat.pos_of_ne_zero zero)]
    have tail : b.tailDiagnostic bytes.length = none :=
      tailDiagnostic_eq_none_iff.2 (Dvd.intro_left count length.symm)
    have upTo := h.readInstances_upTo bytes count 0 #[] 0
    simp only [Nat.zero_mul, List.drop_zero, List.nil_append, ← List.range_eq_range'] at upTo
    simpa [repeating, zero, whole, tail] using upTo

end Block.PlacedAt

/-! ## Blocks -/

/-- Blocks that stand once are read in their places as long as they are closed; the last of all
blocks may end as it likes. -/
lemma readBlocks_upTo_of_once {first last : Nat} {bs cs : List Block}
    (tiled : Layout.Tiled first bs last) (fixed : ∀ b ∈ bs, b.repeating = false)
    (closed : ∀ b ∈ (bs ++ cs).dropLast, b.Closed) {bytes : List UInt8}
    (room : 2 * Layout.totalLen bs ≤ bytes.length) {row : List Reading}
    (rest : let r := readBlocks cs (bytes.drop (2 * Layout.totalLen bs))
      ReadUpTo r.stop r.readings row) :
    let r := readBlocks (bs ++ cs) bytes
    ReadUpTo r.stop r.readings
      ((bs.flatMap fun b => b.instanceReadings first bytes 0) ++ row) := by
  induction tiled generalizing bytes with
  | nil n => simpa using rest
  | @cons first last b bs head tail ih =>
    rw [Layout.totalLen_cons] at room rest
    have unit : b.unit = 2 * b.len.toNat := rfl
    have upTo := head.read_upTo_of_once (fixed b List.mem_cons_self) bytes
    rw [List.flatMap_cons, List.append_assoc, List.cons_append, readBlocks]
    dsimp only
    cases hd : (b.read bytes).diagnostic with
    | some d => exact .of_front (upTo.1.trans (List.prefix_append _ _))
    | none =>
      -- where blocks follow, `b` is closed and the reader stands at its end
      have next : readBlocks (bs ++ cs) (bytes.drop (b.read bytes).consumed) =
          readBlocks (bs ++ cs) (bytes.drop b.unit) := by
        by_cases alone : bs ++ cs = []
        · rw [alone]
          rfl
        · have mem : b ∈ (b :: bs ++ cs).dropLast := by
            rw [List.cons_append, List.dropLast_cons_of_ne_nil alone]
            exact List.mem_cons_self
          rw [(head.consumed_eq_iff (fixed b List.mem_cons_self) (by omega) hd).2 (closed b mem)]
      have later : ∀ c ∈ (bs ++ cs).dropLast, c.Closed := by
        intro c hc
        apply closed c
        rw [List.cons_append, List.dropLast_cons_of_ne_nil (by rintro nil; simp [nil] at hc)]
        exact List.mem_cons_of_mem _ hc
      have ih := ih (fun c hc => fixed c (List.mem_cons_of_mem _ hc)) later
        (by rw [List.length_drop]; omega : 2 * Layout.totalLen bs ≤ (bytes.drop b.unit).length)
        (by rw [List.drop_drop, unit, ← Nat.mul_add]; exact rest)
      rw [instanceReadings_behind tail] at ih
      dsimp only
      rw [next, upTo.2 hd]
      exact ih.append _

/-- A payload of the right length is read slot by slot, each at its position, as far as nothing
stops the reader. -/
theorem Model.LaidOut.readBlocks_upTo {m : Model} (h : m.LaidOut)
    (closed : ∀ b ∈ m.blocks.dropLast, b.Closed) {count : Nat} {bytes : List UInt8}
    (length : bytes.length = 2 * (m.baseLen.toNat + count * m.repeatLen.toNat)) :
    ReadUpTo (readBlocks m.blocks bytes).stop (readBlocks m.blocks bytes).readings
      ((m.slots count).map fun s => s.readingIn (bytes.drop (m.position s))) := by
  have room : 2 * Layout.totalLen m.fixedBlocks ≤ bytes.length := by
    rw [← h.baseLen_eq]
    omega
  rw [h.blocks_eq] at closed
  rw [h.slots_eq, List.map_append, ← fixedReadings_eq]
  have front := @readBlocks_upTo_of_once _ _ _ _ h.tiled_fixed
    (fun b hb => (fixed_of_mem hb).2) closed _ room
  rw [← h.blocks_eq, ← h.baseLen_eq] at front
  apply front
  cases hr : m.repeatingBlock? with
  | none =>
    have none : ((List.range count).flatMap fun k =>
        (none : Option Block).toList.flatMap fun b => b.points.map fun p => (⟨p, some k⟩ : Slot)) =
          [] := by simp
    rw [none]
    exact .all _
  | some b =>
    have unit : b.unit = 2 * m.repeatLen.toNat := by rw [h.repeatLen_of_repeating hr]; rfl
    have rest : (bytes.drop (2 * m.baseLen.toNat)).length = count * b.unit := by
      rw [List.length_drop, length, unit, Nat.mul_add, Nat.add_sub_cancel_left]
      ring
    have upTo := (h.placedAt_repeating hr).read_upTo_of_repeating (repeating_of_mem hr).2 rest
    rw [h.repeatingReadings_eq hr] at upTo
    simp only [Option.toList_some, List.flatMap_singleton, readBlocks]
    cases hd : (b.read (bytes.drop (2 * m.baseLen.toNat))).diagnostic with
    | some d =>
      exact .of_front upTo.1
    | none =>
      rw [hd] at upTo
      simp only [List.append_nil, upTo.2 rfl]
      exact .all _

/-! ## What was written -/

/-- What is read of a payload of the length that a header declares, as far as nothing stops the
reader. -/
lemma Dataset.ofPayload_upTo {e : Entry} (laidOut : e.model.LaidOut)
    (closed : ∀ b ∈ e.model.blocks.dropLast, b.Closed) {declared : UInt16}
    (fits : e.model.checkLength e.id declared = none) {payload : List UInt8}
    (length : payload.length = 2 * declared.toNat) :
    ReadUpTo (ofPayload e declared payload).stop (ofPayload e declared payload).readings
      ((e.model.slots (e.model.instancesIn declared)).map fun s =>
        s.readingIn (payload.drop (e.model.position s))) := by
  have whole : payload.take (wanted e.model declared) = payload := by
    rw [Model.wanted_eq fits]
    exact List.take_of_length_le length.le
  have size : payload.length =
      2 * (e.model.baseLen.toNat + e.model.instancesIn declared * e.model.repeatLen.toNat) := by
    rw [length, ← Model.declared_eq laidOut.baseLen_le_len fits]
  obtain ⟨front, all⟩ := laidOut.readBlocks_upTo closed size
  simp only [ofPayload, whole]
  exact ⟨front, fun unstopped => all (by simpa using unstopped)⟩

namespace DataBlock

/-- **What was written at a position is read at that position, as long as blocks are closed.**  Of
a model that layout accepts, whatever its offsets, a block that stands once and is read to its end
takes its own bytes off the payload exactly where it is closed; blocks in order and blocks that end
in a field are.  A data block that is written puts each value at the position of its slot.  Where
every block in front of another is closed, the slots are read in their order and at the same
positions, all of them or as many as there are in front of a problem. -/
theorem reads_where_placed {source : Model} {name : String}
    (accepted : (source.resolve name).fault = none) {e : Entry}
    (resolved : e.model = (source.resolve name).model) :
    (∀ b ∈ e.model.blocks, b.repeating = false →
      ((b.InOrder ∨ ∀ p ∈ b.points.getLast?, p.isSkipped = false) → b.Closed) ∧
      ∀ bytes : List UInt8, b.unit ≤ bytes.length → (b.read bytes).diagnostic = none →
        ((b.read bytes).consumed = b.unit ↔ b.Closed)) ∧
    ∀ d : DataBlock, (∀ g ∈ d.values, g.value.Made) → ∀ regs, d.encode e = .ok regs →
      ∃ declared,
        let placements := (d.plan e.model declared).placements
        let image := payload declared placements
        Registers.toBytes regs = Registers.toBytes [e.id, declared] ++ image ∧
        (∀ q ∈ placements, q.start = e.model.position q.slot ∧
          q.bytes.length = q.point.size ∧ q.stop ≤ image.length) ∧
        ((∀ b ∈ e.model.blocks.dropLast, b.Closed) →
          ∀ registry : Registry, registry.get? e.id = some e →
            ∃ ds, Dataset.decode registry (Registers.toBytes regs) = .ok ds ∧
              ReadUpTo ds.stop ds.readings ((e.model.slots (d.instances e.model)).map fun s =>
                s.readingIn (image.drop (e.model.position s))) ∧
              ∀ r ∈ ds.readings, r.slot.isWritten = true → ∃ q ∈ placements,
                q.slot = r.slot ∧ r.value = r.point.valueIn (image.drop q.start)) := by
  have laidOut : e.model.LaidOut := resolved ▸ Model.laidOut_of_resolve accepted
  constructor
  · intro b hb fixed
    obtain ⟨first, -, -, placed⟩ := laidOut.tiled.exists_placedAt hb
    refine ⟨?_, fun bytes room unstopped => placed.consumed_eq_iff fixed room unstopped⟩
    rintro (ordered | wire)
    · exact placed.closed_of_inOrder ordered
    · exact placed.closed_of_wire wire
  · intro d made regs encoded
    obtain ⟨declared, counted, unstopped, rfl⟩ := encode_ok encoded
    have counted := payloadRegisters_ok counted
    obtain ⟨slots, placed⟩ := laidOut.placed_of_plan unstopped
    have length := length_payload declared (d.plan e.model declared).placements
    refine ⟨declared, toBytes_image e.id declared _, ?_, ?_⟩
    · intro q hq
      obtain ⟨start, -, size, room, -⟩ := (placed q hq).spec made
      exact ⟨start, size, by rw [length]; exact room⟩
    · intro closed registry held
      obtain ⟨fits, count⟩ :=
        Model.checkLength_of_eq laidOut.baseLen_le_len instances_of_flat counted
      have upTo := Dataset.ofPayload_upTo laidOut closed fits length
      rw [count] at upTo
      rw [toBytes_image]
      refine ⟨_, Dataset.decode_header held declared _, upTo, ?_⟩
      intro r hr written
      obtain ⟨s, hs, rfl⟩ := List.mem_map.1 (upTo.1.subset hr)
      have mem : s ∈ (d.plan e.model declared).placements.map Placement.slot := by
        rw [slots]
        exact List.mem_filter.2 ⟨hs, written⟩
      obtain ⟨q, hq, rfl⟩ := List.mem_map.1 mem
      have start := ((placed q hq).spec made).1
      exact ⟨q, hq, rfl, by rw [start]; rfl⟩

end DataBlock

/-! ### A patchwork

Offsets that go back and forth, fields that overlap their neighbours, and points without a wire
form in between and behind. -/

/-- The model before layout. -/
def patchwork : Entry where
  id := 201
  name := "patchwork"
  model := .ofBlocks [
    .ofPoints [⟨"A", .plain .uint16, some 5, []⟩, ⟨"Pad", .plain .null, some 3, []⟩,
      .ofEncoding "B" (.plain .uint32), ⟨"C", .plain .uint16, some 6, []⟩] false,
    .ofPoints [⟨"X", .plain .uint16, some 8, []⟩, ⟨"Y", .plain .uint16, some 7, []⟩,
      ⟨"Z", .plain .uint16, some 9, []⟩, .ofEncoding "End" (.plain .undef)] true]

/-- The patchwork after layout: 4 registers, and 3 for each instance. -/
def laidPatchwork : Entry :=
  { patchwork with model := (patchwork.model.resolve patchwork.name).model }

/-- The registry of the patchwork alone. -/
def patchworkRegistry : Registry := ⟨[laidPatchwork], List.pairwise_singleton _ _⟩

/-- Values for two instances. -/
def patchworkBlock : DataBlock where
  name := "quilt"
  modelId := 201
  repeats := 2
  values := [⟨"A", none, .ofUInt16 1⟩, ⟨"B", none, .ofUInt32 2⟩, ⟨"C", none, .ofUInt16 3⟩,
    ⟨"X", some 0, .ofUInt16 4⟩, ⟨"Y", none, .ofUInt16 5⟩, ⟨"X", some 1, .ofUInt16 6⟩]

/-- The registers of the patchwork with these values. -/
def patchworkImage : List UInt16 := [201, 10, 0, 2, 1, 3, 5, 4, 0xFFFF, 5, 6, 0xFFFF]

theorem DataBlock.reads_where_placed_patchwork :
    (patchwork.model.resolve patchwork.name).fault = none ∧
      laidPatchwork.model = (patchwork.model.resolve patchwork.name).model ∧
      (∀ b ∈ laidPatchwork.model.blocks, b.Closed ∧ ¬ b.InOrder) ∧
      patchworkRegistry.get? laidPatchwork.id = some laidPatchwork ∧
      (∀ g ∈ patchworkBlock.values, g.value.Made) ∧
      patchworkBlock.encode laidPatchwork = .ok patchworkImage ∧
      ∃ ds, Dataset.decode patchworkRegistry (Registers.toBytes patchworkImage) = .ok ds ∧
        ds.readings.map (fun r => (r.name, r.index)) =
          [("A", none), ("Pad", none), ("B", none), ("C", none), ("X", some 0), ("Y", some 0),
            ("Z", some 0), ("End", some 0), ("X", some 1), ("Y", some 1), ("Z", some 1),
            ("End", some 1)] := by
  have accepted : (patchwork.model.resolve patchwork.name).fault = none := rfl
  have held : patchworkRegistry.get? laidPatchwork.id = some laidPatchwork := rfl
  have closed : ∀ b ∈ laidPatchwork.model.blocks, b.Closed ∧ ¬ b.InOrder := by decide
  have made : ∀ g ∈ patchworkBlock.values, g.value.Made := by
    simp only [patchworkBlock, List.forall_mem_cons]
    exact ⟨.ofUInt16 _, .ofUInt32 _, .ofUInt16 _, .ofUInt16 _, .ofUInt16 _, .ofUInt16 _, by simp⟩
  have encoded : patchworkBlock.encode laidPatchwork = .ok patchworkImage := by decide
  obtain ⟨declared, image, -, read⟩ :=
    (DataBlock.reads_where_placed accepted rfl).2 patchworkBlock made _ encoded
  obtain ⟨ds, decoded, upTo, -⟩ := read (by decide) patchworkRegistry held
  have unstopped : ds.stop = none := by
    have stop : (Dataset.decode patchworkRegistry (Registers.toBytes patchworkImage)).map
        Dataset.stop = .ok none := by decide
    rw [decoded] at stop
    exact Except.ok.inj stop
  refine ⟨accepted, rfl, closed, held, made, encoded, ds, decoded, ?_⟩
  rw [upTo.2 unstopped, List.map_map]
  show (laidPatchwork.model.slots 2).map (fun s => (s.point.name, s.index)) = _
  decide

/-! ### A block that is not closed

Its last point has no wire form and goes back behind a field. -/

/-- The model before layout. -/
def overhang : Entry where
  id := 202
  name := "overhang"
  model := .ofBlocks [
    .ofPoints [.ofEncoding "A" (.plain .uint16), .ofEncoding "B" (.plain .uint16),
      ⟨"Fill", .plain .null, some 4, []⟩] false,
    .ofPoints [.ofEncoding "C" (.plain .uint16), .ofEncoding "D" (.plain .uint16),
      .ofEncoding "E" (.plain .uint16)] false]

/-- The overhang after layout: a block of 1 register, and one of 3. -/
def laidOverhang : Entry :=
  { overhang with model := (overhang.model.resolve overhang.name).model }

/-- The registry of the overhang alone. -/
def overhangRegistry : Registry := ⟨[laidOverhang], List.pairwise_singleton _ _⟩

/-- A value for each point. -/
def overhangBlock : DataBlock where
  name := "shelf"
  modelId := 202
  repeats := 0
  values := [⟨"A", none, .ofUInt16 1⟩, ⟨"B", none, .ofUInt16 2⟩, ⟨"C", none, .ofUInt16 3⟩,
    ⟨"D", none, .ofUInt16 4⟩, ⟨"E", none, .ofUInt16 5⟩]

theorem DataBlock.reads_elsewhere :
    (overhang.model.resolve overhang.name).fault = none ∧
      overhangRegistry.get? 202 = some laidOverhang ∧
      overhangBlock.encode laidOverhang = .ok [202, 4, 1, 3, 4, 5] ∧
      -- two registers are taken off for the first block, which has one
      (laidOverhang.model.blocks.head?.map fun b =>
          let r := b.read [0, 1, 0, 3, 0, 4, 0, 5]
          (b.unit, r.consumed, r.diagnostic)) = some (2, 4, none) ∧
      -- `C` is written at byte 2 and read at byte 4
      ((overhangBlock.plan laidOverhang.model 4).placements.map fun q => (q.point.name, q.start)) =
        [("A", 0), ("B", 2), ("C", 2), ("D", 4), ("E", 6)] ∧
      (Dataset.decode overhangRegistry (Registers.toBytes [202, 4, 1, 3, 4, 5])).map
          (fun ds => ds.readings.map fun r => (r.name, r.value.payload)) =
        .ok [("A", .u16 1), ("B", .u16 3), ("Fill", .none), ("C", .u16 4), ("D", .u16 5)] := by
  decide

end SunSpec
