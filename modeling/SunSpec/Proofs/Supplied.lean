import SunSpec.Proofs.BoundValues
import SunSpec.Proofs.WriteBack

/-!
# What becomes of supplied values

Data give values to points by name, and an image of the data is read like any other.  A value is
read back where its point has an instance that the value holds for, and no other value is read
anywhere: `DescribedData.givesBack_iff` says which literals survive.  A list is for instances of
the repeating block, so a list for a point that stands once is lost, and so are the members of a
list behind the last instance; a single value is lost where its point has no instance at all.
Nothing tells the author of the data.

What is read of an image is `DataBlock.Shows`, as for any data block.  It is stated here for all
models in order: `Proofs/RoundTrip.lean` asks for a repeating block with a length, and one without
is passed over by writer and reader alike (`Model.fixedPart`).
-/

namespace SunSpec

/-- The instances of a block of which `count` follow each other, if it repeats. -/
def Block.indices (b : Block) (count : Nat) : List (Option Nat) :=
  if b.repeating then (List.range count).map some else [none]

/-- The readings of a point give a literal back: each member of a list is the value of the instance
of its position, and anything else is the value of every instance, of which there is one. -/
def Dataset.GivesBack (ds : Dataset) (p : Point) (literal : Yaml.Value) : Prop :=
  match literal with
  | .sequence items => ∀ i item, items[i]? = some item → ∃ v, p.literalValue item = .ok v ∧
      (∃ r ∈ ds.all p.name, r.index = some i) ∧
      ∀ r ∈ ds.all p.name, r.index = some i → r.value.SameDatum v
  | single => ∃ v, p.literalValue single = .ok v ∧ (∃ r, r ∈ ds.all p.name) ∧
      ∀ r ∈ ds.all p.name, r.value.SameDatum v

/-- A block has the instances that a literal is for. -/
def Block.Heeds (b : Block) (count : Nat) (literal : Yaml.Value) : Prop :=
  match literal with
  | .sequence items => items = [] ∨ b.repeating = true ∧ items.length ≤ count
  | _ => b.repeating = true → 0 < count

/-! ## Instances -/

namespace Block

variable {b : Block} {count : Nat}

lemma mem_slots_iff {s : Slot} :
    s ∈ b.slots count ↔ s.point ∈ b.points ∧ s.index ∈ b.indices count := by
  obtain ⟨p, index⟩ := s
  cases hr : b.repeating with
  | true =>
    simp only [slots, indices, hr, if_true, List.mem_flatMap, List.mem_map, List.mem_range,
      Slot.mk.injEq]
    constructor
    · rintro ⟨k, lt, q, hq, rfl, rfl⟩
      exact ⟨hq, k, lt, rfl⟩
    · rintro ⟨hp, k, lt, rfl⟩
      exact ⟨k, lt, p, hp, rfl, rfl⟩
  | false => simp [slots, indices, hr, eq_comm]

lemma some_mem_indices {i : Nat} : some i ∈ b.indices count ↔ b.repeating = true ∧ i < count := by
  cases hr : b.repeating <;> simp [indices, hr]

lemma exists_mem_indices :
    (∃ index, index ∈ b.indices count) ↔ (b.repeating = true → 0 < count) := by
  cases hr : b.repeating with
  | true =>
    simp only [indices, hr, if_true, List.mem_map, List.mem_range, forall_const]
    exact ⟨fun ⟨_, i, lt, _⟩ => Nat.zero_lt_of_lt lt, fun lt => ⟨some 0, 0, lt, rfl⟩⟩
  | false => simp [indices, hr]

end Block

/-! ## A repeating block without a length -/

/-- The model without its repeating block. -/
def Model.fixedPart (m : Model) : Model := { m with blocks := m.fixedBlocks }

lemma DataBlock.planBlocks_concat {d : DataBlock} {b : Block} (repeating : b.repeating = true)
    (available origin : Nat) (steps : Array PlanStep) (bs : List Block) :
    d.planBlocks available 0 origin steps (bs ++ [b]) =
      d.planBlocks available 0 origin steps bs := by
  induction bs generalizing origin steps with
  | nil => simp [planBlocks, planInstances, repeating]
  | cons c cs ih => simp only [List.cons_append, planBlocks, ih]

lemma readings_readBlocks_concat {b : Block} (repeating : b.repeating = true) (empty : b.len = 0)
    (bs : List Block) (bytes : List UInt8) :
    (readBlocks (bs ++ [b]) bytes).readings = (readBlocks bs bytes).readings := by
  induction bs generalizing bytes with
  | nil => simp [readBlocks, Block.read, repeating, Block.unit, empty]
  | cons c cs ih =>
    rw [List.cons_append, readBlocks, readBlocks]
    cases (c.read bytes).diagnostic with
    | some f => rfl
    | none => simp only [ih]

namespace Model.LaidOut

variable {m : Model}

/-- Where the lengths of a model show no repeating block, it has none that counts. -/
lemma blocks_of_flat (h : m.LaidOut) (flat : m.hasRepeating = false) :
    m.blocks = m.fixedBlocks ∨
      ∃ b, m.blocks = m.fixedBlocks ++ [b] ∧ b.repeating = true ∧ b.len = 0 := by
  have blocks := h.blocks_eq
  cases hr : m.repeatingBlock? with
  | none =>
    rw [hr, Option.toList_none, List.append_nil] at blocks
    exact .inl blocks
  | some b =>
    rw [hr, Option.toList_some] at blocks
    refine .inr ⟨b, blocks, (repeating_of_mem hr).2, ?_⟩
    by_contra ne
    have pos : 0 < b.len.toNat := Nat.pos_iff_ne_zero.2 fun eq => ne (UInt16.toNat_inj.1 eq)
    rw [h.hasRepeating_iff.2 ⟨b, hr, pos⟩] at flat
    cases flat

lemma laidOut_fixedPart (h : m.LaidOut) (flat : m.hasRepeating = false) : m.fixedPart.LaidOut := by
  have fixed : ∀ b ∈ m.fixedBlocks, b.repeating = false := fun b hb => (fixed_of_mem hb).2
  have again : m.fixedBlocks.filter (!·.repeating) = m.fixedBlocks := by
    rw [List.filter_eq_self]
    intro b hb
    rw [fixed b hb]
    rfl
  refine ⟨?_, fun b hb => fixed b (List.dropLast_subset _ hb), ?_⟩
  · have tiled := h.tiled_fixed
    rw [baseLen_eq_len flat] at tiled
    exact tiled
  · show m.baseLen.toNat = Layout.totalLen (m.fixedBlocks.filter (!·.repeating))
    rw [again]
    exact h.baseLen_eq

lemma orderly_fixedPart (ordered : ∀ b ∈ m.blocks, b.InOrder) : m.fixedPart.Orderly := by
  refine ⟨fun b hb => ordered b (fixed_of_mem hb).1, fun b hb repeating => ?_⟩
  rw [(fixed_of_mem (List.mem_of_mem_getLast? hb)).2] at repeating
  cases repeating

lemma slots_fixedPart (h : m.LaidOut) (flat : m.hasRepeating = false) :
    m.fixedPart.slots 0 = m.slots 0 := by
  show m.fixedBlocks.flatMap (·.slots 0) = m.blocks.flatMap (·.slots 0)
  rcases h.blocks_of_flat flat with same | ⟨b, blocks, repeating, -⟩
  · rw [← same]
  · rw [blocks, List.flatMap_append]
    simp [Block.slots, repeating]

lemma readings_fixedPart (h : m.LaidOut) (flat : m.hasRepeating = false) (bytes : List UInt8) :
    (readBlocks m.fixedBlocks bytes).readings = (readBlocks m.blocks bytes).readings := by
  rcases h.blocks_of_flat flat with same | ⟨b, blocks, repeating, empty⟩
  · rw [← same]
  · rw [blocks, readings_readBlocks_concat repeating empty]

/-- Where the lengths of a model show a repeating block, it has a length. -/
lemma orderly_of_hasRepeating (h : m.LaidOut) (ordered : ∀ b ∈ m.blocks, b.InOrder)
    (repeats : m.hasRepeating = true) : m.Orderly := by
  refine ⟨ordered, fun b hb repeating eq => ?_⟩
  obtain ⟨c, hc, pos⟩ := h.hasRepeating_iff.1 repeats
  have only := h.repeatingBlock?_of_mem (List.mem_of_mem_getLast? hb) repeating
  rw [hc] at only
  cases only
  rw [eq] at pos
  exact Nat.lt_irrefl 0 pos

end Model.LaidOut

/-! ## What is read of an image -/

namespace DataBlock

variable {d : DataBlock} {e : Entry} {regs : List UInt16}

/-- A repeating block without a length is passed over. -/
lemma encode_fixedPart (laidOut : e.model.LaidOut) (flat : e.model.hasRepeating = false) :
    d.encode { e with model := e.model.fixedPart } = d.encode e := by
  have plan : ∀ declared, d.plan e.model.fixedPart declared = d.plan e.model declared := by
    intro declared
    have same : d.instances e.model.fixedPart = d.instances e.model := rfl
    rw [DataBlock.plan, DataBlock.plan, same, instances_of_flat flat]
    rcases laidOut.blocks_of_flat flat with same | ⟨b, blocks, repeating, -⟩
    · rw [same]
      rfl
    · rw [blocks, planBlocks_concat repeating]
      rfl
  unfold encode
  simp only [plan]
  rfl

/-- The readings of a payload behind the header of an image. -/
def ShownBy (d : DataBlock) (e : Entry) (regs : List UInt16) : Prop :=
  ∃ declared payload, Registers.toBytes regs = Registers.toBytes [e.id, declared] ++ payload ∧
    (Dataset.ofPayload e declared payload).readings.map Reading.slot =
      e.model.slots (d.instances e.model) ∧
    ∀ r ∈ (Dataset.ofPayload e declared payload).readings, d.Shows r.slot r.value

lemma shownBy_of_orderly (laidOut : e.model.LaidOut) (orderly : e.model.Orderly)
    (made : ∀ g ∈ d.values, g.value.Made) (encoded : d.encode e = .ok regs) :
    d.ShownBy e regs := by
  obtain ⟨declared, counted, unstopped, rfl⟩ := encode_ok encoded
  have counted := payloadRegisters_ok counted
  obtain ⟨slots, placed⟩ := laidOut.placed_of_plan unstopped
  obtain ⟨fits, count⟩ : e.model.checkLength e.id declared = none ∧
      e.model.instancesIn declared = d.instances e.model :=
    Model.checkLength_of_eq laidOut.baseLen_le_len instances_of_flat counted
  have length := length_payload declared (d.plan e.model declared).placements
  have read := Dataset.ofPayload_of_fits laidOut orderly fits length.ge
  rw [count] at read
  refine ⟨declared, _, toBytes_image _ _ _, ?_, ?_⟩
  · rw [read, List.map_map]
    exact List.map_id'' (fun _ => rfl) _
  · intro r hr
    rw [read] at hr
    obtain ⟨s, hs, rfl⟩ := List.mem_map.1 hr
    exact shows_payload laidOut orderly made counted slots placed hs

/-- What is read of an image is what its slots show, wherever blocks are in order. -/
lemma shownBy_of_encode (laidOut : e.model.LaidOut) (ordered : ∀ b ∈ e.model.blocks, b.InOrder)
    (made : ∀ g ∈ d.values, g.value.Made) (encoded : d.encode e = .ok regs) :
    d.ShownBy e regs := by
  cases hr : e.model.hasRepeating with
  | true =>
    exact shownBy_of_orderly laidOut (laidOut.orderly_of_hasRepeating ordered hr) made encoded
  | false =>
    rw [← encode_fixedPart laidOut hr] at encoded
    obtain ⟨declared, payload, image, slots, shown⟩ :=
      shownBy_of_orderly (laidOut.laidOut_fixedPart hr)
        (Model.LaidOut.orderly_fixedPart ordered) made encoded
    have readings : (Dataset.ofPayload { e with model := e.model.fixedPart } declared
        payload).readings = (Dataset.ofPayload e declared payload).readings :=
      laidOut.readings_fixedPart hr _
    rw [readings] at slots shown
    refine ⟨declared, payload, image, slots.trans ?_, shown⟩
    show e.model.fixedPart.slots (d.instances e.model) = _
    rw [instances_of_flat hr, laidOut.slots_fixedPart hr]

end DataBlock

/-! ## Supplied values -/

lemma PointType.isEncodable_of_unwritten {t : PointType} {z : Value}
    (h : Value.unwritten? t = some z) : t.isEncodable = false := by
  cases t with
  | int64 | uint64 | float64 => rfl
  | _ => cases h

section

variable {p : Point} {literal : Yaml.Value} {count : Nat}

/-- A slot shows the literal for its instance, and the sentinel if there is none. -/
lemma BoundTo.literal_of_shows {block : DataBlock} (bound : BoundTo p literal block.values)
    (canonical : p.encoding.Canonical) (encodable : p.encoding.type.isEncodable = true)
    {index : Option Nat} {v : Value} (shows : block.Shows ⟨p, index⟩ v) :
    (∀ item, literal.forInstance index = some item →
      ∃ w, p.literalValue item = .ok w ∧ v.SameDatum w) ∧
    (literal.forInstance index = none → v.SameDatum (.sentinel p.encoding)) := by
  cases shows with
  | skipped skipped eq =>
    have skipped : p.encoding.type.isSkipped = true := skipped
    simp [PointType.isEncodable, skipped] at encodable
  | zero unwritten same =>
    rw [PointType.isEncodable_of_unwritten unwritten] at encodable
    cases encodable
  | @given before after g w written values covers last fitted same =>
    have mem : g ∈ block.values := by simp [values]
    obtain ⟨item, found, value⟩ := bound.literal_of_covers g mem index covers
    have encoding := Point.encoding_of_literalValue canonical value
    rw [Value.fitTo_of_encoding_eq encoding] at fitted
    cases fitted
    rw [found]
    refine ⟨fun item' eq => ?_, fun none => (by cases none)⟩
    cases eq
    exact ⟨g.value, value, same⟩
  | missing written none same =>
    refine ⟨fun item found => ?_, fun _ => same⟩
    obtain ⟨g, hg, covers⟩ := bound.exists_covers index item found
    rw [none g hg] at covers
    cases covers

end

namespace Dataset

variable {ds : Dataset} {p : Point} {b : Block} {literal : Yaml.Value} {count : Nat}

lemma mem_all_iff {r : Reading} {name : String} :
    r ∈ ds.all name ↔ r ∈ ds.readings ∧ r.point.name = name := by
  simp [all, Reading.name]

/-- The readings of a point are those of the instances of its block. -/
lemma exists_all_iff {m : Model} (distinct : (m.points.map Point.name).Nodup) (hb : b ∈ m.blocks)
    (hp : p ∈ b.points) (slots : ds.readings.map Reading.slot = m.slots count)
    (index : Option Nat) : (∃ r ∈ ds.all p.name, r.index = index) ↔ index ∈ b.indices count := by
  constructor
  · rintro ⟨r, hr, rfl⟩
    obtain ⟨mem, name⟩ := mem_all_iff.1 hr
    have slot : r.slot ∈ m.slots count := by
      rw [← slots]
      exact List.mem_map_of_mem mem
    obtain ⟨c, hc, hs⟩ := List.mem_flatMap.1 slot
    obtain ⟨point, index⟩ := Block.mem_slots_iff.1 hs
    obtain ⟨-, rfl⟩ := Model.eq_of_name distinct hc hb point hp name
    exact index
  · intro mem
    have slot : ⟨p, index⟩ ∈ m.slots count :=
      List.mem_flatMap.2 ⟨b, hb, Block.mem_slots_iff.2 ⟨hp, mem⟩⟩
    rw [← slots] at slot
    obtain ⟨r, hr, same⟩ := List.mem_map.1 slot
    obtain ⟨point, index⟩ := Slot.mk.inj same
    exact ⟨r, mem_all_iff.2 ⟨hr, by rw [point]⟩, index⟩

/-- Readings of the instances of a block, each of which shows the literal for its instance, give
a list back where each of its members has an instance. -/
lemma givesBack_list {items : List Yaml.Value}
    (instances : ∀ index, (∃ r ∈ ds.all p.name, r.index = index) ↔ index ∈ b.indices count)
    (shown : ∀ r ∈ ds.all p.name, ∀ item, (Yaml.Value.sequence items).forInstance r.index =
      some item → ∃ v, p.literalValue item = .ok v ∧ r.value.SameDatum v) :
    ds.GivesBack p (.sequence items) ↔ b.Heeds count (.sequence items) := by
  constructor
  · intro given
    by_cases nil : items = []
    · exact .inl nil
    · -- the last member has an instance, so all have
      have pos : 0 < items.length := List.length_pos_iff.2 nil
      obtain ⟨v, -, exists_reading, -⟩ := given (items.length - 1) _
        (List.getElem?_eq_getElem (by omega))
      obtain ⟨repeating, lt⟩ := Block.some_mem_indices.1 ((instances _).1 exists_reading)
      exact .inr ⟨repeating, by omega⟩
  · intro heeded i item at_i
    obtain ⟨lt, -⟩ := List.getElem?_eq_some_iff.1 at_i
    have inside : b.repeating = true ∧ i < count := by
      rcases heeded with rfl | ⟨repeating, le⟩
      · cases lt
      · exact ⟨repeating, by omega⟩
    obtain ⟨r, hr, index⟩ := (instances _).2 (Block.some_mem_indices.2 inside)
    have meant : ∀ r : Reading, r.index = some i →
        (Yaml.Value.sequence items).forInstance r.index = some item := by
      intro r index
      rw [index]
      exact at_i
    obtain ⟨v, value, -⟩ := shown r hr item (meant r index)
    refine ⟨v, value, ⟨r, hr, index⟩, fun r' hr' index' => ?_⟩
    obtain ⟨w, value', same⟩ := shown r' hr' item (meant r' index')
    rw [value] at value'
    cases value'
    exact same

/-- A literal for all instances is given back where there is one. -/
lemma givesBack_single (single : ∀ index, literal.forInstance index = some literal)
    (instances : ∀ index, (∃ r ∈ ds.all p.name, r.index = index) ↔ index ∈ b.indices count)
    (shown : ∀ r ∈ ds.all p.name, ∀ item, literal.forInstance r.index = some item →
      ∃ v, p.literalValue item = .ok v ∧ r.value.SameDatum v) :
    (∃ v, p.literalValue literal = .ok v ∧ (∃ r, r ∈ ds.all p.name) ∧
      ∀ r ∈ ds.all p.name, r.value.SameDatum v) ↔ (b.repeating = true → 0 < count) := by
  rw [← Block.exists_mem_indices]
  constructor
  · rintro ⟨v, -, ⟨r, hr⟩, -⟩
    exact ⟨r.index, (instances _).1 ⟨r, hr, rfl⟩⟩
  · rintro ⟨index, mem⟩
    obtain ⟨r, hr, -⟩ := (instances index).2 mem
    obtain ⟨v, value, -⟩ := shown r hr literal (single _)
    refine ⟨v, value, ⟨r, hr⟩, fun r' hr' => ?_⟩
    obtain ⟨w, value', same⟩ := shown r' hr' literal (single _)
    rw [value] at value'
    cases value'
    exact same

lemma givesBack_iff_heeds
    (instances : ∀ index, (∃ r ∈ ds.all p.name, r.index = index) ↔ index ∈ b.indices count)
    (shown : ∀ r ∈ ds.all p.name, ∀ item, literal.forInstance r.index = some item →
      ∃ v, p.literalValue item = .ok v ∧ r.value.SameDatum v) :
    ds.GivesBack p literal ↔ b.Heeds count literal := by
  cases literal with
  | sequence items => exact givesBack_list instances shown
  | _ => exact givesBack_single (fun _ => rfl) instances shown

end Dataset

/-- **A supplied value is read back exactly where its point has an instance for it.**  Data without
a raw image that have registers are read back.  Each name of theirs is that of a point, whose
readings are those of the instances of its block, as many as the data repeat; and if the type of the
point can be written, each reading has the value of the literal that is meant for its instance, or
the sentinel where a list has no member for it.  So a single value is given back unless the point
repeats and there is no instance, and a list with members unless the point does not repeat or has
fewer instances than the list has members. -/
theorem DescribedData.givesBack_iff {docs : List Document} {registry : Registry}
    (built : (Library.ofDocuments docs).catalogue.build = .ok registry) {d : DescribedData}
    (keyed : d.Keyed) (unimaged : d.raw = none) {e : Entry}
    (held : registry.get? d.modelId = some e) (distinct : (e.model.points.map Point.name).Nodup)
    (ordered : ∀ b ∈ e.model.blocks, b.InOrder) {regs : List UInt16}
    (encoded : d.registers registry = .ok regs) :
    let count := if e.model.hasRepeating then d.repeats.toNat else 0
    ∃ ds, Dataset.decode registry (Registers.toBytes regs) = .ok ds ∧
      ∀ name literal, (name, literal) ∈ d.values →
        ∃ b ∈ e.model.blocks, ∃ p ∈ b.points, p.name = name ∧
          (∀ index, (∃ r ∈ ds.all p.name, r.index = index) ↔ index ∈ b.indices count) ∧
          (p.encoding.type.isEncodable = true →
            (∀ r ∈ ds.all p.name,
              (∀ item, literal.forInstance r.index = some item →
                ∃ v, p.literalValue item = .ok v ∧ r.value.SameDatum v) ∧
              (literal.forInstance r.index = none → r.value.SameDatum (.sentinel p.encoding))) ∧
            (ds.GivesBack p literal ↔ b.Heeds count literal)) := by
  intro count
  obtain ⟨block, bind, written⟩ := registers_of_bind unimaged encoded held
  obtain ⟨e', held', repeats, made, bindings⟩ := bind_ok keyed bind
  rw [held] at held'
  cases held'
  obtain ⟨mem, id⟩ := Registry.mem_of_get? held
  have laidOut := Registry.laidOut_of_build built mem
  obtain ⟨declared, payload, image, slots, shown⟩ :=
    DataBlock.shownBy_of_encode laidOut ordered made written
  have instances : block.instances e.model = count := by
    rw [DataBlock.instances, repeats]
  rw [instances] at slots
  rw [image, id]
  refine ⟨_, Dataset.decode_header held declared payload, fun name literal entry => ?_⟩
  obtain ⟨p, named, bound⟩ := bindings name literal entry
  obtain ⟨hp, rfl⟩ := Model.name_of_point? named
  obtain ⟨b, hb, hp⟩ := List.mem_flatMap.1 hp
  have canonical := Registry.canonical_of_built built mem p (List.mem_flatMap_of_mem hb hp)
  have indices := Dataset.exists_all_iff distinct hb hp slots
  refine ⟨b, hb, p, hp, rfl, indices, fun encodable => ?_⟩
  have values : ∀ r ∈ (Dataset.ofPayload e declared payload).all p.name,
      (∀ item, literal.forInstance r.index = some item →
        ∃ v, p.literalValue item = .ok v ∧ r.value.SameDatum v) ∧
      (literal.forInstance r.index = none → r.value.SameDatum (.sentinel p.encoding)) := by
    intro r hr
    obtain ⟨hr, name⟩ := Dataset.mem_all_iff.1 hr
    have slot : r.slot ∈ e.model.slots count := by
      rw [← slots]
      exact List.mem_map_of_mem hr
    obtain ⟨c, hc, hs⟩ := List.mem_flatMap.1 slot
    have point : r.point = p :=
      (Model.eq_of_name distinct hc hb (Block.mem_slots_iff.1 hs).1 hp name).1
    have shows := shown r hr
    rw [Reading.slot, point] at shows
    exact bound.literal_of_shows canonical encodable shows
  exact ⟨values, Dataset.givesBack_iff_heeds indices fun r hr => (values r hr).1⟩

/-! ### Data for a boiler

Two inputs and three labels for them. -/

/-- The data. -/
def heaterData : DescribedData where
  name := "boiler"
  modelId := 64001
  repeats := 2
  raw := none
  values := [("Lb", .sequence [.string "ab", .string "c", .string "d"]), ("St", .string "OFF"),
    ("T", .int 21)]

/-- The registers of these data. -/
def heaterImage : List UInt16 :=
  [64001, 16, 0xFFFF, 0, 0, 0, 0, 0, 0, 1, 21, 0x6162, 0, 0, 21, 0x6300, 0, 0]

theorem DescribedData.givesBack_iff_heater :
    (Library.ofDocuments [heater]).catalogue.build = .ok heaterRegistry ∧ heaterData.Keyed ∧
      heaterData.raw = none ∧ heaterRegistry.get? heaterData.modelId = some heaterEntry ∧
      (heaterEntry.model.points.map Point.name).Nodup ∧
      (∀ b ∈ heaterEntry.model.blocks, b.InOrder) ∧
      heaterData.registers heaterRegistry = .ok heaterImage ∧
      ∃ ds, Dataset.decode heaterRegistry (Registers.toBytes heaterImage) = .ok ds ∧
        ds.GivesBack ⟨"T", .plain .int16, some 11, []⟩ (.int 21) ∧
        ds.GivesBack ⟨"St", .plain .enum16, some 10, [⟨"OFF", 1⟩]⟩ (.string "OFF") ∧
        -- there are two inputs, so the third label has no place
        ¬ ds.GivesBack ⟨"Lb", .string 5, some 12, []⟩
          (.sequence [.string "ab", .string "c", .string "d"]) := by
  have built : (Library.ofDocuments [heater]).catalogue.build = .ok heaterRegistry := by rfl
  have keyed : heaterData.Keyed := by
    show (["Lb", "St", "T"] : List String).Nodup
    decide
  have held : heaterRegistry.get? heaterData.modelId = some heaterEntry := rfl
  have distinct : (heaterEntry.model.points.map Point.name).Nodup := by decide
  have ordered : ∀ b ∈ heaterEntry.model.blocks, b.InOrder := by decide
  have encoded : heaterData.registers heaterRegistry = .ok heaterImage := by decide
  obtain ⟨ds, decoded, supplied⟩ :=
    DescribedData.givesBack_iff built keyed rfl held distinct ordered encoded
  have heeds : ∀ (p : Point) (literal : Yaml.Value), p ∈ heaterEntry.model.points →
      p.encoding.type.isEncodable = true → (p.name, literal) ∈ heaterData.values →
      ∃ b : Block, ds.GivesBack p literal ↔ b.Heeds 2 literal := by
    intro p literal hp encodable entry
    obtain ⟨b, hb, q, hq, name, -, given⟩ := supplied p.name literal entry
    have same : q = p :=
      List.inj_on_of_nodup_map distinct (List.mem_flatMap_of_mem hb hq) hp name
    subst same
    exact ⟨b, (given encodable).2⟩
  refine ⟨built, keyed, rfl, held, distinct, ordered, encoded, ds, decoded, ?_, ?_, ?_⟩
  · obtain ⟨b, back⟩ := heeds ⟨"T", .plain .int16, some 11, []⟩ (.int 21) (by decide) rfl
      (by simp [heaterData])
    exact back.2 fun _ => Nat.zero_lt_two
  · obtain ⟨b, back⟩ := heeds ⟨"St", .plain .enum16, some 10, [⟨"OFF", 1⟩]⟩ (.string "OFF")
      (by decide) rfl (by simp [heaterData])
    exact back.2 fun _ => Nat.zero_lt_two
  · obtain ⟨b, back⟩ := heeds ⟨"Lb", .string 5, some 12, []⟩
      (.sequence [.string "ab", .string "c", .string "d"]) (by decide) rfl (by simp [heaterData])
    intro given
    rcases back.1 given with none | ⟨-, le⟩
    · cases none
    · exact absurd le (by decide : ¬ 3 ≤ 2)

/-! ### A list for a point that stands once -/

/-- Data that give the point of a meter a list. -/
def meterData : DescribedData where
  name := "roof"
  modelId := 7
  repeats := 0
  raw := none
  values := [("A", .sequence [.int 7])]

/-- The list is taken without a fault, and its value is nowhere: the registers are those of data
without values, and the point is read as one that is not implemented. -/
theorem DescribedData.list_unread :
    (Library.ofDocuments [meterRegistry.describe]).catalogue.build = .ok meterRegistry ∧
      meterData.Keyed ∧ meterData.raw = none ∧
      meterRegistry.get? meterData.modelId = some meterEntry ∧
      (meterEntry.model.points.map Point.name).Nodup ∧
      (∀ b ∈ meterEntry.model.blocks, b.InOrder) ∧
      meterEntry.model.point? "A" = some meterPoint ∧
      meterPoint.encoding.type.isEncodable = true ∧
      meterPoint.literalValue (.int 7) = .ok (.ofUInt16 7) ∧
      meterData.registers meterRegistry = .ok [7, 1, 0xFFFF] ∧
      { meterData with values := [] }.registers meterRegistry = .ok [7, 1, 0xFFFF] ∧
      ∃ ds, Dataset.decode meterRegistry (Registers.toBytes [7, 1, 0xFFFF]) = .ok ds ∧
        (∀ r ∈ ds.all "A", r.index = none ∧ r.value.status = .notImplemented) ∧
        ¬ ds.GivesBack meterPoint (.sequence [.int 7]) := by
  refine ⟨by rfl, List.nodup_singleton _, rfl, rfl, by decide, by decide, rfl, rfl, by decide,
    by decide, by decide, Dataset.ofPayload meterEntry 1 [0xFF, 0xFF], by decide, by decide, ?_⟩
  intro back
  obtain ⟨v, -, ⟨r, hr, index⟩, -⟩ := back 0 (.int 7) rfl
  have none : ∀ r ∈ (Dataset.ofPayload meterEntry 1 [0xFF, 0xFF]).all meterPoint.name,
      r.index = none := by decide
  rw [none r hr] at index
  cases index

end SunSpec
