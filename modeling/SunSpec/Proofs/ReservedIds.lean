import SunSpec.Proofs.Merging
import SunSpec.Proofs.TableReads

/-!
# Ids that a chain keeps for itself

A walk takes two ids for something other than a model: the end marker, and the zero that says that
the end marker is missing.  It is alone in this.  A catalogue takes in a model of any id that is not
taken yet, and a table shows the data blocks of whatever is registered.

`RegisterTable.scan_ofBlocks` says what that comes to: a scan finds the data blocks in front of the
first one whose id is reserved, and nothing from there on.  `Registry.discovered_iff` is the case of
a single block.  The end marker is the worse of the two ids, since the scan then ends as it does
where nothing is left out.
-/

namespace SunSpec

/-- An id at which every walk ends, whether or not it is registered. -/
def IsReserved (id : UInt16) : Prop := id = endMarker ∨ id = 0

/-- The id that stands where data blocks begin, and behind the last of them. -/
def DataBlock.leadingId (ds : List DataBlock) : UInt16 := ds.head?.elim endMarker DataBlock.modelId

variable {registry : Registry}

/-! ## Chains of data blocks -/

lemma RegisterMap.chain_of_reserved {m : RegisterMap} {register : Nat} {id length : UInt16}
    (header : m.Holds register [id, length]) (reserved : IsReserved id) :
    m.Chain register [] (if id = 0 then .zero register else .marker) := by
  rcases reserved with rfl | rfl
  · rw [if_neg (by decide)]
    exact .marker header
  · rw [if_pos rfl]
    exact .zero header

namespace Push

variable {d : DataBlock} {image : List UInt16}

lemma isInstance_of_registers? (read : (block d).registers? registry = .ok image)
    (plain : ¬ IsReserved d.modelId) : IsInstance image := by
  obtain ⟨e, found, encoded⟩ := exists_of_bind_eq_ok read
  obtain ⟨-, length, payload, rfl, size⟩ := DataBlock.registers_of_encode found encoded
  exact ⟨d.modelId, length, payload, rfl, size, fun marker => plain (.inl marker),
    fun zero => plain (.inr zero)⟩

end Push

/-- Where data blocks and the end marker stand, their leading id does, in a header. -/
lemma RegisterMap.exists_leading_header {m : RegisterMap} {register : Nat} {ds : List DataBlock}
    {images : List (List UInt16)}
    (reads : List.Forall₂ (fun d image => (Push.block d).registers? registry = .ok image) ds images)
    (holds : m.Holds register (images.flatten ++ chainEnd)) :
    ∃ length, m.Holds register [DataBlock.leadingId ds, length] := by
  cases reads with
  | nil => exact ⟨0, holds⟩
  | cons read _ =>
    obtain ⟨e, found, encoded⟩ := exists_of_bind_eq_ok read
    obtain ⟨-, length, payload, rfl, -⟩ := DataBlock.registers_of_encode found encoded
    exact ⟨length, holds.header⟩

/-- An instance of a registered model is delivered as a dataset of its entry. -/
lemma Instance.Yields.exists_dataset {i : Instance} {event : Event} {e : Entry}
    (yields : i.Yields registry event) (held : registry.get? i.id = some e) :
    ∃ ds, event = .model i.register ds ∧ ds.entry = e := by
  cases yields with
  | @model ds _ read =>
    have bytes : Registers.toBytes i.registers =
        Registers.toBytes [i.id, i.length] ++ Registers.toBytes i.payload := by
      simp [Instance.registers]
    rw [bytes, Dataset.decode_header held, Except.ok.injEq] at read
    exact ⟨ds, rfl, by rw [← read]; rfl⟩
  | unknown unknown =>
    rw [Registry.contains, held] at unknown
    cases unknown

/-! ## Scans of data blocks -/

lemma exists_append_of_forall₂ {α β : Type} {R : α → β → Prop} {xs ys : List α} {zs : List β}
    (h : List.Forall₂ R (xs ++ ys) zs) :
    ∃ us vs, zs = us ++ vs ∧ List.Forall₂ R xs us ∧ List.Forall₂ R ys vs := by
  refine ⟨zs.take xs.length, zs.drop xs.length, (List.take_append_drop _ _).symm, ?_, ?_⟩
  · have front := List.forall₂_take xs.length h
    rwa [List.take_left] at front
  · have back := List.forall₂_drop xs.length h
    rwa [List.drop_left] at back

namespace RegisterTable

/-- The registers of a table of data blocks. -/
lemma ofBlocks_ok {base : UInt16} {ds : List DataBlock} {t : RegisterTable}
    (built : ofBlocks registry base ds = .ok t) :
    ∃ images,
      List.Forall₂ (fun d image => (Push.block d).registers? registry = .ok image) ds images ∧
        t.base = base ∧ t.registers = signature ++ (images.flatten ++ chainEnd) :=
  TableDraft.registers_of_pushes (TableDraft.pushBlock_eq registry) built

/-- **A reserved id hides what stands behind it.**  With the base of a table of data blocks as the
only candidate, and whatever may be read at once, a scan delivers the blocks in front of the first
one whose id is reserved: one dataset for each, under its own entry and at the register where the
blocks in front of it end.  It ends there, with a fault if the id is zero, and otherwise as it does
behind the last block. -/
theorem scan_ofBlocks {base : UInt16} {front rest : List DataBlock} {t : RegisterTable}
    (built : ofBlocks registry base (front ++ rest) = .ok t)
    (plain : ∀ d ∈ front, ¬ IsReserved d.modelId) (stop : IsReserved (DataBlock.leadingId rest))
    (limit : ReadLimit) :
    let found := ((Scanner.scan ⟨registry, [base], limit⟩ (Device.ofTable t)).run ()).1
    ∃ images, List.Forall₂ (fun d image => (Push.block d).registers? registry = .ok image)
        (front ++ rest) images ∧
      let place := fun k => base.toNat + 2 + ((images.take k).map List.length).sum
      found.events.length = front.length ∧
      (∀ (k : Nat) (d : DataBlock), front[k]? = some d → ∃ ds,
        found.events[k]? = some (.model (place k) ds) ∧ registry.get? d.modelId = some ds.entry) ∧
      found.outcome = if DataBlock.leadingId rest = 0
        then .error (.missingEndMarker (place front.length)) else .ok base := by
  intro found
  obtain ⟨images, reads, rfl, registers⟩ := ofBlocks_ok built
  obtain ⟨signed, behind⟩ := holds_behind_signature registers
  obtain ⟨xs, ys, rfl, front_reads, rest_reads⟩ := exists_append_of_forall₂ reads
  rw [List.flatten_append, List.append_assoc, RegisterMap.holds_append] at behind
  obtain ⟨front_holds, rest_holds⟩ := behind
  have instances : ∀ image ∈ xs, IsInstance image :=
    forall_of_forall₂ front_reads fun d hd _ read => Push.isInstance_of_registers? read (plain d hd)
  -- behind the front stands a header at which the chain ends
  obtain ⟨length, header⟩ := RegisterMap.exists_leading_header rest_reads rest_holds
  obtain ⟨is, chain, shown, places⟩ := RegisterMap.exists_chain_of_images instances front_holds
    (RegisterMap.chain_of_reserved header stop)
  rw [List.append_nil] at chain
  obtain ⟨events, fault, reported, outcome⟩ :=
    Scanner.scan_of_chain ⟨registry, [t.base], limit⟩ t.answersBy_map signed chain ()
  have count : front.length = xs.length := front_reads.length_eq
  have size : is.length = xs.length := by rw [← shown, List.length_map]
  refine ⟨xs ++ ys, reads, ?_, fun k d hd => ?_, ?_⟩
  · rw [count, ← size, events.length_eq]
  · obtain ⟨image, hx, read⟩ := exists_getElem?_of_forall₂ front_reads hd
    have before : k ≤ xs.length := Nat.le_of_lt (List.getElem?_eq_some_iff.1 hx).1
    rw [← shown, List.getElem?_map, Option.map_eq_some_iff] at hx
    obtain ⟨i, hi, rfl⟩ := hx
    obtain ⟨event, he, yields⟩ := exists_getElem?_of_forall₂ events hi
    obtain ⟨e, got, encoded⟩ := exists_of_bind_eq_ok read
    obtain ⟨-, _, _, eq, -⟩ := DataBlock.registers_of_encode got encoded
    have held : registry.get? d.modelId = some e := Registry.get_eq_ok_iff.1 got
    have id : i.id = d.modelId := (List.cons.inj eq).1
    obtain ⟨ds, rfl, entry⟩ := yields.exists_dataset (id ▸ held)
    have place : i.register = t.base.toNat + 2 + (((xs ++ ys).take k).map List.length).sum := by
      rw [List.take_append_of_le_length before]
      exact places k i hi
    rw [place] at he
    exact ⟨ds, he, by rw [entry]; exact held⟩
  · dsimp only
    rw [count, List.take_left, ← List.length_flatten]
    by_cases zero : DataBlock.leadingId rest = 0
    · rw [if_pos zero] at reported ⊢
      cases reported
      exact outcome
    · rw [if_neg zero] at reported ⊢
      cases reported
      exact outcome

end RegisterTable

/-! ## One data block -/

/-- **A registered model is discovered unless its id is reserved.**  Let a table show one data block
of an entry.  A scan from its base comes to the end marker with one dataset, of that entry, exactly
where the id of the entry is not reserved.  Under the id of the end marker nothing is delivered and
nothing is reported; under zero nothing is delivered, and the end marker is reported missing. -/
theorem Registry.discovered_iff {registry : Registry} {e : Entry}
    (registered : e ∈ registry.entries) {d : DataBlock} (of_entry : d.modelId = e.id)
    {base : UInt16} {t : RegisterTable}
    (built : RegisterTable.ofBlocks registry base [d] = .ok t) (limit : ReadLimit) :
    let found := ((Scanner.scan ⟨registry, [base], limit⟩ (Device.ofTable t)).run ()).1
    ((found.outcome = .ok base ∧
        ∃ ds, found.events = [.model (base.toNat + 2) ds] ∧ ds.entry = e) ↔ ¬ IsReserved e.id) ∧
      (e.id = endMarker → found.outcome = .ok base ∧ found.events = []) ∧
      (e.id = 0 → found.outcome = .error (.missingEndMarker (base.toNat + 2)) ∧
        found.events = []) := by
  intro found
  have held : registry.get? d.modelId = some e :=
    (Entry.find?_eq_some_iff registry.ascending).2 ⟨registered, of_entry.symm⟩
  rw [← of_entry]
  by_cases reserved : IsReserved d.modelId
  · -- the block is the first one whose id is reserved
    have stop : IsReserved (DataBlock.leadingId [d]) := reserved
    have built : RegisterTable.ofBlocks registry base ([] ++ [d]) = .ok t := built
    obtain ⟨images, -, length, -, outcome⟩ :=
      RegisterTable.scan_ofBlocks built (by simp) stop limit
    have nothing : found.events = [] := List.eq_nil_of_length_eq_zero length
    have outcome : found.outcome =
        if d.modelId = 0 then .error (.missingEndMarker (base.toNat + 2)) else .ok base := outcome
    refine ⟨⟨?_, absurd reserved⟩, fun marker => ⟨?_, nothing⟩, fun zero => ⟨?_, nothing⟩⟩
    · rintro ⟨-, ds, one, -⟩
      rw [nothing] at one
      cases one
    · rw [outcome, if_neg (by rw [marker]; decide)]
    · rw [outcome, if_pos zero]
  · -- behind the block stands the end marker of the table
    have built : RegisterTable.ofBlocks registry base ([d] ++ []) = .ok t := built
    obtain ⟨images, -, length, events, outcome⟩ :=
      RegisterTable.scan_ofBlocks built (List.forall_mem_singleton.2 reserved) (.inl rfl) limit
    obtain ⟨ds, first, entry⟩ := events 0 d rfl
    have one : found.events = [.model (base.toNat + 2) ds] := by
      obtain ⟨event, eq⟩ := List.length_eq_one_iff.1 length
      have eq : found.events = [event] := eq
      have first : found.events[0]? = some (.model (base.toNat + 2) ds) := first
      rw [eq] at first ⊢
      cases first
      rfl
    have same : ds.entry = e := Option.some.inj (entry.symm.trans held)
    exact ⟨⟨fun _ => reserved, fun _ => ⟨outcome, ds, one, same⟩⟩,
      fun marker => absurd (.inl marker) reserved, fun zero => absurd (.inr zero) reserved⟩

/-! ### A converter alone

The converter with one input, in a table whose end marker takes the last two registers. -/

/-- The data of the converter. -/
def soleBlock : DataBlock := ⟨"roof", 160, 1, []⟩

/-- The table of these data. -/
def soleTable : RegisterTable where
  base := 65518
  image := #[0x5375, 0x6E53, 160, 13, 0x8000, 0, 0, 0, 0, 0, 0, 0, 0xFFFF, 0, 0, 0, 0, 0xFFFF, 0]
  one_le_base := by decide
  fits := by decide

theorem Registry.discovered_iff_sole :
    laidConverter ∈ converterRegistry.entries ∧ soleBlock.modelId = laidConverter.id ∧
      RegisterTable.ofBlocks converterRegistry 65518 [soleBlock] = .ok soleTable ∧
      let found := ((Scanner.scan ⟨converterRegistry, [65518], .protocol⟩
        (Device.ofTable soleTable)).run ()).1
      found.outcome = .ok 65518 ∧
        ∃ ds, found.events = [.model 65520 ds] ∧ ds.entry = laidConverter := by
  have registered : laidConverter ∈ converterRegistry.entries := List.mem_singleton_self _
  have built : RegisterTable.ofBlocks converterRegistry 65518 [soleBlock] = .ok soleTable := rfl
  have plain : ¬ IsReserved laidConverter.id := by
    rintro (marker | zero)
    · cases marker
    · cases zero
  exact ⟨registered, rfl, built,
    (Registry.discovered_iff registered rfl built .protocol).1.2 plain⟩

/-! ### A model under the id of the end marker -/

/-- The model before layout. -/
def vendorEntry : Entry :=
  ⟨endMarker, "vendor", .ofBlocks [.ofPoints [.ofEncoding "W" (.plain .int16)] false]⟩

/-- The registry of this model alone. -/
def vendorRegistry : Registry :=
  ⟨[{ vendorEntry with model := (vendorEntry.model.resolve vendorEntry.name).model }],
    List.pairwise_singleton _ _⟩

/-- A value for its point. -/
def vendorBlock : DataBlock := ⟨"roof", endMarker, 0, [⟨"W", none, .ofInt16 1234⟩]⟩

/-- The table of this value. -/
def vendorTable : RegisterTable where
  base := 50001
  image := #[0x5375, 0x6E53, 0xFFFF, 1, 1234, 0xFFFF, 0]
  one_le_base := by decide
  fits := by decide

/-- The model is taken in, laid out and shown, and the scan ends well without it. -/
theorem Registry.undiscovered :
    (Catalogue.empty.insert vendorEntry >>= Catalogue.build) = .ok vendorRegistry ∧
      RegisterTable.ofBlocks vendorRegistry 50001 [vendorBlock] = .ok vendorTable ∧
      let found := ((Scanner.scan ⟨vendorRegistry, [50001], .protocol⟩
        (Device.ofTable vendorTable)).run ()).1
      found.outcome = .ok 50001 ∧ found.events = [] := by
  have built :
      RegisterTable.ofBlocks vendorRegistry 50001 ([] ++ [vendorBlock]) = .ok vendorTable := rfl
  obtain ⟨images, -, length, -, outcome⟩ :=
    RegisterTable.scan_ofBlocks built (by simp) (.inl rfl) .protocol
  exact ⟨rfl, built, outcome, List.eq_nil_of_length_eq_zero length⟩

end SunSpec
