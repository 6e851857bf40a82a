import SunSpec.Proofs.ShortReads

/-!
# What an unmarked dataset holds

The reader of a payload stops early at a field that does not fit, and behind the last whole
instance of a repeating block if bytes are left over.  Either leaves readings missing, except in a
block that has no points.  A payload may also be shorter than what the model asks for.  A dataset
is marked in all of these cases, and here it is shown that it is whole in all others.

`ReadOff` is what the readers of points, of instances and of blocks have in common: each reading
comes from a field inside the bytes, and the readings are those of all slots unless something cut
them short.  `Block.read_readOff` rests on `Block.truncated_of_readInstances`: a field that does not
fit belongs to a point, so its block has points to miss.
-/

namespace SunSpec

/-- The value was decoded from a field inside the bytes, or holds the place of a point that has no
wire form. -/
def Reading.IsFrom (r : Reading) (bytes : List UInt8) : Prop :=
  (r.point.isSkipped = true → r.value = .undefined r.point.encoding) ∧
    (r.point.isSkipped = false → ∃ start, start + r.point.size ≤ bytes.length ∧
      Codec.decode r.point.encoding ((bytes.drop start).take r.point.size) = .ok r.value)

lemma Reading.IsFrom.widen {r : Reading} {part whole : List UInt8} (h : r.IsFrom part)
    (sub : part <:+: whole) : r.IsFrom whole := by
  obtain ⟨front, back, rfl⟩ := sub
  refine ⟨h.1, fun wire => ?_⟩
  obtain ⟨start, inside, decoded⟩ := h.2 wire
  refine ⟨front.length + start, ?_, ?_⟩
  · simp only [List.length_append]
    omega
  · rw [List.append_assoc, ← List.drop_drop, List.drop_left,
      List.drop_append_of_le_length (by omega : start ≤ part.length),
      List.take_append_of_le_length (by rw [List.length_drop]; omega)]
    exact decoded

/-- What was read of some slots: each reading is from a field of the bytes, and unless they were
cut short the readings are those of the slots in their order. -/
structure ReadOff (bytes : List UInt8) (readings : List Reading) (slots : List Slot) (cut : Bool) :
    Prop where
  isFrom : ∀ r ∈ readings, r.IsFrom bytes
  slots_eq : cut = false → readings.map Reading.slot = slots

namespace ReadOff

variable {bytes : List UInt8} {readings rest : List Reading} {slots slots' : List Slot} {cut : Bool}

lemma nil : ReadOff bytes [] [] cut := ⟨fun _ hr => (List.not_mem_nil hr).elim, fun _ => rfl⟩

lemma of_cut (isFrom : ∀ r ∈ readings, r.IsFrom bytes) : ReadOff bytes readings slots true :=
  ⟨isFrom, fun whole => by cases whole⟩

lemma append (h : ReadOff bytes readings slots false) (h' : ReadOff bytes rest slots' cut) :
    ReadOff bytes (readings ++ rest) (slots ++ slots') cut := by
  constructor
  · intro r hr
    rcases List.mem_append.1 hr with hr | hr
    · exact h.isFrom r hr
    · exact h'.isFrom r hr
  · intro whole
    rw [List.map_append, h.slots_eq rfl, h'.slots_eq whole]

lemma widen {part : List UInt8} (h : ReadOff part readings slots cut) (sub : part <:+: bytes) :
    ReadOff bytes readings slots cut :=
  ⟨fun r hr => (h.isFrom r hr).widen sub, h.slots_eq⟩

end ReadOff

/-! ## Blocks -/

namespace Block

variable (b : Block)

lemma readPoints_readOff (index : Option Nat) (bytes : List UInt8) (cursor : Nat)
    (ps : List Point) :
    let r := b.readPoints index bytes bytes.length cursor ps
    ReadOff bytes r.readings (ps.map fun p => ⟨p, index⟩) r.shortfall.isSome := by
  induction ps generalizing cursor with
  | nil => exact .nil
  | cons p ps ih =>
    unfold readPoints
    by_cases skipped : p.isSkipped = true
    · have here : ReadOff bytes [⟨p, index, .undefined p.encoding⟩] [⟨p, index⟩] false := by
        refine ⟨fun r hr => ?_, fun _ => rfl⟩
        obtain rfl := List.mem_singleton.1 hr
        exact ⟨fun _ => rfl, fun wire => by rw [skipped] at wire; cases wire⟩
      simp only [if_pos skipped]
      exact here.append (ih cursor)
    · simp only [if_neg skipped]
      by_cases short : bytes.length < b.positionOf p cursor + p.size
      · rw [if_pos short]
        exact .of_cut fun r hr => by cases hr
      · have wire : p.isSkipped = false := Bool.not_eq_true _ ▸ skipped
        have room : p.size ≤ (bytes.drop (b.positionOf p cursor)).length := by
          rw [List.length_drop]
          omega
        have value := Codec.decode_of_size_le wire room
        have here : ReadOff bytes [⟨p, index, p.valueIn (bytes.drop (b.positionOf p cursor))⟩]
            [⟨p, index⟩] false := by
          refine ⟨fun r hr => ?_, fun _ => rfl⟩
          obtain rfl := List.mem_singleton.1 hr
          refine ⟨fun skip => absurd skip skipped, fun _ => ⟨b.positionOf p cursor, ?_, ?_⟩⟩
          · show b.positionOf p cursor + p.size ≤ bytes.length
            omega
          · -- the codec takes no more than the field
            rw [← value]
            refine (Codec.decode_eq_of_front (List.take_prefix _ _) ?_).symm
            rw [List.length_take]
            exact le_min le_rfl room
        rw [if_neg short, value]
        exact here.append (ih _)

/-- Instances are stopped by a field that does not fit, so the block has points. -/
lemma truncated_of_readInstances {available consumed count k : Nat} {acc : Array Reading}
    {bytes : List UInt8} {d : Diagnostic}
    (stopped : (b.readInstances available acc consumed count k bytes).diagnostic = some d) :
    (∃ needed, d = .ofFault (.truncated needed available)) ∧ b.isEmpty = false := by
  induction count generalizing acc consumed k bytes with
  | zero => cases stopped
  | succ count ih =>
    unfold readInstances at stopped
    dsimp only at stopped
    split at stopped
    · next needed short =>
      have points : b.points ≠ [] := by
        intro none
        rw [none] at short
        cases short
      cases stopped
      exact ⟨⟨_, rfl⟩, List.isEmpty_eq_false_iff.2 points⟩
    · exact ih stopped

/-- A field that does not fit is missed. -/
lemma cutsShort_of_readInstances {available consumed count k : Nat} {acc : Array Reading}
    {bytes : List UInt8} {d : Diagnostic}
    (stopped : (b.readInstances available acc consumed count k bytes).diagnostic = some d) :
    d.cutsShort b = true := by
  obtain ⟨⟨needed, rfl⟩, points⟩ := b.truncated_of_readInstances stopped
  simp [Diagnostic.cutsShort, Diagnostic.ofFault, Fault.kind, points]

lemma readInstances_readOff (slice : List UInt8) (count k : Nat) {acc : Array Reading}
    (consumed : Nat) {slots : List Slot} (before : ReadOff slice acc.toList slots false) :
    let r := b.readInstances slice.length acc consumed count k (slice.drop (k * b.unit))
    ReadOff slice r.readings
      (slots ++ (List.range' k count).flatMap fun k => b.points.map fun p => ⟨p, b.indexOf k⟩)
      r.diagnostic.isSome := by
  induction count generalizing k acc consumed slots with
  | zero =>
    rw [List.range'_zero, List.flatMap_nil, List.append_nil]
    exact before
  | succ count ih =>
    have added := (b.readPoints_readOff (b.indexOf k) (slice.drop (k * b.unit)) 0
      b.points).widen (List.drop_suffix _ _).isInfix
    have next : (slice.drop (k * b.unit)).drop b.unit = slice.drop ((k + 1) * b.unit) := by
      rw [List.drop_drop, Nat.add_mul, Nat.one_mul]
    rw [List.length_drop] at added
    rw [List.range'_succ, List.flatMap_cons, ← List.append_assoc]
    unfold readInstances
    dsimp only
    have grown := before.append added
    cases hr : (b.readPoints (b.indexOf k) (slice.drop (k * b.unit))
        (slice.length - k * b.unit) 0 b.points).shortfall with
    | some needed =>
      dsimp only
      rw [Array.toList_appendList]
      exact .of_cut grown.isFrom
    | none =>
      rw [hr, Option.isSome_none, ← Array.toList_appendList] at grown
      dsimp only
      rw [next]
      exact ih (k + 1) _ grown

/-- Where nothing is missing no instance stopped the reader, whatever is reported behind them. -/
lemma readInstances_unstopped {available consumed count k : Nat} {acc : Array Reading}
    {bytes : List UInt8} (tail : Option Diagnostic)
    (whole : ((b.readInstances available acc consumed count k bytes).diagnostic <|> tail).any
      (·.cutsShort b) = false) :
    (b.readInstances available acc consumed count k bytes).diagnostic = none := by
  cases hd : (b.readInstances available acc consumed count k bytes).diagnostic with
  | none => rfl
  | some d =>
    have cuts := b.cutsShort_of_readInstances hd
    rw [hd] at whole
    simp [cuts] at whole

/-- A problem left readings of a block missing. -/
def isCut (r : BlockReading) : Bool := r.diagnostic.any (·.cutsShort b)

/-- A block is read to the end of some instance, unless it is cut short. -/
lemma read_readOff (bytes : List UInt8) :
    ∃ count, ReadOff bytes (b.read bytes).readings (b.slots count) (b.isCut (b.read bytes)) := by
  have instances (count : Nat) := b.readInstances_readOff bytes count 0 0 .nil
  simp only [Nat.zero_mul, List.drop_zero, List.nil_append] at instances
  unfold isCut read
  simp only [slots_eq]
  by_cases once : b.repeating = false
  · refine ⟨1, ?_⟩
    simp only [once, Bool.not_false, if_true, Bool.false_eq_true, if_false]
    refine ⟨(instances 1).isFrom, fun whole => ?_⟩
    have unstopped := b.readInstances_unstopped none (by simpa using whole)
    have read := (instances 1).slots_eq (by rw [unstopped]; rfl)
    simpa [indexOf, once] using read
  · have repeating : b.repeating = true := Bool.not_eq_false _ ▸ once
    by_cases zero : b.unit = 0
    · refine ⟨0, ?_⟩
      simp only [repeating, Bool.not_true, Bool.false_eq_true, if_false, if_pos zero]
      exact .nil
    · refine ⟨bytes.length / b.unit, ?_⟩
      simp only [repeating, Bool.not_true, Bool.false_eq_true, if_false, if_neg zero, if_true]
      refine ⟨(instances _).isFrom, fun whole => ?_⟩
      have unstopped := b.readInstances_unstopped _ whole
      have read := (instances _).slots_eq (by rw [unstopped]; rfl)
      simpa [indexOf, repeating] using read

/-- A block that stands once leaves readings missing wherever it stops the reader. -/
lemma cutsShort_of_once (once : b.repeating = false) {bytes : List UInt8} {d : Diagnostic}
    (stopped : (b.read bytes).diagnostic = some d) : d.cutsShort b = true := by
  have alone : b.read bytes = b.readInstances bytes.length #[] 0 1 0 bytes := by
    simp [read, once]
  rw [alone] at stopped
  exact b.cutsShort_of_readInstances stopped

end Block

/-- A problem left readings of blocks missing. -/
def BlocksReading.isCut (r : BlocksReading) : Bool := (r.stop.map Prod.snd).getD false

/-- Blocks of which at most the last one repeats are read one by one, unless they are cut short. -/
theorem readBlocks_readOff {bs : List Block} (once : ∀ b ∈ bs.dropLast, b.repeating = false)
    (bytes : List UInt8) : ∃ count, ReadOff bytes (readBlocks bs bytes).readings
      (bs.flatMap (·.slots count)) (readBlocks bs bytes).isCut := by
  induction bs generalizing bytes with
  | nil => exact ⟨0, .nil⟩
  | cons b bs ih =>
    obtain ⟨count, head⟩ := b.read_readOff bytes
    rw [readBlocks]
    dsimp only
    by_cases last : bs = []
    · subst last
      refine ⟨count, ?_⟩
      rw [List.flatMap_singleton]
      cases hd : (b.read bytes).diagnostic with
      | some d =>
        rw [Block.isCut, hd] at head
        exact head
      | none =>
        rw [Block.isCut, hd] at head
        simpa [readBlocks, BlocksReading.isCut] using head
    · rw [List.dropLast_cons_of_ne_nil last] at once
      have fixed : b.repeating = false := once b List.mem_cons_self
      cases hd : (b.read bytes).diagnostic with
      | some d =>
        refine ⟨count, ?_⟩
        have cuts : BlocksReading.isCut ⟨(b.read bytes).readings, (b.read bytes).consumed,
            some (d, d.cutsShort b)⟩ = true := b.cutsShort_of_once fixed hd
        rw [cuts]
        exact .of_cut head.isFrom
      | none =>
        obtain ⟨count', rest⟩ := ih (fun c hc => once c (List.mem_cons_of_mem _ hc))
          (bytes.drop (b.read bytes).consumed)
        rw [Block.isCut, hd] at head
        -- a block that stands once has the same slots for every count
        have slots : b.slots count = b.slots count' := by simp [Block.slots, fixed]
        rw [slots] at head
        refine ⟨count', ?_⟩
        exact head.append (rest.widen (List.drop_suffix _ _).isInfix)

/-- An overrun cuts blocks short, and nothing else does but a truncation. -/
lemma readBlocks_stop {bs : List Block} {bytes : List UInt8} {d : Diagnostic} {cut : Bool}
    (stopped : (readBlocks bs bytes).stop = some (d, cut)) :
    (d.kind = .overrun → cut = true) ∧ (cut = true → d.kind = .overrun ∨ d.kind = .truncation) := by
  induction bs generalizing bytes with
  | nil => cases stopped
  | cons b bs ih =>
    rw [readBlocks] at stopped
    dsimp only at stopped
    split at stopped
    · cases stopped
      simp only [Diagnostic.cutsShort, Bool.or_eq_true, Bool.and_eq_true, decide_eq_true_eq]
      exact ⟨.inl, Or.imp_right And.left⟩
    · exact ih stopped

/-! ## Datasets -/

namespace Dataset

variable {e : Entry} {declared : UInt16} {payload : List UInt8}

/-- The header of a buffer that gives a dataset is the one that the dataset shows. -/
lemma exists_of_decode {registry : Registry} {buffer : List UInt8} {d : Dataset}
    (decoded : decode registry buffer = .ok d) : ∃ payload,
      buffer = Registers.toBytes [d.entry.id, d.declared] ++ payload ∧
        registry.get? d.entry.id = some d.entry ∧ d = ofPayload d.entry d.declared payload := by
  by_cases short : buffer.length < headerBytes
  · rw [decode_of_short registry short] at decoded
    cases decoded
  · obtain ⟨id, declared, payload, rfl⟩ := exists_header (Nat.not_lt.1 short)
    cases held : registry.get? id with
    | none =>
      rw [decode_of_unknown held] at decoded
      cases decoded
    | some e =>
      rw [decode_header held] at decoded
      cases decoded
      obtain rfl : e.id = id := (Registry.mem_of_get? held).2
      exact ⟨payload, rfl, held, rfl⟩

lemma checkLength_kind {m : Model} {id declared : UInt16} {f : Fault}
    (mismatch : m.checkLength id declared = some f) : f.kind = .lengthMismatch := by
  have found : m.checkLength? id declared = some (some f) := Option.join_eq_some_iff.1 mismatch
  cases hr : m.hasRepeating with
  | false =>
    rw [Model.checkLength?_of_flat hr] at found
    split at found <;> cases found
    rfl
  | true =>
    by_cases ordered : m.baseLen ≤ m.len
    · rw [Model.checkLength?_of_repeating ordered hr] at found
      split at found <;> cases found
      rfl
    · rw [Model.checkLength?_eq_none_iff.2 ordered] at found
      cases found

lemma ofPayload_readOff (laidOut : e.model.LaidOut) (declared : UInt16) (payload : List UInt8) :
    ∃ count, ReadOff payload (ofPayload e declared payload).readings (e.model.slots count)
      (ofPayload e declared payload).isPartial := by
  obtain ⟨count, reads⟩ := readBlocks_readOff laidOut.once (payload.take (wanted e.model declared))
  refine ⟨count, ?_⟩
  have reads := reads.widen (List.take_prefix _ _).isInfix
  refine ⟨reads.isFrom, fun unmarked => reads.slots_eq ?_⟩
  exact (Bool.or_eq_false_iff.1 unmarked).2

/-- A dataset that notes an overrun is marked. -/
lemma kind_ne_overrun_of_unmarked (unmarked : (ofPayload e declared payload).isPartial = false)
    {x : Diagnostic} (hx : x ∈ (ofPayload e declared payload).diagnostics) :
    x.kind ≠ .overrun := by
  obtain ⟨enough, uncut⟩ := Bool.or_eq_false_iff.1 unmarked
  rw [decide_eq_false_iff_not] at enough
  simp only [diagnostics, ofPayload, if_neg enough, List.append_nil, List.mem_append,
    Option.mem_toList, Option.map_eq_some_iff] at hx
  rcases hx with ⟨f, mismatch, rfl⟩ | ⟨⟨d, cut⟩, stopped, rfl⟩
  · show f.kind ≠ .overrun
    rw [checkLength_kind mismatch]
    decide
  · intro overrun
    have cuts : cut = true := (readBlocks_stop stopped).1 overrun
    rw [stopped] at uncut
    exact Bool.false_ne_true (uncut.symm.trans cuts)

/-- A dataset is marked for a payload that is too short, or for what stopped its blocks. -/
lemma exists_kind_of_marked (marked : (ofPayload e declared payload).isPartial = true) :
    ∃ x ∈ (ofPayload e declared payload).diagnostics,
      x.kind = .overrun ∨ x.kind = .truncation := by
  unfold diagnostics ofPayload at *
  by_cases short : payload.length < wanted e.model declared
  · simp only [if_pos short]
    refine ⟨_, List.mem_append_left _ (List.mem_append_right _ (List.mem_singleton_self _)), ?_⟩
    exact .inl rfl
  · simp only [decide_eq_false short, Bool.false_or] at marked
    cases hs : (readBlocks e.model.blocks (payload.take (wanted e.model declared))).stop with
    | none =>
      rw [hs] at marked
      cases marked
    | some stop =>
      obtain ⟨d, cut⟩ := stop
      rw [hs] at marked
      refine ⟨d, List.mem_append_right _ ?_, (readBlocks_stop hs).2 marked⟩
      simp [hs]

/-- **A dataset that is not marked is whole, and one that is marked says why.**  Every reading of a
dataset is from a field inside the payload.  If the dataset is not marked, its readings are those of
every point of the blocks that stand once and then of every point of some number of instances of
the repeating block, in this order, and no overrun was noted.  If it is marked, an overrun or a
truncation was. -/
theorem whole_of_decode {c : Catalogue} {registry : Registry} (built : c.build = .ok registry)
    {buffer : List UInt8} {d : Dataset} (decoded : decode registry buffer = .ok d) :
    ∃ payload, buffer = Registers.toBytes [d.entry.id, d.declared] ++ payload ∧
      registry.get? d.entry.id = some d.entry ∧ (∀ r ∈ d.readings, r.IsFrom payload) ∧
      (d.isPartial = false → (∀ x ∈ d.diagnostics, x.kind ≠ .overrun) ∧
        ∃ count, d.readings.map Reading.slot =
          (d.entry.model.fixedBlocks.flatMap fun b => b.points.map fun p => ⟨p, none⟩) ++
          ((List.range count).flatMap fun k =>
            d.entry.model.repeatingBlock?.toList.flatMap fun b =>
              b.points.map fun p => ⟨p, some k⟩)) ∧
      (d.isPartial = true → ∃ x ∈ d.diagnostics, x.kind = .overrun ∨ x.kind = .truncation) := by
  obtain ⟨payload, buffer_eq, held, eq⟩ := exists_of_decode decoded
  have laidOut := Registry.laidOut_of_build built (Registry.mem_of_get? held).1
  obtain ⟨count, reads⟩ := ofPayload_readOff laidOut d.declared payload
  rw [← eq] at reads
  refine ⟨payload, buffer_eq, held, reads.isFrom, ?_, ?_⟩
  · intro unmarked
    refine ⟨fun x hx => ?_, count, ?_⟩
    · rw [eq] at unmarked hx
      exact kind_ne_overrun_of_unmarked unmarked hx
    · rw [← laidOut.slots_eq]
      exact reads.slots_eq unmarked
  · intro marked
    rw [eq] at marked ⊢
    exact exists_kind_of_marked marked

end Dataset

/-! ### The converter, whole and cut

The registers of two inputs are a whole dataset; without the last three of them it is marked. -/

theorem Dataset.whole_of_decode_converter :
    let bytes := Registers.toBytes converterRegisters
    converterCatalogue.build = .ok converterRegistry ∧
      ∃ whole cut,
        Dataset.decode converterRegistry (0 :: 160 :: 0 :: 18 :: bytes.take 36) = .ok whole ∧
        Dataset.decode converterRegistry (0 :: 160 :: 0 :: 18 :: bytes.take 30) = .ok cut ∧
        whole.isPartial = false ∧ (∀ x ∈ whole.diagnostics, x.kind ≠ .overrun) ∧
        whole.readings.map (fun r => (r.name, r.index)) =
          [("SF", none), ("Nm", none), ("Pad", none), ("Evt", none),
            ("ID", some 0), ("WH", some 0), ("ID", some 1), ("WH", some 1)] ∧
        cut.isPartial = true ∧ ∃ x ∈ cut.diagnostics, x.kind = .overrun ∨ x.kind = .truncation := by
  intro bytes
  have built : converterCatalogue.build = .ok converterRegistry := rfl
  have held : converterRegistry.get? (Registers.ofPair 0 160) = some laidConverter := rfl
  have read (payload : List UInt8) := Dataset.decode_of_header held 0 18 payload
  have unmarked : (Dataset.ofPayload laidConverter 18 (bytes.take 36)).isPartial = false := by
    decide
  have marked : (Dataset.ofPayload laidConverter 18 (bytes.take 30)).isPartial = true := by decide
  obtain ⟨-, -, -, -, whole, -⟩ := Dataset.whole_of_decode built (read (bytes.take 36))
  obtain ⟨-, -, -, -, -, noted⟩ := Dataset.whole_of_decode built (read (bytes.take 30))
  obtain ⟨clean, -⟩ := whole unmarked
  exact ⟨built, _, _, read _, read _, unmarked, clean, by decide, marked, noted marked⟩

end SunSpec
