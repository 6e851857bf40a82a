import SunSpec.Proofs.Completeness

/-!
# Reading where every access is checked

The reader takes lengths from the device, offsets from a description, and the place of a block from
what the block before it consumed.  `List.drop` and `List.take` admit any of these numbers; a
machine that stops at a slice outside of its bytes does not.  Here the reader stands a second time,
on such a machine: positions count from the start of the payload, each slice of it is a `slice?`, a
field that the codec refuses has no place holder, and the declared length is checked by
`Model.checkLength?`.

`Block.read?_eq` says that the machine never stops inside a block, whether the block was laid out or
not.  It rests on `Block.readPoints?_eq`, in which the comparison in front of a field is what admits
the slice.  From block to block the premise is `Block.consumed_le`: no block consumes more than it
was given, so that the running cursor stays inside the payload (`readBlocks?_eq`).
-/

namespace SunSpec

/-- The bytes from `start` up to `stop`, where they are all there. -/
def slice? (bytes : List UInt8) (start stop : Nat) : Option (List UInt8) :=
  if start ≤ stop ∧ stop ≤ bytes.length then some ((bytes.drop start).take (stop - start))
  else none

lemma slice?_of_le {bytes : List UInt8} {start stop : Nat} (ordered : start ≤ stop)
    (inside : stop ≤ bytes.length) :
    slice? bytes start stop = some ((bytes.drop start).take (stop - start)) :=
  if_pos ⟨ordered, inside⟩

/-! ## The reader on a machine that checks -/

namespace Block

/-- Read points of the instance that begins at `origin`. -/
def readPoints? (b : Block) (index : Option Nat) (bytes : List UInt8) (origin : Nat) :
    Nat → List Point → Option InstanceReading
  | cursor, [] => some ⟨[], cursor, none⟩
  | cursor, p :: ps =>
    if p.isSkipped then do
      let rest ← b.readPoints? index bytes origin cursor ps
      return { rest with readings := ⟨p, index, .undefined p.encoding⟩ :: rest.readings }
    else
      let position := b.positionOf p cursor
      let start := origin + position
      if bytes.length < start + p.size then some ⟨[], cursor, some (position + p.size)⟩
      else do
        let field ← slice? bytes start (start + p.size)
        let value ← (Codec.decode p.encoding field).toOption
        let rest ← b.readPoints? index bytes origin (position + 2 * p.registers) ps
        return { rest with readings := ⟨p, index, value⟩ :: rest.readings }

/-- Read `count` instances from number `k` on. -/
def readInstances? (b : Block) (bytes : List UInt8) (acc : Array Reading) (consumed : Nat) :
    (count k : Nat) → Option BlockReading
  | 0, _ => some ⟨acc.toList, consumed, none⟩
  | count + 1, k => do
    let origin := k * b.unit
    let r ← b.readPoints? (b.indexOf k) bytes origin 0 b.points
    match r.shortfall with
    | some needed =>
      return ⟨(acc ++ r.readings).toList, min (max consumed (origin + r.cursor)) bytes.length,
        some (.ofFault (.truncated (origin + needed) bytes.length))⟩
    | none =>
      b.readInstances? bytes (acc ++ r.readings)
        (min (origin + max b.unit r.cursor) bytes.length) count (k + 1)

/-- Read a block from a slice of bytes. -/
def read? (b : Block) (bytes : List UInt8) : Option BlockReading :=
  if !b.repeating then b.readInstances? bytes #[] 0 1 0
  else if b.unit = 0 then
    some ⟨[], 0,
      some (.warning .truncation "repeating block has zero length; no instances decoded")⟩
  else do
    let r ← b.readInstances? bytes #[] 0 (bytes.length / b.unit) 0
    return { r with diagnostic := r.diagnostic <|> b.tailDiagnostic bytes.length }

end Block

/-- Read blocks from `cursor` on, of a payload that is looked at up to `limit`. -/
def readBlocks? (payload : List UInt8) (limit : Nat) : (cursor : Nat) → List Block →
    Option BlocksReading
  | _, [] => some ⟨[], 0, none⟩
  | cursor, b :: bs => do
    let bytes ← slice? payload cursor limit
    let r ← b.read? bytes
    match r.diagnostic with
    | some d => return ⟨r.readings, r.consumed, some (d, d.cutsShort b)⟩
    | none =>
      let rest ← readBlocks? payload limit (cursor + r.consumed) bs
      return ⟨r.readings ++ rest.readings, r.consumed + rest.consumed, rest.stop⟩

namespace Dataset

/-- Read the payload behind a header. -/
def ofPayload? (e : Entry) (declared : UInt16) (payload : List UInt8) : Option Dataset := do
  let mismatch ← e.model.checkLength? e.id declared
  let wanted := wanted e.model declared
  let short := payload.length < wanted
  let overrun := Diagnostic.warning .overrun
    s!"payload needs {wanted} bytes but buffer holds {payload.length}"
  let r ← readBlocks? payload (min wanted payload.length) 0 e.model.blocks
  return {
    entry := e
    declared
    readings := r.readings
    notes := (mismatch.map Diagnostic.ofFault).toList ++ if short then [overrun] else []
    stop := r.stop.map Prod.fst
    isPartial := short || (r.stop.map Prod.snd).getD false
    consumed := r.consumed }

/-- Read a model instance: a header, then the payload. -/
def decode? (registry : Registry) (buffer : List UInt8) : Option (Except Fault Dataset) :=
  if buffer.length < headerBytes then some (.error (.truncated headerBytes buffer.length))
  else do
    let header ← slice? buffer 0 headerBytes
    let [id, declared] := Registers.ofBytes header | none
    match registry.get? id with
    | none => return .error (.unknownModel id)
    | some e =>
      let payload ← slice? buffer headerBytes buffer.length
      return .ok (← ofPayload? e declared payload)

end Dataset

/-! ## Blocks -/

namespace Block

variable (b : Block)

/-- The comparison in front of each field admits its slice, and the codec reads every field that it
is handed. -/
lemma readPoints?_eq (index : Option Nat) {bytes : List UInt8} {origin : Nat}
    (inside : origin ≤ bytes.length) (cursor : Nat) (ps : List Point) :
    b.readPoints? index bytes origin cursor ps =
      some (b.readPoints index (bytes.drop origin) (bytes.length - origin) cursor ps) := by
  induction ps generalizing cursor with
  | nil => rfl
  | cons p ps ih =>
    unfold readPoints? readPoints
    by_cases skipped : p.isSkipped = true
    · rw [if_pos skipped, if_pos skipped, ih]
      rfl
    · rw [if_neg skipped, if_neg skipped]
      dsimp only
      by_cases short : bytes.length - origin < b.positionOf p cursor + p.size
      · rw [if_pos short, if_pos (by omega)]
      · have stop_le : origin + b.positionOf p cursor + p.size ≤ bytes.length := by omega
        have wire : p.isSkipped = false := Bool.not_eq_true _ ▸ skipped
        set field := (bytes.drop (origin + b.positionOf p cursor)).take p.size with field_eq
        have slice : slice? bytes (origin + b.positionOf p cursor)
            (origin + b.positionOf p cursor + p.size) = some field := by
          rw [slice?_of_le (Nat.le_add_right _ _) stop_le, Nat.add_sub_cancel_left]
        have room : p.size ≤ field.length := by
          rw [field_eq, List.length_take, List.length_drop]
          omega
        have value := Codec.decode_of_size_le wire room
        -- behind the field the codec does not look
        have whole : Codec.decode p.encoding ((bytes.drop origin).drop (b.positionOf p cursor)) =
            .ok (p.valueIn field) := by
          rw [List.drop_drop, Codec.decode_eq_of_front (List.take_prefix _ _) room]
          exact value
        rw [if_neg (by omega), if_neg short, slice, whole, Option.bind_eq_bind, Option.bind_some,
          value, ih]
        rfl

lemma readInstances?_eq {bytes : List UInt8} (acc : Array Reading) (consumed : Nat) {count k : Nat}
    (inside : ∀ j < k + count, j * b.unit ≤ bytes.length) :
    b.readInstances? bytes acc consumed count k =
      some (b.readInstances bytes.length acc consumed count k (bytes.drop (k * b.unit))) := by
  induction count generalizing acc consumed k with
  | zero => rfl
  | succ count ih =>
    have next : (bytes.drop (k * b.unit)).drop b.unit = bytes.drop ((k + 1) * b.unit) := by
      rw [List.drop_drop, Nat.add_mul, Nat.one_mul]
    have later : ∀ j < k + 1 + count, j * b.unit ≤ bytes.length :=
      fun j lt => inside j (by omega)
    unfold readInstances? readInstances
    dsimp only
    rw [b.readPoints?_eq _ (inside k (by omega)), Option.bind_eq_bind, Option.bind_some, next]
    cases hr : (b.readPoints (b.indexOf k) (bytes.drop (k * b.unit))
        (bytes.length - k * b.unit) 0 b.points).shortfall with
    | some needed => rfl
    | none => exact ih _ _ later

/-- A machine that checks does not stop inside a block. -/
lemma read?_eq (bytes : List UInt8) : b.read? bytes = some (b.read bytes) := by
  unfold read? read
  cases b.repeating with
  | false =>
    have inside : ∀ j < 0 + 1, j * b.unit ≤ bytes.length := by
      intro j lt
      obtain rfl : j = 0 := by omega
      rw [Nat.zero_mul]
      exact Nat.zero_le _
    have once := b.readInstances?_eq #[] 0 inside
    rw [Nat.zero_mul, List.drop_zero] at once
    exact once
  | true =>
    by_cases zero : b.unit = 0
    · simp only [Bool.not_true, Bool.false_eq_true, if_false, if_pos zero]
    · have inside : ∀ j < 0 + bytes.length / b.unit, j * b.unit ≤ bytes.length := by
        intro j lt
        rw [Nat.zero_add] at lt
        exact (Nat.mul_le_mul_right _ lt.le).trans (Nat.div_mul_le_self _ _)
      have instances := b.readInstances?_eq #[] 0 inside
      rw [Nat.zero_mul, List.drop_zero] at instances
      simp only [Bool.not_true, Bool.false_eq_true, if_false, if_neg zero, instances]
      rfl

lemma readInstances_consumed_le {available consumed : Nat} (le : consumed ≤ available)
    (acc : Array Reading) (count k : Nat) (bytes : List UInt8) :
    (b.readInstances available acc consumed count k bytes).consumed ≤ available := by
  induction count generalizing acc consumed k bytes with
  | zero => exact le
  | succ count ih =>
    unfold readInstances
    dsimp only
    split
    · exact Nat.min_le_right _ _
    · exact ih (Nat.min_le_right _ _) _ _ _

/-- A block consumes no more than it was given. -/
lemma consumed_le (bytes : List UInt8) : (b.read bytes).consumed ≤ bytes.length := by
  have instances (count : Nat) :=
    b.readInstances_consumed_le (Nat.zero_le bytes.length) #[] count 0 bytes
  unfold read
  dsimp only
  split
  · exact instances 1
  · split
    · exact Nat.zero_le _
    · exact instances _

/-- A block reports a field that does not fit, bytes behind the last instance, or that it has no
length. -/
lemma isSoft_of_read {bytes : List UInt8} {d : Diagnostic}
    (stopped : (b.read bytes).diagnostic = some d) :
    d.severity = .warning ∧ (d.kind = .truncation ∨ d.kind = .overrun) := by
  unfold read at stopped
  dsimp only at stopped
  split at stopped
  · obtain ⟨⟨needed, rfl⟩, -⟩ := b.truncated_of_readInstances stopped
    exact ⟨rfl, .inl rfl⟩
  · split at stopped
    · cases stopped
      exact ⟨rfl, .inl rfl⟩
    · rcases (Option.orElse_eq_some _ _ _).1 stopped with truncated | ⟨-, tail⟩
      · obtain ⟨⟨needed, rfl⟩, -⟩ := b.truncated_of_readInstances truncated
        exact ⟨rfl, .inl rfl⟩
      · obtain ⟨text, rfl⟩ := overrun_of_tailDiagnostic tail
        exact ⟨rfl, .inr rfl⟩

end Block

/-- The running cursor stays inside of what is looked at. -/
lemma readBlocks?_eq {payload : List UInt8} {limit cursor : Nat} (bs : List Block)
    (inside : cursor ≤ limit) (le : limit ≤ payload.length) :
    readBlocks? payload limit cursor bs =
        some (readBlocks bs ((payload.take limit).drop cursor)) ∧
      (readBlocks bs ((payload.take limit).drop cursor)).consumed ≤ limit - cursor := by
  induction bs generalizing cursor with
  | nil => exact ⟨rfl, Nat.zero_le _⟩
  | cons b bs ih =>
    set bytes := (payload.take limit).drop cursor with bytes_eq
    have slice : slice? payload cursor limit = some bytes := by
      rw [slice?_of_le inside le, bytes_eq, List.drop_take]
    have length : bytes.length = limit - cursor := by
      rw [bytes_eq, List.length_drop, List.length_take, Nat.min_eq_left le]
    have consumed := b.consumed_le bytes
    rw [length] at consumed
    unfold readBlocks? readBlocks
    rw [slice, Option.bind_eq_bind, Option.bind_some, b.read?_eq, Option.bind_eq_bind,
      Option.bind_some]
    dsimp only
    cases hd : (b.read bytes).diagnostic with
    | some d => exact ⟨rfl, consumed⟩
    | none =>
      obtain ⟨rest, bound⟩ := ih (by omega : cursor + (b.read bytes).consumed ≤ limit)
      have left : bytes.drop (b.read bytes).consumed =
          (payload.take limit).drop (cursor + (b.read bytes).consumed) := by
        rw [bytes_eq, List.drop_drop]
      rw [left] at *
      dsimp only
      rw [rest]
      exact ⟨rfl, by omega⟩

lemma isSoft_of_readBlocks {bs : List Block} {bytes : List UInt8} {stop : Diagnostic × Bool}
    (stopped : (readBlocks bs bytes).stop = some stop) :
    stop.1.severity = .warning ∧ (stop.1.kind = .truncation ∨ stop.1.kind = .overrun) := by
  induction bs generalizing bytes with
  | nil => cases stopped
  | cons b bs ih =>
    rw [readBlocks] at stopped
    dsimp only at stopped
    split at stopped
    · next d hd =>
      cases stopped
      exact b.isSoft_of_read hd
    · exact ih stopped

/-! ## Datasets -/

namespace Dataset

variable {e : Entry}

lemma ofPayload?_eq (laidOut : e.model.LaidOut) (declared : UInt16) (payload : List UInt8) :
    ofPayload? e declared payload = some (ofPayload e declared payload) ∧
      (ofPayload e declared payload).consumed ≤ min (wanted e.model declared) payload.length := by
  have limit : payload.take (min (wanted e.model declared) payload.length) =
      payload.take (wanted e.model declared) := List.take_eq_take_min.symm
  obtain ⟨read, bound⟩ := readBlocks?_eq e.model.blocks (Nat.zero_le _)
    (Nat.min_le_right (wanted e.model declared) payload.length)
  rw [List.drop_zero, limit] at read bound
  refine ⟨?_, bound⟩
  unfold ofPayload?
  rw [Model.checkLength?_of_le laidOut.baseLen_le_len, Option.bind_eq_bind, Option.bind_some]
  dsimp only
  rw [read]
  rfl

/-- The problem of the length stands apart from all others, which are of other kinds. -/
lemma diagnostics_ofPayload (e : Entry) (declared : UInt16) (payload : List UInt8) :
    ∃ others, (ofPayload e declared payload).diagnostics =
        ((e.model.checkLength e.id declared).map Diagnostic.ofFault).toList ++ others ∧
      ∀ x ∈ others, x.severity = .warning ∧ (x.kind = .truncation ∨ x.kind = .overrun) := by
  refine ⟨_, List.append_assoc _ _ _, fun x hx => ?_⟩
  rcases List.mem_append.1 hx with short | stopped
  · split at short
    · obtain rfl := List.mem_singleton.1 short
      exact ⟨rfl, .inr rfl⟩
    · cases short
  · obtain ⟨stop, hs, rfl⟩ := Option.map_eq_some_iff.1 (Option.mem_toList.1 stopped)
    exact isSoft_of_readBlocks hs

/-- The two reasons for which a buffer gives no dataset. -/
inductive Refuses (registry : Registry) (buffer : List UInt8) : Fault → Prop
  | short (lt : buffer.length < headerBytes) :
      Refuses registry buffer (.truncated headerBytes buffer.length)
  | unknown {id declared : UInt16} {payload : List UInt8}
      (header : buffer = Registers.toBytes [id, declared] ++ payload)
      (unregistered : registry.get? id = none) : Refuses registry buffer (.unknownModel id)

/-- A machine that checks does not stop at a buffer. -/
lemma decode?_eq {registry : Registry}
    (laidOut : ∀ id e, registry.get? id = some e → e.model.LaidOut) (buffer : List UInt8) :
    decode? registry buffer = some (decode registry buffer) := by
  unfold decode?
  by_cases short : buffer.length < headerBytes
  · rw [if_pos short, decode_of_short registry short]
  · obtain ⟨id, declared, payload, rfl⟩ := exists_header (Nat.not_lt.1 short)
    have header : slice? (Registers.toBytes [id, declared] ++ payload) 0 headerBytes =
        some (Registers.toBytes [id, declared]) :=
      slice?_of_le (Nat.zero_le _) (Nat.not_lt.1 short)
    have rest : slice? (Registers.toBytes [id, declared] ++ payload) headerBytes
        (Registers.toBytes [id, declared] ++ payload).length = some payload := by
      rw [slice?_of_le (Nat.not_lt.1 short) le_rfl]
      exact congrArg some (List.take_of_length_le (by simp [headerBytes, headerRegisters]))
    rw [if_neg short, header, Option.bind_eq_bind, Option.bind_some, Registers.ofBytes_toBytes]
    dsimp only
    cases held : registry.get? id with
    | none =>
      rw [decode_of_unknown held]
      rfl
    | some e =>
      obtain ⟨read, -⟩ := ofPayload?_eq (laidOut id e held) declared payload
      dsimp only
      rw [decode_header held, rest, Option.bind_eq_bind, Option.bind_some, read]
      rfl

lemma decode_eq_error_iff {registry : Registry} {buffer : List UInt8} {f : Fault} :
    decode registry buffer = .error f ↔ Refuses registry buffer f := by
  constructor
  · intro refused
    by_cases short : buffer.length < headerBytes
    · rw [decode_of_short registry short] at refused
      cases refused
      exact .short short
    · obtain ⟨id, declared, payload, rfl⟩ := exists_header (Nat.not_lt.1 short)
      cases held : registry.get? id with
      | none =>
        rw [decode_of_unknown held] at refused
        cases refused
        exact .unknown rfl held
      | some e =>
        rw [decode_header held] at refused
        cases refused
  · rintro (short | ⟨rfl, unregistered⟩)
    · exact decode_of_short registry short
    · exact decode_of_unknown unregistered _ _

/-- **Reading is total, and what it reports is soft.**  On a machine that stops at a slice outside
of its bytes, at a field that the codec refuses and at a negative difference of lengths, every
block, laid out or not, reads any bytes as it does elsewhere, and consumes no more than it was
given.  So does a registry read any buffer.  It refuses a buffer that is shorter than a header, and
one whose id has no model, and no other; what it reports of all others are warnings about the
length, a truncation or an overrun.  Of these exactly one is about the length, if the declared one
does not fit the model, and none otherwise. -/
theorem decode_total :
    (∀ (b : Block) (bytes : List UInt8),
      b.read? bytes = some (b.read bytes) ∧ (b.read bytes).consumed ≤ bytes.length) ∧
    ∀ (c : Catalogue) (registry : Registry), c.build = .ok registry → ∀ buffer : List UInt8,
      decode? registry buffer = some (decode registry buffer) ∧
      (∀ f, decode registry buffer = .error f ↔ Refuses registry buffer f) ∧
      ∀ d, decode registry buffer = .ok d → ∃ payload,
        buffer = Registers.toBytes [d.entry.id, d.declared] ++ payload ∧
        registry.get? d.entry.id = some d.entry ∧
        d.consumed ≤ min (wanted d.entry.model d.declared) payload.length ∧
        (∀ x ∈ d.diagnostics, x.severity = .warning ∧
          (x.kind = .lengthMismatch ∨ x.kind = .truncation ∨ x.kind = .overrun)) ∧
        d.diagnostics.filter (·.kind = .lengthMismatch) =
          ((d.entry.model.checkLength d.entry.id d.declared).map Diagnostic.ofFault).toList := by
  refine ⟨fun b bytes => ⟨b.read?_eq bytes, b.consumed_le bytes⟩, ?_⟩
  intro c registry built buffer
  have laidOut : ∀ id e, registry.get? id = some e → e.model.LaidOut :=
    fun id e held => Registry.laidOut_of_build built (Registry.mem_of_get? held).1
  refine ⟨decode?_eq laidOut buffer, fun f => decode_eq_error_iff, fun d decoded => ?_⟩
  obtain ⟨payload, header, held, eq⟩ := exists_of_decode decoded
  obtain ⟨-, bound⟩ := ofPayload?_eq (laidOut _ _ held) d.declared payload
  obtain ⟨others, diagnostics_eq, soft⟩ := diagnostics_ofPayload d.entry d.declared payload
  rw [← eq] at bound diagnostics_eq
  have mismatch : ∀ x ∈ ((d.entry.model.checkLength d.entry.id d.declared).map
      Diagnostic.ofFault).toList, x.severity = .warning ∧ x.kind = .lengthMismatch := by
    intro x hx
    obtain ⟨f, found, rfl⟩ := Option.map_eq_some_iff.1 (Option.mem_toList.1 hx)
    have kind := checkLength_kind found
    exact ⟨congrArg FaultKind.severity kind, kind⟩
  refine ⟨payload, header, held, bound, fun x hx => ?_, ?_⟩
  · rw [diagnostics_eq] at hx
    rcases List.mem_append.1 hx with hx | hx
    · exact (mismatch x hx).imp_right .inl
    · exact (soft x hx).imp_right .inr
  · have kept := List.filter_eq_self.2 fun x hx => decide_eq_true (mismatch x hx).2
    have dropped : others.filter (·.kind = .lengthMismatch) = [] := by
      rw [List.filter_eq_nil_iff]
      intro x hx
      rcases (soft x hx).2 with kind | kind <;> simp [kind]
    rw [diagnostics_eq, List.filter_append, kept, dropped, List.append_nil]

end Dataset

/-! ### The converter, through all of it

A header alone in which the length is wrong, an id that has no model, and half a header. -/

theorem Dataset.decode_total_converter :
    converterCatalogue.build = .ok converterRegistry ∧
      (∃ d, Dataset.decode? converterRegistry [0, 160, 0, 19] = some (.ok d) ∧
        d.diagnostics.filter (·.kind = .lengthMismatch) = [.ofFault
          (.lengthMismatch 160 19 "expected 8 plus a multiple of 5")] ∧
        d.diagnostics.map (·.kind) = [.lengthMismatch, .overrun, .truncation]) ∧
      Dataset.decode? converterRegistry [0, 161, 0, 19] = some (.error (.unknownModel 161)) ∧
      Dataset.decode? converterRegistry [0, 160] = some (.error (.truncated 4 2)) := by
  have built : converterCatalogue.build = .ok converterRegistry := rfl
  have held : converterRegistry.get? (Registers.ofPair 0 160) = some laidConverter := rfl
  have total := Dataset.decode_total.2 _ _ built
  have read := Dataset.decode_of_header held 0 19 []
  obtain ⟨safe, -, reported⟩ := total [0, 160, 0, 19]
  obtain ⟨-, -, -, -, -, once⟩ := reported _ read
  obtain ⟨safe', refused', -⟩ := total [0, 161, 0, 19]
  obtain ⟨safe'', refused'', -⟩ := total [0, 160]
  refine ⟨built, ⟨_, ?_, once.trans (by decide), by decide⟩, ?_, ?_⟩
  · rw [safe, read]
  · have header : [0, 161, 0, 19] = Registers.toBytes [161, 19] ++ [] := rfl
    rw [safe', (refused' _).2 (.unknown header rfl)]
  · rw [safe'', (refused'' _).2 (.short (by decide))]
    rfl

end SunSpec
