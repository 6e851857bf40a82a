import SunSpec.Proofs.WireImage

/-!
# Writing into a buffer

Values are written one behind another into a buffer of fixed capacity.  The room for a value is
asked for by the size that its encoding promises, and what is laid there are the bytes of its
payload: two accounts of one length, which nothing compares while it is written.  Too many bytes
would run over the end of the buffer, too few would leave the position short of the number that is
returned, and whether a value holds a payload at all is looked at last, when its room has been
found.

`Buffer.put` knows a refusal only by its fault, so that it cannot say what has become of the buffer.
`Buffer.write` is the same on a machine that lays bytes into it piece by piece (`Buffer.lay`), that
stops where the room for a piece is missing, and that goes on with the buffer as it is after a
refusal.  `Buffer.Step` is what one value does there: all or nothing (`Buffer.step_write`).
`Buffer.Run` has one step for each value of a row, and what it leaves behind follows by induction
over the row (`Buffer.Run.exists_images`).
-/

namespace SunSpec

lemma PointType.isEncodable_iff {t : PointType} :
    t.isEncodable = true ↔ t ∉ [.null, .undef, .int64, .uint64, .float64] := by
  cases t <;> decide

namespace Buffer

/-! ## Pieces -/

/-- Bytes at the position, which moves behind them; none if there is no room for all of them. -/
def lay (b : Buffer) (bs : List UInt8) : Option Buffer :=
  if bs.length ≤ b.rest.length then some ⟨b.written ++ bs, b.rest.drop bs.length⟩ else none

/-- What has been written is followed by these bytes, in place of as many old ones. -/
structure Laid (b : Buffer) (bs : List UInt8) (b' : Buffer) : Prop where
  room : bs.length ≤ b.rest.length
  written_eq : b'.written = b.written ++ bs
  rest_eq : b'.rest = b.rest.drop bs.length

variable {b b' b'' : Buffer} {bs cs : List UInt8}

lemma Laid.refl (b : Buffer) : Laid b [] b := ⟨Nat.zero_le _, by simp, by simp⟩

lemma Laid.trans (first : Laid b bs b') (second : Laid b' cs b'') : Laid b (bs ++ cs) b'' := by
  have room := first.room
  have room' := second.room
  rw [first.rest_eq, List.length_drop] at room'
  constructor
  · rw [List.length_append]
    omega
  · rw [second.written_eq, first.written_eq, List.append_assoc]
  · rw [second.rest_eq, first.rest_eq, List.drop_drop, List.length_append]

lemma Laid.length_contents (laid : Laid b bs b') : b'.contents.length = b.contents.length := by
  have room := laid.room
  simp only [contents, laid.written_eq, laid.rest_eq, List.length_append, List.length_drop]
  omega

lemma Laid.lay_eq (laid : Laid b bs b') : b.lay bs = some b' := by
  obtain ⟨written, rest⟩ := b'
  obtain ⟨room, rfl, rfl⟩ := laid
  exact if_pos room

/-! ## One value -/

/-- What is returned for a value that is written behind what has been written, and the buffer that
is left. -/
def write (b : Buffer) (v : Value) : Option (Except Fault Nat × Buffer) :=
  let size := v.encoding.size
  if !v.type.isEncodable then some (.error (.unsupportedType v.type), b)
  else if b.rest.length < size then some (.error (.insufficientSpace size b.rest.length), b)
  else match v.payload with
    | .none | .i64 _ | .u64 _ | .f64 _ => some (.error (.unsupportedType v.type), b)
    | .string bs => do
      let copied := min bs.length size
      let b ← b.lay (bs.take copied)
      let b ← b.lay (List.replicate (size - copied) 0)
      return (.ok size, b)
    | p => do return (.ok size, ← b.lay p.wire)

/-- A value that can be written, and the room that it takes. -/
structure Takes (b : Buffer) (v : Value) : Prop where
  defined : v.payload ≠ .none
  supported : v.type ∉ [.null, .undef, .int64, .uint64, .float64]
  room : v.encoding.size ≤ b.rest.length

/-- All of a value or nothing of it, with what is returned. -/
structure Step (b : Buffer) (v : Value) (outcome : Except Fault Nat) (b' : Buffer) : Prop where
  isOk_iff : outcome.isOk = true ↔ b.Takes v
  whole : ∀ n, outcome = .ok n → n = v.encoding.size ∧
    ∃ image, Codec.encode v = .ok image ∧ image.length = n ∧ Laid b image b'
  nothing : ∀ f, outcome = .error f → b' = b
  put_eq : b.put v = outcome.map fun _ => b'

variable {v : Value}

/-- What a value takes are the bytes of its payload, as many as its encoding promises. -/
lemma Takes.encodeWithin_eq (takes : b.Takes v) (wellFormed : v.WellFormed) {room : Nat}
    (enough : v.encoding.size ≤ room) : Codec.encodeWithin room v = .ok v.payload.wire := by
  cases wellFormed with
  | undefined e => exact absurd rfl takes.defined
  | @ofPayload e p fits =>
    have encodable := PointType.isEncodable_iff.2 takes.supported
    have written := Codec.encodeWithin_ofPayload encodable fits.1 enough
    rw [Value.encoding_ofPayload, fits.2] at written
    exact written

lemma takes_of_encodeWithin {image : List UInt8}
    (written : Codec.encodeWithin b.rest.length v = .ok image) : b.Takes v := by
  refine ⟨?_, PointType.isEncodable_iff.1 (Codec.isEncodable_of_encodeWithin written), ?_⟩
  · intro none
    unfold Codec.encodeWithin at written
    rw [none] at written
    split at written
    · cases written
    · split at written <;> cases written
  · by_contra short
    unfold Codec.encodeWithin at written
    rw [if_pos (not_le.1 short)] at written
    split at written <;> cases written

/-- The pieces of a value come to its image. -/
lemma write_of_encodeWithin (wellFormed : v.WellFormed) {image : List UInt8}
    (written : Codec.encodeWithin b.rest.length v = .ok image) (laid : Laid b image b') :
    b.write v = some (.ok v.encoding.size, b') := by
  obtain ⟨-, ⟨length, -⟩, rfl⟩ := Codec.encodeWithin_eq wellFormed written
  have takes := takes_of_encodeWithin written
  have lay := laid.lay_eq
  have supported : ¬ (!v.type.isEncodable) = true := by
    simp [PointType.isEncodable_iff.2 takes.supported]
  have room : ¬ b.rest.length < v.encoding.size := not_lt.2 takes.room
  unfold Codec.encodeWithin at written
  rw [if_neg supported, if_neg room] at written
  refine (if_neg supported).trans ((if_neg room).trans ?_)
  cases payload : v.payload with
  | none | i64 _ | u64 _ | f64 _ =>
    rw [payload] at written
    cases written
  | string bs =>
    rw [payload] at lay length
    -- a string has its full size already, so that nothing is left to fill up
    have copied : min bs.length v.encoding.size = bs.length := min_eq_left length.le
    have text : b.lay (bs.take (min bs.length v.encoding.size)) = some b' := by
      rw [copied, List.take_length]
      exact lay
    have fill : b'.lay (List.replicate (v.encoding.size - min bs.length v.encoding.size) 0) =
        some b' := by
      rw [copied, ← length]
      simpa [Payload.wire] using (Laid.refl b').lay_eq
    simp [text, fill]
  | _ =>
    rw [payload] at lay
    simp [lay]

lemma write_of_encodeWithin_error {f : Fault}
    (refused : Codec.encodeWithin b.rest.length v = .error f) :
    b.write v = some (.error f, b) := by
  unfold Codec.encodeWithin at refused
  unfold write
  split at refused
  · next unsupported =>
    cases refused
    exact if_pos unsupported
  · next supported =>
    refine (if_neg supported).trans ?_
    split at refused
    · next short =>
      cases refused
      exact if_pos short
    · next room =>
      refine (if_neg room).trans ?_
      cases payload : v.payload with
      | none | i64 _ | u64 _ | f64 _ =>
        rw [payload] at refused
        cases refused
        rfl
      | _ =>
        rw [payload] at refused
        cases refused

/-- **A value is written whole or not at all.** -/
lemma step_write (wellFormed : v.WellFormed) (b : Buffer) :
    ∃ outcome b', b.write v = some (outcome, b') ∧ b.Step v outcome b' := by
  cases written : Codec.encodeWithin b.rest.length v with
  | ok image =>
    have takes := takes_of_encodeWithin written
    obtain ⟨-, ⟨length, -⟩, rfl⟩ := Codec.encodeWithin_eq wellFormed written
    have laid : Laid b v.payload.wire
        ⟨b.written ++ v.payload.wire, b.rest.drop v.payload.wire.length⟩ :=
      ⟨length ▸ takes.room, rfl, rfl⟩
    refine ⟨_, _, write_of_encodeWithin wellFormed written laid, ?_⟩
    constructor
    · exact iff_of_true rfl takes
    · intro n returned
      cases returned
      exact ⟨rfl, v.payload.wire, takes.encodeWithin_eq wellFormed le_rfl, length, laid⟩
    · intro f returned
      cases returned
    · rw [put, written]
      rfl
  | error f =>
    refine ⟨_, _, write_of_encodeWithin_error written, ?_⟩
    constructor
    · refine iff_of_false Bool.false_ne_true fun takes => ?_
      rw [takes.encodeWithin_eq wellFormed takes.room] at written
      cases written
    · intro n returned
      cases returned
    · exact fun _ _ => rfl
    · rw [put, written]
      rfl

/-! ## A row of values -/

/-- What is returned for each value of a row, and the buffer that is left. -/
def writeAll (b : Buffer) : List Value → Option (List (Except Fault Nat) × Buffer)
  | [] => some ([], b)
  | v :: vs => do
    let (outcome, b') ← b.write v
    let (outcomes, last) ← b'.writeAll vs
    return (outcome :: outcomes, last)

/-- One step for each value, which begins where the one before it has ended. -/
inductive Run : Buffer → List Value → List (Except Fault Nat) → Buffer → Prop
  | nil {b : Buffer} : Run b [] [] b
  | cons {b b' last : Buffer} {v : Value} {vs : List Value} {outcome : Except Fault Nat}
      {outcomes : List (Except Fault Nat)} (step : b.Step v outcome b')
      (rest : Run b' vs outcomes last) : Run b (v :: vs) (outcome :: outcomes) last

/-- The values that were written. -/
def accepted (vs : List Value) (outcomes : List (Except Fault Nat)) : List Value :=
  ((vs.zip outcomes).filter fun r => r.2.isOk).map Prod.fst

lemma accepted_ok (v : Value) (vs : List Value) (n : Nat) (outcomes : List (Except Fault Nat)) :
    accepted (v :: vs) (.ok n :: outcomes) = v :: accepted vs outcomes := rfl

lemma accepted_error (v : Value) (vs : List Value) (f : Fault)
    (outcomes : List (Except Fault Nat)) :
    accepted (v :: vs) (.error f :: outcomes) = accepted vs outcomes := rfl

/-- A row of values never stops the machine. -/
lemma run_writeAll {vs : List Value} (wellFormed : ∀ v ∈ vs, v.WellFormed) (b : Buffer) :
    ∃ outcomes last, b.writeAll vs = some (outcomes, last) ∧ Run b vs outcomes last := by
  induction vs generalizing b with
  | nil => exact ⟨[], b, rfl, .nil⟩
  | cons v vs ih =>
    obtain ⟨first, others⟩ := List.forall_mem_cons.1 wellFormed
    obtain ⟨outcome, b', write, step⟩ := step_write first b
    obtain ⟨outcomes, last, writeAll_eq, rest⟩ := ih others b'
    exact ⟨_, _, by simp [writeAll, write, writeAll_eq], .cons step rest⟩

/-- The images of the values that were written stand one behind another. -/
lemma Run.exists_images {vs : List Value} {outcomes : List (Except Fault Nat)} {last : Buffer}
    (run : Run b vs outcomes last) : outcomes.length = vs.length ∧
      ∃ images, (accepted vs outcomes).mapM Codec.encode = .ok images ∧
        Laid b images.flatten last := by
  induction run with
  | @nil b => exact ⟨rfl, [], rfl, .refl b⟩
  | @cons b b' last v vs outcome outcomes step rest ih =>
    obtain ⟨length, images, encoded, laid⟩ := ih
    refine ⟨congrArg (· + 1) length, ?_⟩
    cases outcome with
    | ok n =>
      obtain ⟨-, image, encode, -, own⟩ := step.whole n rfl
      refine ⟨image :: images, ?_, own.trans laid⟩
      rw [accepted_ok, List.mapM_cons, encode, encoded]
      rfl
    | error f =>
      obtain rfl := step.nothing f rfl
      refine ⟨images, ?_, laid⟩
      rw [accepted_error, encoded]

/-- **Encoding is all or nothing.**  Values that were made in whatever way are written one behind
another into a buffer that holds any bytes.  The machine never stops, and each value has one
outcome.  A value is written if and only if it has a payload, is of a type that can be written and
finds room for its size; this size is then returned, and exactly its encoding, of as many bytes,
stands behind what was written before.  Otherwise a fault is returned and neither the buffer nor
the position has changed.  At the end the encodings of the values that were written stand at the
front, one behind another, and the bytes behind them are the old ones. -/
theorem writeAll_all_or_nothing {vs : List Value} (made : ∀ v ∈ vs, v.Made) (old : List UInt8) :
    ∃ outcomes last images,
      (ofContents old).writeAll vs = some (outcomes, last) ∧
      Run (ofContents old) vs outcomes last ∧ outcomes.length = vs.length ∧
      (accepted vs outcomes).mapM Codec.encode = .ok images ∧
      last.written = images.flatten ∧
      last.rest = old.drop last.written.length ∧
      last.contents.length = old.length := by
  have wellFormed : ∀ v ∈ vs, v.WellFormed := fun v h => Value.wellFormed_of_made (made v h)
  obtain ⟨outcomes, last, returned, run⟩ := run_writeAll wellFormed (ofContents old)
  obtain ⟨length, images, encoded, laid⟩ := run.exists_images
  have front : last.written = images.flatten := laid.written_eq
  refine ⟨outcomes, last, images, returned, run, length, encoded, front, ?_, ?_⟩
  · rw [front]
    exact laid.rest_eq
  · exact laid.length_contents

/-- Five bytes of room for a number, a place holder, a sentinel, a number that is too long for what
is left, and a string that is not. -/
theorem writeAll_all_or_nothing_short :
    let vs := [Value.ofInt16 7, .undefined (.string 1), .sentinel (.plain .uint16), .ofUInt32 7,
      .ofBytes [0x41] 1]
    let outcomes := [.ok 2, .error (.unsupportedType .string), .ok 2,
      .error (.insufficientSpace 4 1), .ok 1]
    (∀ v ∈ vs, v.Made) ∧
    ∃ last, (ofContents [1, 2, 3, 4, 5]).writeAll vs = some (outcomes, last) ∧
      Run (ofContents [1, 2, 3, 4, 5]) vs outcomes last ∧
      last.contents = [0, 7, 0xFF, 0xFF, 0x41] := by
  intro vs outcomes
  have made : ∀ v ∈ vs, v.Made := by
    simp only [vs, List.forall_mem_cons]
    refine ⟨.ofInt16 7, .undefined _, Value.made_sentinel _, .ofUInt32 7, .ofBytes [0x41] 1, ?_⟩
    exact fun v none => absurd none List.not_mem_nil
  have returned : (ofContents [1, 2, 3, 4, 5]).writeAll vs =
      some (outcomes, ⟨[0, 7, 0xFF, 0xFF, 0x41], []⟩) := by
    decide
  obtain ⟨_, _, _, returned', run, -⟩ := writeAll_all_or_nothing made [1, 2, 3, 4, 5]
  rw [returned] at returned'
  cases returned'
  exact ⟨made, _, returned, run, rfl⟩

end Buffer

end SunSpec
