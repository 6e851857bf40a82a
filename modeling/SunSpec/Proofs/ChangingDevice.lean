import SunSpec.Proofs.ChainWalk

/-!
# Devices that change while they are scanned

A scanner reads a header twice, once alone and once in front of its payload.  The first copy says
whether the model is registered and how far the next header is; the second one is what
`Dataset.decode` reads.  On a device that changes in between the two copies may differ.

`Scanner.Trail` is the record that a walk leaves on such a device, with one constructor for each
way in which it goes on or ends, and `Scanner.walk_trail` says that every walk leaves one.  What
follows from it for a whole scan is said at the end: all faults that end it are of the link or of
the chain but one, an id that was registered in the first copy and is not in the second; and a
dataset shows the second copy.  Where the copies of a header agree, no soft fault ends a scan and
every dataset belongs to the header that the walk went by.
-/

namespace SunSpec

variable {σ α β : Type}

/-! ## Hard faults -/

/-- A fault of one of the two kinds that may end a scan. -/
def Fault.IsHard (f : Fault) : Prop := f.kind = .io ∨ f.kind = .protocol

/-- A device whose own faults are hard, whatever else it answers. -/
def Device.FailsHard (d : Device σ) : Prop :=
  ∀ r, Ensures (d r).run fun answer => ∀ f, answer = .error f → f.IsHard

/-- The result of a read of `count` registers. -/
def Answers (count : Nat) : Except Fault (List UInt16) → Prop
  | .ok regs => regs.length = count
  | .error f => f.IsHard

lemma Part.isHard_of_request {p : Part} {f : Fault} (h : p.request = .error f) : f.IsHard := by
  obtain ⟨r, rfl, -⟩ := Part.request_error h
  exact .inr rfl

namespace Device.FailsHard

variable {d : Device σ}

lemma readParts (hard : d.FailsHard) {register total : Nat} {ps : List Part}
    (parts : Part.Contiguous register total ps) (acc : Array UInt16) :
    Ensures (d.readParts acc ps).run (Answers (acc.size + total)) := by
  induction parts generalizing acc with
  | nil register => exact Ensures.pure Array.length_toList
  | @cons register count rest ps _ _ _ ih =>
    unfold Device.readParts
    refine Ensures.bind_either (P := (Part.request ⟨register, count⟩ = ·)) (Ensures.pure rfl)
      (fun r _ => ?_) fun f refused => Part.isHard_of_request refused
    refine Ensures.bind_either (hard r) (fun got _ => ?_) fun f refused => refused f rfl
    -- an answer of another length is a fault of the link, and goes no further
    by_cases short : got.length ≠ count
    · rw [if_pos short]
      exact Ensures.pure (P := Answers _) (.inl rfl)
    · rw [if_neg short]
      have grown : (acc ++ got).size = acc.size + count := by
        rw [← not_not.1 short, ← Array.length_toList, Array.toList_appendList, List.length_append,
          Array.length_toList]
      rw [← Nat.add_assoc, ← grown]
      exact ih _

lemma read (hard : d.FailsHard) (limit : ReadLimit) (register count : Nat) :
    Ensures (d.read limit register count).run (Answers count) := by
  have read := hard.readParts (Part.split_contiguous limit register count) #[]
  rw [List.size_toArray, List.length_nil, Nat.zero_add] at read
  exact read

lemma readHeader (hard : d.FailsHard) (s : Scanner) (register : Nat) :
    Ensures (s.readHeader d register).run fun r => ∀ f, r = .error f → f.IsHard := by
  unfold Scanner.readHeader
  refine Ensures.bind_either (hard.read s.limit register headerRegisters) (fun regs length => ?_) ?_
  · obtain ⟨id, size, rfl⟩ := List.length_eq_two.1 length
    exact Ensures.pure nofun
  · rintro e isHard f ⟨⟩
    exact isHard

end Device.FailsHard

/-! ## Two copies of a header -/

lemma Header.exists_again (h : Header) {regs : List UInt16} (length : regs.length = h.total) :
    ∃ again payload, regs = Header.id again :: again.length :: payload := by
  rw [total, headerRegisters] at length
  cases regs with
  | nil =>
    rw [List.length_nil] at length
    omega
  | cons id rest =>
    cases rest with
    | nil =>
      rw [List.length_singleton] at length
      omega
    | cons size payload => exact ⟨⟨id, size⟩, payload, rfl⟩

/-- A dataset is read under the header that stands in front of its own bytes. -/
lemma Dataset.decode_reread (registry : Registry) (again : Header) (payload : List UInt16) :
    (registry.contains again.id = false ∧
      decode registry (Registers.toBytes (again.id :: again.length :: payload)) =
        .error (.unknownModel again.id)) ∨
    ∃ ds, decode registry (Registers.toBytes (again.id :: again.length :: payload)) = .ok ds ∧
      ds.entry.id = again.id ∧ ds.declared = again.length := by
  have bytes : Registers.toBytes (again.id :: again.length :: payload) =
      Registers.toBytes [again.id, again.length] ++ Registers.toBytes payload := by simp
  rw [bytes]
  cases held : registry.get? again.id with
  | some e =>
    exact .inr ⟨_, decode_header held again.length _, (Registry.mem_of_get? held).2, rfl⟩
  | none =>
    exact .inl ⟨by rw [Registry.contains, held]; rfl, decode_of_unknown held _ _⟩

/-- A run goes on where its first action has left it. -/
lemma run_bind_of_run {x : StateM σ α} {f : α → StateM σ β} {before between : σ} {a : α}
    (first : x.run before = (a, between)) : (x >>= f).run before = (f a).run between := by
  rw [StateT.run_bind, first]
  rfl

/-- From one state an action comes to a result, and leaves the device in another. -/
def OnDevice.Gives (x : OnDevice σ α) (before : σ) (r : Except Fault α) (after : σ) : Prop :=
  x.run.run before = (r, after)

namespace OnDevice.Gives

variable {x : OnDevice σ α} {f : α → OnDevice σ β} {before between after : σ}

lemma of_ensures {P : Except Fault α → Prop} (h : Ensures x.run P) (before : σ) :
    ∃ r after, x.Gives before r after ∧ P r := ⟨_, _, rfl, h before⟩

lemma bind_ok {a : α} {r : Except Fault β} (first : x.Gives before (.ok a) between)
    (second : (f a).Gives between r after) : (x >>= f).Gives before r after := by
  unfold Gives at *
  rw [ExceptT.run_bind, run_bind_of_run first]
  exact second

lemma bind_error {e : Fault} (first : x.Gives before (.error e) after) :
    (x >>= f).Gives before (.error e) after := by
  unfold Gives at *
  rw [ExceptT.run_bind, run_bind_of_run first]
  rfl

end OnDevice.Gives

namespace Scanner

variable {d : Device σ} {s : Scanner} {register : Nat} {h : Header}

/-- In some state the device gives a header at a register, and the whole instance, asked for right
after, begins with another one or the same. -/
def Rereads (s : Scanner) (d : Device σ) (register : Nat) (h again : Header) : Prop :=
  ∃ state between after payload, (s.readHeader d register).Gives state (.ok h) between ∧
    (d.read s.limit register h.total).Gives between
      (.ok (again.id :: again.length :: payload)) after

/-- Where answers follow a register map, the two copies of a header are one. -/
lemma Rereads.eq_of_answersBy {m : RegisterMap} (answers : d.AnswersBy m) {again : Header}
    (rereads : s.Rereads d register h again) : again = h := by
  obtain ⟨state, between, after, payload, header, whole⟩ := rereads
  by_cases headed : m.Mapped register 2
  · obtain ⟨regs, size, holds⟩ := headed
    obtain ⟨id, length, rfl⟩ := List.length_eq_two.1 size
    have first := s.readHeader_ok answers holds state
    rw [header] at first
    cases first
    by_cases mapped : m.Mapped register (Header.total ⟨id, length⟩)
    · obtain ⟨regs, size, holds'⟩ := mapped
      have second := answers.read_ok s.limit holds' between
      rw [size, whole] at second
      cases second
      have same := holds'.header.unique holds rfl
      simp only [List.cons.injEq, and_true] at same
      obtain ⟨rfl, rfl⟩ := same
      rfl
    · obtain ⟨f, -, refused⟩ := answers.read_refused s.limit mapped between
      rw [whole] at refused
      cases refused
  · obtain ⟨f, -, refused⟩ := s.readHeader_refused answers headed state
    rw [header] at refused
    cases refused

/-- What comes of an instance behind its header. -/
inductive Yields (s : Scanner) (d : Device σ) (register : Nat) (h : Header) :
    Except Fault Event → Prop
  /-- It could not be read. -/
  | refused {f : Fault} (hard : f.IsHard) : Yields s d register h (.error f)
  /-- Its id was registered and is not any more. -/
  | relabelled {again : Header} (known : s.registry.contains h.id = true)
      (rereads : s.Rereads d register h again)
      (lost : s.registry.contains again.id = false) :
      Yields s d register h (.error (.unknownModel again.id))
  /-- Its id is registered, and was. -/
  | model {again : Header} {ds : Dataset} (known : s.registry.contains h.id = true)
      (rereads : s.Rereads d register h again) (id : ds.entry.id = again.id)
      (declared : ds.declared = again.length) : Yields s d register h (.ok (.model register ds))
  /-- Its id was not registered. -/
  | unknown {bytes : List UInt8} (unknown : s.registry.contains h.id = false) :
      Yields s d register h (.ok (.unknown register h.id h.length bytes))

lemma yields_of_header (hard : d.FailsHard) {state between : σ}
    (header : (s.readHeader d register).Gives state (.ok h) between) :
    ∃ r after, (s.readInstance d register h).Gives between r after ∧ s.Yields d register h r := by
  unfold readInstance
  by_cases long : 65536 ≤ h.total
  · rw [if_pos long]
    exact ⟨_, _, OnDevice.Gives.bind_error rfl,
      .refused (f := .modelTooLong h.id register h.length) (.inr rfl)⟩
  · rw [if_neg long]
    obtain ⟨answer, after, read, length⟩ :=
      OnDevice.Gives.of_ensures (hard.read s.limit register h.total) between
    cases answer with
    | error f => exact ⟨_, _, read.bind_error, .refused length⟩
    | ok regs =>
      obtain ⟨again, payload, rfl⟩ := h.exists_again length
      have rereads : s.Rereads d register h again := ⟨_, _, _, payload, header, read⟩
      -- the first copy says whether the bytes are decoded, the second one how
      cases known : s.registry.contains h.id with
      | false =>
        refine ⟨.ok (.unknown register h.id h.length
          (Registers.toBytes (again.id :: again.length :: payload))), after, read.bind_ok ?_,
          .unknown known⟩
        rw [if_neg Bool.false_ne_true]
        rfl
      | true =>
        rcases Dataset.decode_reread s.registry again payload with
          ⟨lost, decoded⟩ | ⟨ds, decoded, id, declared⟩
        · refine ⟨_, after, read.bind_ok ?_, .relabelled known rereads lost⟩
          rw [if_pos rfl, decoded]
          rfl
        · refine ⟨_, after, read.bind_ok ?_, .model known rereads id declared⟩
          rw [if_pos rfl, decoded]
          rfl

/-! ## Walks -/

/-- The visits of a walk from a register on, and the fault that ended it. -/
inductive Trail (s : Scanner) (d : Device σ) : Nat → List Visit → Option Fault → Prop
  /-- It ends at a header, or for want of one. -/
  | ended {register : Nat} {header : Option Header} {fault : Option Fault}
      (hard : ∀ f, fault = some f → f.IsHard) : Trail s d register [⟨register, header, none⟩] fault
  /-- It ends behind a header. -/
  | stopped {register : Nat} {h : Header} {f : Fault} (yields : s.Yields d register h (.error f)) :
      Trail s d register [⟨register, some h, none⟩] (some f)
  /-- It goes on behind an instance, by the length in its first header. -/
  | step {register : Nat} {h : Header} {event : Event} {rest : List Visit} {fault : Option Fault}
      (yields : s.Yields d register h (.ok event))
      (tail : Trail s d (register + h.total) rest fault) :
      Trail s d register (⟨register, some h, some event⟩ :: rest) fault

/-- What a walk adds to the visits that were made before it. -/
def LeavesTrail (s : Scanner) (d : Device σ) (register : Nat) (acc : Array Visit) (w : Walk) :
    Prop :=
  ∃ visits, w.visits = acc.toList ++ visits ∧ s.Trail d register visits w.fault

lemma LeavesTrail.of_last {acc : Array Visit} {v : Visit} {fault : Option Fault}
    (trail : s.Trail d register [v] fault) :
    s.LeavesTrail d register acc ⟨(acc.push v).toList, fault⟩ := ⟨[v], Array.toList_push, trail⟩

/-- What a walk makes of a header. -/
lemma walk_of_header (inside : register ≤ lastRegister) {state between : σ}
    (header : (s.readHeader d register).Gives state (.ok h) between) (acc : Array Visit) :
    (s.walk d acc register).run state =
      if h.id = endMarker then (⟨(acc.push ⟨register, some h, none⟩).toList, none⟩, between)
      else if h.id = 0 then
        (⟨(acc.push ⟨register, some h, none⟩).toList, some (.missingEndMarker register)⟩, between)
      else match (s.readInstance d register h).run.run between with
        | (.error f, after) => (⟨(acc.push ⟨register, some h, none⟩).toList, some f⟩, after)
        | (.ok event, after) =>
          (s.walk d (acc.push ⟨register, some h, some event⟩) (register + h.total)).run after := by
  rw [walk, if_neg (not_lt.2 inside), run_bind_of_run header]
  dsimp only
  split
  · rfl
  · split
    · rfl
    · cases found : (s.readInstance d register h).run.run between with
      | mk result after =>
        rw [run_bind_of_run found]
        cases result <;> rfl

/-- Where the signature is found, the chain is walked behind it. -/
lemma scan_of_search {base : UInt16} {probes : List Probe} {state between : σ}
    (found : (s.search d).run state = (⟨probes, .ok base⟩, between)) :
    ((s.scan d).run state).1.walk =
      ((s.walk d #[] (base.toNat + signature.length)).run between).1 := by
  unfold scan
  rw [run_bind_of_run found]
  rfl

/-- Behind an instance fewer registers are left. -/
lemma left_lt (inside : register ≤ lastRegister) (h : Header) :
    lastRegister + 1 - (register + h.total) < lastRegister + 1 - register := by
  rw [Header.total, headerRegisters]
  omega

/-- Every walk leaves a trail, whatever the device does. -/
theorem walk_trail (s : Scanner) (hard : d.FailsHard) (register : Nat) (acc : Array Visit) :
    Ensures (s.walk d acc register) (s.LeavesTrail d register acc) := by
  intro state
  -- each header takes the walk on, and behind the last register there is none
  induction distance : lastRegister + 1 - register using Nat.strongRecOn
      generalizing register acc state with
  | _ left ih =>
    by_cases past : lastRegister < register
    · rw [walk, if_pos past]
      exact .of_last (.ended fun f eq => by cases eq; exact .inr rfl)
    obtain ⟨answer, between, header, refused⟩ :=
      OnDevice.Gives.of_ensures (hard.readHeader s register) state
    cases answer with
    | error f =>
      rw [walk, if_neg past, run_bind_of_run header]
      exact .of_last (.ended fun g eq => by cases eq; exact refused f rfl)
    | ok h =>
      rw [walk_of_header (not_lt.1 past) header]
      by_cases marker : h.id = endMarker
      · rw [if_pos marker]
        exact .of_last (.ended fun f eq => by cases eq)
      by_cases zero : h.id = 0
      · rw [if_neg marker, if_pos zero]
        exact .of_last (.ended fun f eq => by cases eq; exact .inr rfl)
      obtain ⟨result, after, found, yields⟩ := s.yields_of_header hard header
      rw [if_neg marker, if_neg zero, found]
      cases result with
      | error f => exact .of_last (.stopped yields)
      | ok event =>
        have shorter := distance ▸ left_lt (not_lt.1 past) h
        obtain ⟨visits, eq, trail⟩ := ih _ shorter (register + h.total)
          (acc.push ⟨register, some h, some event⟩) after rfl
        refine ⟨⟨register, some h, some event⟩ :: visits, ?_, .step yields trail⟩
        rw [eq, Array.toList_push, List.append_assoc, List.singleton_append]

/-! ## What a trail shows -/

namespace Trail

variable {visits : List Visit} {fault : Option Fault}

/-- A trail begins at its register. -/
lemma exists_cons (trail : s.Trail d register visits fault) :
    ∃ v rest, visits = v :: rest ∧ v.register = register := by
  cases trail <;> exact ⟨_, _, rfl, rfl⟩

/-- A fault that ends a walk is hard, or the id of the last instance changed to one that is not
registered. -/
lemma fault_cases (trail : s.Trail d register visits fault) {f : Fault} (stopped : fault = some f) :
    f.IsHard ∨ ∃ v h again, visits.getLast? = some v ∧ v.header = some h ∧
      s.registry.contains h.id = true ∧ s.Rereads d v.register h again ∧
      s.registry.contains again.id = false ∧ f = .unknownModel again.id := by
  induction trail with
  | ended hard => exact .inl (hard f stopped)
  | stopped yields =>
    cases stopped
    cases yields with
    | refused hard => exact .inl hard
    | relabelled known rereads lost =>
      exact .inr ⟨_, _, _, rfl, rfl, known, rereads, lost, rfl⟩
  | step _ tail ih =>
    rcases ih stopped with hard | ⟨v, h, again, last, changed⟩
    · exact .inl hard
    · refine .inr ⟨v, h, again, ?_, changed⟩
      rw [List.getLast?_cons, last]
      rfl

/-- A dataset shows the header that stands in front of it in the second copy. -/
lemma of_model (trail : s.Trail d register visits fault) {v : Visit} (hv : v ∈ visits) {r : Nat}
    {ds : Dataset} (found : v.event = some (.model r ds)) : r = v.register ∧
      ∃ h again, v.header = some h ∧ s.registry.contains h.id = true ∧
        s.Rereads d v.register h again ∧ ds.entry.id = again.id ∧ ds.declared = again.length := by
  induction trail with
  | ended _ =>
    obtain rfl := List.mem_singleton.1 hv
    cases found
  | stopped _ =>
    obtain rfl := List.mem_singleton.1 hv
    cases found
  | step yields _ ih =>
    rcases List.mem_cons.1 hv with rfl | hv
    · cases found
      cases yields with
      | model known rereads id declared =>
        exact ⟨rfl, _, _, rfl, known, rereads, id, declared⟩
    · exact ih hv

/-- Each header stands behind the instance before it, by the length in the first copy of its own
header. -/
lemma isChain (trail : s.Trail d register visits fault) :
    visits.IsChain fun v w => ∃ h, v.header = some h ∧ w.register = v.register + h.total := by
  induction trail with
  | ended _ => exact .singleton _
  | stopped _ => exact .singleton _
  | step _ tail ih =>
    obtain ⟨w, rest, rfl, start⟩ := tail.exists_cons
    exact .cons_cons ⟨_, rfl, start⟩ ih

end Trail

/-! ## Scans -/

/-- A search fails for want of a signature. -/
lemma search_hard (s : Scanner) (d : Device σ) :
    Ensures (s.search d) fun found => ∀ f, found.result = .error f → f.IsHard := by
  have probed : ∀ cs, Ensures (s.probe d cs) fun found =>
      ∀ f, found.result = .error f → f.IsHard := by
    intro cs
    induction cs with
    | nil => exact Ensures.pure fun f eq => by cases eq; exact .inr rfl
    | cons c cs ih =>
      unfold probe
      refine Ensures.bind (P := fun _ => True) (fun _ => trivial) fun answer _ => ?_
      dsimp only
      split
      · exact Ensures.pure fun f eq => by cases eq
      · exact Ensures.bind ih fun rest hard => Ensures.pure hard
  exact probed s.candidates

/-- A scan leaves a trail behind the signature, if it finds one. -/
lemma scan_trail (s : Scanner) (hard : d.FailsHard) : Ensures (s.scan d) fun found =>
    (∀ f, found.outcome = .error f → found.walk.fault = some f) ∧
      (found.walk.visits = [] ∧ (∀ f, found.walk.fault = some f → f.IsHard) ∨
        ∃ register, s.Trail d register found.walk.visits found.walk.fault) := by
  unfold scan
  refine Ensures.bind (s.search_hard d) fun search unsigned => ?_
  cases hr : search.result with
  | error f =>
    refine Ensures.pure ⟨fun g eq => ?_, .inl ⟨rfl, fun g eq => ?_⟩⟩
    · cases eq
      rfl
    · cases eq
      exact unsigned f hr
  | ok base =>
    refine Ensures.bind (s.walk_trail hard _ _) fun walk left => ?_
    obtain ⟨visits, eq, trail⟩ := left
    refine Ensures.pure ⟨fun f stopped => ?_, .inr ⟨_, by rw [eq]; exact trail⟩⟩
    unfold Scan.outcome at stopped
    cases hf : walk.fault with
    | some g =>
      simp only [hf] at stopped
      cases stopped
      rfl
    | none =>
      simp only [hf, hr] at stopped
      cases stopped

/-- **Only a changed id lets a soft fault end a scan.**  Whatever a device answers, as long as its
own faults are hard: a fault that ends a scan is hard, or says that the id of the last instance,
registered when its header was read, was not registered when the whole instance was; a dataset has
the id and the length of the second copy of its header; and the walk goes by the first copy.  If no
header changes between its two copies, all faults are hard and every dataset belongs to the header
that the walk went by. -/
theorem scan_changing (s : Scanner) (hard : d.FailsHard) (state : σ) :
    let found := ((s.scan d).run state).1
    (∀ f, found.outcome = .error f → f.IsHard ∨
      ∃ v h again, found.walk.visits.getLast? = some v ∧ v.header = some h ∧
        s.registry.contains h.id = true ∧ s.Rereads d v.register h again ∧
        s.registry.contains again.id = false ∧ f = .unknownModel again.id) ∧
    (∀ v ∈ found.walk.visits, ∀ r ds, v.event = some (.model r ds) → r = v.register ∧
      ∃ h again, v.header = some h ∧ s.registry.contains h.id = true ∧
        s.Rereads d v.register h again ∧ ds.entry.id = again.id ∧ ds.declared = again.length) ∧
    (found.walk.visits.IsChain fun v w =>
      ∃ h, v.header = some h ∧ w.register = v.register + h.total) ∧
    ((∀ v ∈ found.walk.visits, ∀ h again, v.header = some h →
        s.Rereads d v.register h again → again = h) →
      (∀ f, found.outcome = .error f → f.IsHard) ∧
      ∀ v ∈ found.walk.visits, ∀ r ds, v.event = some (.model r ds) →
        v.header = some ⟨ds.entry.id, ds.declared⟩) := by
  intro found
  obtain ⟨outcome, left⟩ := s.scan_trail hard state
  have faults : ∀ f, found.outcome = .error f → f.IsHard ∨
      ∃ v h again, found.walk.visits.getLast? = some v ∧ v.header = some h ∧
        s.registry.contains h.id = true ∧ s.Rereads d v.register h again ∧
        s.registry.contains again.id = false ∧ f = .unknownModel again.id := by
    intro f stopped
    rcases left with ⟨-, hard⟩ | ⟨register, trail⟩
    · exact .inl (hard f (outcome f stopped))
    · exact trail.fault_cases (outcome f stopped)
  have models : ∀ v ∈ found.walk.visits, ∀ r ds, v.event = some (.model r ds) → r = v.register ∧
      ∃ h again, v.header = some h ∧ s.registry.contains h.id = true ∧
        s.Rereads d v.register h again ∧ ds.entry.id = again.id ∧ ds.declared = again.length := by
    intro v hv r ds event
    rcases left with ⟨none, -⟩ | ⟨register, trail⟩
    · have hv : v ∈ ((s.scan d).run state).1.walk.visits := hv
      rw [none] at hv
      cases hv
    · exact trail.of_model hv event
  refine ⟨faults, models, ?_, fun steady => ⟨fun f stopped => ?_, fun v hv r ds event => ?_⟩⟩
  · rcases left with ⟨none, -⟩ | ⟨register, trail⟩
    · show List.IsChain _ ((s.scan d).run state).1.walk.visits
      rw [none]
      exact .nil
    · exact trail.isChain
  · rcases faults f stopped with hard | ⟨v, h, again, last, header, known, rereads, lost, -⟩
    · exact hard
    · obtain rfl := steady v (List.mem_of_getLast? last) h again header rereads
      rw [known] at lost
      cases lost
  · obtain ⟨-, h, again, header, -, rereads, id, declared⟩ := models v hv r ds event
    obtain rfl := steady v hv h again header rereads
    rw [header, id, declared]

end Scanner

/-! ### A device that is relabelled

A converter without inputs whose header changes between its two copies. -/

lemma RegisterTable.isHard_of_read {t : RegisterTable} {address count : UInt16} {f : Fault}
    (refused : t.read address count = .error f) : f.IsHard := by
  unfold RegisterTable.read at refused
  dsimp only at refused
  split at refused
  · cases refused
    exact .inr rfl
  · cases refused

/-- The device that answers `n` requests by one table and all others by another. -/
def Device.swapping (before after : RegisterTable) (n : Nat) : Device Nat := fun r =>
  ExceptT.mk fun asked =>
    ((if asked < n then before else after).read r.address r.count, asked + 1)

lemma Device.failsHard_swapping (before after : RegisterTable) (n : Nat) :
    (swapping before after n).FailsHard := fun _ _ _ refused => RegisterTable.isHard_of_read refused

lemma Device.failsHard_ofTable (t : RegisterTable) : (ofTable t).FailsHard :=
  fun _ _ _ refused => RegisterTable.isHard_of_read refused

/-- The converter under an id and with a length. -/
def labelledTable (id length : UInt16) : RegisterTable where
  base := 1
  image := #[0x5375, 0x6E53, id, length, 0xFFFE, 0x4142, 0x4344, 0x4500, 0, 0, 0x8000, 1, 0xFFFF,
    0]
  one_le_base := by decide
  fits := by
    show 1 + 14 ≤ lastRegister + 1
    decide

/-- The converter, which has another label from the third request on. -/
def relabelled (id length : UInt16) : Device Nat :=
  .swapping (labelledTable 160 8) (labelledTable id length) 2

/-- A scanner that knows the converter. -/
def converterScanner : Scanner := .ofRegistry converterRegistry

/-- The first header is read before the label changes. -/
lemma header_relabelled (id length : UInt16) :
    (converterScanner.readHeader (relabelled id length) 3).Gives 1 (.ok ⟨160, 8⟩) 2 := rfl

/-- The signature is found, and the chain is walked behind it. -/
lemma walk_relabelled (id length : UInt16) :
    ((converterScanner.scan (relabelled id length)).run 0).1.walk =
      ((converterScanner.walk (relabelled id length) #[] 3).run 1).1 := by
  have search : (converterScanner.search (relabelled id length)).run 0 =
      (⟨[⟨1, .ok signature⟩], .ok 1⟩, 1) := rfl
  exact Scanner.scan_of_search search

lemma outcome_relabelled :
    ((converterScanner.scan (relabelled 161 8)).run 0).1.outcome = .error (.unknownModel 161) := by
  rw [Scan.outcome, walk_relabelled,
    Scanner.walk_of_header (by decide) (header_relabelled 161 8)]
  rfl

/-- A scan that ends because an id is not registered, and a dataset of a length that its header did
not have when the scanner went by it. -/
theorem Scanner.scan_relabelled :
    let renamed := ((converterScanner.scan (relabelled 161 8)).run 0).1
    let resized := ((converterScanner.scan (relabelled 160 13)).run 0).1
    (∀ id length, (relabelled id length).FailsHard) ∧
      renamed.outcome = .error (.unknownModel 161) ∧ ¬ (Fault.unknownModel 161).IsHard ∧
      ∃ v ds, v ∈ resized.walk.visits ∧ v.header = some ⟨160, 8⟩ ∧
        v.event = some (.model 3 ds) ∧ ds.declared = 13 := by
  intro renamed resized
  refine ⟨fun id length => Device.failsHard_swapping _ _ _, outcome_relabelled, ?_, ?_⟩
  · simp [Fault.IsHard, Fault.kind]
  · obtain ⟨ds, found, declared⟩ : ∃ ds : Dataset,
        (converterScanner.readInstance (relabelled 160 13) 3 ⟨160, 8⟩).Gives 2
          (.ok (.model 3 ds)) 3 ∧ ds.declared = 13 := ⟨_, rfl, rfl⟩
    unfold OnDevice.Gives at found
    obtain ⟨visits, eq, -⟩ := converterScanner.walk_trail (d := relabelled 160 13)
      (Device.failsHard_swapping _ _ _) 13 (#[].push ⟨3, some ⟨160, 8⟩, some (.model 3 ds)⟩) 3
    simp only [resized, walk_relabelled]
    rw [walk_of_header (by decide) (header_relabelled 160 13), if_neg (by decide),
      if_neg (by decide), found]
    refine ⟨⟨3, some ⟨160, 8⟩, some (.model 3 ds)⟩, ds, ?_, rfl, rfl, declared⟩
    show _ ∈ ((converterScanner.walk (relabelled 160 13) _ 13).run 3).1.visits
    rw [eq]
    exact List.mem_cons_self

/-- The relabelled converter, and a device that does not change and has no end to its chain. -/
theorem Scanner.scan_changing_relabelled :
    let changing := ((converterScanner.scan (relabelled 161 8)).run 0).1
    let still := ((narrowScanner.scan (Device.ofTable endlessTable)).run ()).1
    (relabelled 161 8).FailsHard ∧ (Device.ofTable endlessTable).FailsHard ∧
      (∃ v h again, changing.walk.visits.getLast? = some v ∧ v.header = some h ∧
        converterScanner.Rereads (relabelled 161 8) v.register h again ∧ again.id = 161 ∧
        h.id ≠ 161) ∧
      ∀ f, still.outcome = .error f → f.IsHard := by
  have hard : (relabelled 161 8).FailsHard := Device.failsHard_swapping _ _ _
  have hard' : (Device.ofTable endlessTable).FailsHard := Device.failsHard_ofTable _
  have answers := endlessTable.answersBy_map
  obtain ⟨faults, -⟩ := Scanner.scan_changing converterScanner hard 0
  obtain ⟨-, -, -, steady⟩ := Scanner.scan_changing narrowScanner hard' ()
  refine ⟨hard, hard', ?_, ?_⟩
  · rcases faults _ outcome_relabelled with
      soft | ⟨v, h, again, last, header, known, rereads, -, eq⟩
    · simp [Fault.IsHard, Fault.kind] at soft
    · have label : again.id = 161 := (Fault.unknownModel.inj eq).symm
      refine ⟨v, h, again, last, header, rereads, label, ?_⟩
      intro same
      rw [same] at known
      exact absurd known (by decide)
  · exact (steady fun v _ h again _ rereads => rereads.eq_of_answersBy answers).1

end SunSpec
