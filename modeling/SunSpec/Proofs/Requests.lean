import SunSpec.Proofs.ChangingDevice

/-!
# What a scanner asks a device for

`Device.recorded` keeps the requests of a device.  This file says which ones a scanner makes, on a
device that answers in whatever way.

`Records` compares a run on a device with the run on its recording: both come to the same result
and leave the device in the same state, and the requests that were made have a property that goes
with the result.  A read asks for its parts until one of them fails (`Asks`, from the recursion in
`Device.records_readParts`), and so makes a row of requests (`Sweeps`): the first begins where the
read does, each further one where the one before it has ended, and none asks for more than the limit
or for a register without an address.  `Device.records_read` is the fact behind everything else.  A
search and a walk make one such row for each candidate and for each register they look at, in their
order (`Serves`), so a whole scan does too.
-/

namespace SunSpec

variable {σ α β : Type}

/-! ## Runs and their recordings -/

/-- The second run is the first one on a recorded device, and the requests that it adds have the
property. -/
def Records (x : StateM σ α) (y : StateM (σ × List Request) α)
    (P : α → List Request → Prop) : Prop :=
  ∀ state asked, ∃ more, P (x.run state).1 more ∧
    y.run (state, asked) = ((x.run state).1, (x.run state).2, more.reverse ++ asked)

namespace Records

lemma pure {a : α} {P : α → List Request → Prop} (h : P a []) :
    Records (pure a : StateM σ α) (Pure.pure a) P := fun _ _ => ⟨[], h, rfl⟩

lemma imp {x : StateM σ α} {y : StateM (σ × List Request) α} {P Q : α → List Request → Prop}
    (h : Records x y P) (le : ∀ a asked, P a asked → Q a asked) : Records x y Q := by
  intro state asked
  obtain ⟨more, holds, run⟩ := h state asked
  exact ⟨more, le _ _ holds, run⟩

lemma bind {x : StateM σ α} {y : StateM (σ × List Request) α} {f : α → StateM σ β}
    {g : α → StateM (σ × List Request) β} {P : α → List Request → Prop}
    {Q : β → List Request → Prop} (first : Records x y P)
    (second : ∀ a asked, P a asked → Records (f a) (g a) fun b more => Q b (asked ++ more)) :
    Records (x >>= f) (y >>= g) Q := by
  intro state asked
  obtain ⟨more, holds, run⟩ := first state asked
  obtain ⟨rest, holds', run'⟩ := second _ more holds (x.run state).2 (more.reverse ++ asked)
  refine ⟨more ++ rest, holds', ?_⟩
  rw [run_bind_of_run run]
  show (g (x.run state).1).run ((x.run state).2, more.reverse ++ asked) =
    (((f (x.run state).1).run (x.run state).2).1, ((f (x.run state).1).run (x.run state).2).2,
      (more ++ rest).reverse ++ asked)
  rw [run', List.reverse_append, List.append_assoc]

/-- An action goes on with its result or ends with its fault. -/
lemma bind_either {x : OnDevice σ α} {y : OnDevice (σ × List Request) α}
    {f : α → OnDevice σ β} {g : α → OnDevice (σ × List Request) β}
    {P : Except Fault α → List Request → Prop} {Q : Except Fault β → List Request → Prop}
    (first : Records x.run y.run P)
    (ok : ∀ a asked, P (.ok a) asked →
      Records (f a).run (g a).run fun b more => Q b (asked ++ more))
    (error : ∀ e asked, P (.error e) asked → Q (.error e) asked) :
    Records (x >>= f).run (y >>= g).run Q := by
  rw [ExceptT.run_bind, ExceptT.run_bind]
  refine bind first fun answer asked holds => ?_
  cases answer with
  | ok a => exact ok a asked holds
  | error e =>
    refine pure ?_
    rw [List.append_nil]
    exact error e asked holds

lemma device (d : Device σ) (r : Request) :
    Records (d r).run (d.recorded r).run fun _ asked => asked = [r] :=
  fun _ _ => ⟨[r], rfl, rfl⟩

end Records

/-! ## The requests of a read -/

/-- A request that the protocol allows, for at most so many registers. -/
def Request.Legal (most : Nat) (r : Request) : Prop :=
  1 ≤ r.count.toNat ∧ r.count.toNat ≤ most ∧ r.address.toNat + r.count.toNat ≤ 65536

/-- Requests for registers from a register on, none twice and none left out in between. -/
structure Sweeps (most register count : Nat) (asked : List Request) : Prop where
  legal : ∀ r ∈ asked, r.Legal most
  starts : ∀ r ∈ asked.head?, r.address.toNat + 1 = register
  adjoin : asked.IsChain fun r next => next.address.toNat = r.address.toNat + r.count.toNat
  inside : (asked.map fun r => r.count.toNat).sum ≤ count

namespace Sweeps

variable {most register count rest : Nat}

lemma nil : Sweeps most register count [] where
  legal r hr := (List.not_mem_nil hr).elim
  starts r hr := by cases hr
  adjoin := .nil
  inside := Nat.zero_le _

lemma cons {r : Request} {asked : List Request} (legal : r.Legal most)
    (starts : r.address.toNat + 1 = register) (count_eq : r.count.toNat = count)
    (tail : Sweeps most (register + count) rest asked) :
    Sweeps most register (count + rest) (r :: asked) where
  legal := by
    intro q hq
    rcases List.mem_cons.1 hq with rfl | hq
    · exact legal
    · exact tail.legal q hq
  starts := by
    intro q hq
    cases hq
    exact starts
  adjoin := by
    cases asked with
    | nil => exact .singleton r
    | cons next asked =>
      have behind := tail.starts next rfl
      refine .cons_cons ?_ tail.adjoin
      omega
  inside := by
    have := tail.inside
    rw [List.map_cons, List.sum_cons]
    omega

end Sweeps

namespace Part

lemma count_le_of_mem_split {limit : ReadLimit} {register count : Nat} {p : Part}
    (hp : p ∈ split limit register count) : p.count ≤ limit.registers := by
  obtain ⟨i, -, rfl⟩ := List.mem_map.1 hp
  exact Nat.min_le_left _ _

lemma legal_of_request {register count most : Nat} (pos : 0 < count) (le : count ≤ 125)
    (small : count ≤ most) {r : Request} (asked : request ⟨register, count⟩ = .ok r) :
    r.Legal most := by
  obtain ⟨starts, counted⟩ := starts_of_request pos le asked
  obtain ⟨⟨-, last⟩, -⟩ := request_ok asked
  simp only [lastRegister] at last
  exact ⟨by omega, by omega, by omega⟩

end Part

/-- Requests for parts, one after the other, until one of them fails. -/
inductive Asks : List Part → Except Fault α → List Request → Prop
  | done {answer : Except Fault α} : Asks [] answer []
  | failed {ps : List Part} {f : Fault} : Asks ps (.error f) []
  | cons {p : Part} {ps : List Part} {r : Request} {answer : Except Fault α} {asked : List Request}
      (request : p.request = .ok r) (tail : Asks ps answer asked) :
      Asks (p :: ps) answer (r :: asked)

lemma Asks.sweeps {ps : List Part} {answer : Except Fault α} {asked : List Request}
    (asks : Asks ps answer asked) {register total most : Nat}
    (parts : Part.Contiguous register total ps) (small : ∀ p ∈ ps, p.count ≤ most) :
    Sweeps most register total asked := by
  induction asks generalizing register total with
  | done => exact .nil
  | failed => exact .nil
  | cons request _ ih =>
    cases parts with
    | cons pos le tail =>
      obtain ⟨head, others⟩ := List.forall_mem_cons.1 small
      obtain ⟨starts, counted⟩ := Part.starts_of_request pos le request
      exact .cons (Part.legal_of_request pos le head request) starts counted (ih tail others)

namespace Device

variable (d : Device σ)

lemma records_readParts (ps : List Part) (acc : Array UInt16) :
    Records (d.readParts acc ps).run (d.recorded.readParts acc ps).run (Asks ps) := by
  induction ps generalizing acc with
  | nil => exact Records.pure .done
  | cons p ps ih =>
    unfold readParts
    refine Records.bind_either (P := fun r asked => p.request = r ∧ asked = [])
      (Records.pure ⟨rfl, rfl⟩) ?_ ?_
    · rintro r _ ⟨request, rfl⟩
      refine Records.bind_either (Records.device d r) ?_ ?_
      · rintro got _ rfl
        -- an answer of another length is a fault too
        by_cases short : got.length ≠ p.count
        · rw [if_pos short, if_pos short]
          exact Records.pure (.cons request .failed)
        · rw [if_neg short, if_neg short]
          exact (ih _).imp fun _ asked tail => .cons request tail
      · rintro e _ rfl
        exact .cons request .failed
    · rintro e _ ⟨-, rfl⟩
      exact .failed

/-- A read asks for its registers from the first one on, one piece behind the other. -/
theorem records_read (limit : ReadLimit) (register count : Nat) :
    Records (d.read limit register count).run (d.recorded.read limit register count).run
      fun _ asked => Sweeps limit.registers register count asked :=
  (d.records_readParts _ #[]).imp fun _ _ asks =>
    asks.sweeps (Part.split_contiguous limit register count) fun _ => Part.count_le_of_mem_split

end Device

/-! ## The requests of a scan -/

/-- The reads, each by its first register and its number of registers, in the order in which they
make requests. -/
def Serves (most : Nat) (reads : List (Nat × Nat)) (asked : List Request) : Prop :=
  ∃ rows, asked = rows.flatten ∧
    List.Forall₂ (fun read row => Sweeps most read.1 read.2 row) reads rows

namespace Serves

variable {most : Nat} {reads reads' : List (Nat × Nat)} {asked asked' : List Request}

lemma nil : Serves most [] [] := ⟨[], rfl, .nil⟩

lemma single {register count : Nat} (h : Sweeps most register count asked) :
    Serves most [(register, count)] asked := ⟨[asked], by simp, .cons h .nil⟩

lemma append (h : Serves most reads asked) (h' : Serves most reads' asked') :
    Serves most (reads ++ reads') (asked ++ asked') := by
  obtain ⟨rows, rfl, forall₂⟩ := h
  obtain ⟨rows', rfl, forall₂'⟩ := h'
  exact ⟨rows ++ rows', List.flatten_append.symm, List.rel_append forall₂ forall₂'⟩

lemma legal (h : Serves most reads asked) : ∀ r ∈ asked, r.Legal most := by
  obtain ⟨rows, rfl, forall₂⟩ := h
  induction forall₂ with
  | nil => exact fun r hr => (List.not_mem_nil hr).elim
  | cons head _ ih =>
    intro r hr
    rw [List.flatten_cons, List.mem_append] at hr
    rcases hr with hr | hr
    · exact head.legal r hr
    · exact ih r hr

/-- Where the requests of a run are those of its reads, keeping them changes nothing else. -/
lemma of_records {x : StateM σ α} {y : StateM (σ × List Request) α} {reads : α → List (Nat × Nat)}
    (h : Records x y fun a asked => Serves most (reads a) asked) (state : σ) :
    let run := y.run (state, [])
    run.1 = (x.run state).1 ∧ run.2.1 = (x.run state).2 ∧
      (∀ r ∈ run.2.2, r.Legal most) ∧ Serves most (reads run.1) run.2.2.reverse := by
  intro run
  obtain ⟨asked, served, found⟩ := h state []
  rw [List.append_nil] at found
  have eq : run = ((x.run state).1, (x.run state).2, asked.reverse) := found
  rw [eq]
  refine ⟨rfl, rfl, ?_, ?_⟩
  · intro r hr
    exact served.legal r (List.mem_reverse.1 hr)
  · rw [List.reverse_reverse]
    exact served

end Serves

/-- The reads at a register of the chain: of a header, and of the instance that it announces. -/
def Visit.reads (v : Visit) : List (Nat × Nat) :=
  (v.register, headerRegisters) ::
    match v.header with
    | none => []
    | some h =>
      if h.id = endMarker ∨ h.id = 0 ∨ 65536 ≤ h.total then [] else [(v.register, h.total)]

namespace Visit

variable {register : Nat} {h : Header} {event : Option Event}

lemma reads_of_stop (stops : h.id = endMarker ∨ h.id = 0) :
    reads ⟨register, some h, event⟩ = [(register, headerRegisters)] := by
  rcases stops with marker | zero
  · simp [reads, marker]
  · simp [reads, zero]

lemma reads_of_header (marker : h.id ≠ endMarker) (zero : h.id ≠ 0) :
    reads ⟨register, some h, event⟩ = [(register, headerRegisters)] ++
      if 65536 ≤ h.total then [] else [(register, h.total)] := by
  simp [reads, marker, zero]

end Visit

/-- The reads of a search, one for each probe. -/
def Search.reads (s : Search) : List (Nat × Nat) :=
  s.probes.map fun p => (p.candidate.toNat, signature.length)

/-- The reads of a scan. -/
def Scan.reads (s : Scan) : List (Nat × Nat) := s.search.reads ++ s.walk.visits.flatMap Visit.reads

namespace Scanner

variable (s : Scanner) (d : Device σ)

lemma records_search : Records (s.search d) (s.search d.recorded) fun found asked =>
    Serves s.limit.registers found.reads asked := by
  have probed : ∀ cs, Records (s.probe d cs) (s.probe d.recorded cs) fun found asked =>
      Serves s.limit.registers found.reads asked := by
    intro cs
    induction cs with
    | nil => exact Records.pure .nil
    | cons c cs ih =>
      unfold probe
      refine Records.bind (d.records_read s.limit c.toNat signature.length) fun answer asked h => ?_
      dsimp only
      by_cases hit : Probe.isHit ⟨c, answer⟩ = true
      · rw [if_pos hit, if_pos hit]
        refine Records.pure ?_
        rw [List.append_nil]
        exact .single h
      · rw [if_neg hit, if_neg hit]
        refine Records.bind ih fun rest more served => Records.pure ?_
        rw [List.append_nil]
        exact (Serves.single h).append served
  exact probed s.candidates

lemma records_readHeader (register : Nat) :
    Records (s.readHeader d register).run (s.readHeader d.recorded register).run fun _ asked =>
      Sweeps s.limit.registers register headerRegisters asked := by
  unfold readHeader
  refine Records.bind_either (d.records_read s.limit register headerRegisters) ?_ ?_
  · intro regs asked h
    -- whatever was read, nothing more is asked for
    rcases regs with _ | ⟨id, _ | ⟨length, _ | ⟨_, _⟩⟩⟩ <;>
    · refine Records.pure ?_
      rw [List.append_nil]
      exact h
  · intro _ _ h
    exact h

lemma records_readInstance (register : Nat) (h : Header) :
    Records (s.readInstance d register h).run (s.readInstance d.recorded register h).run
      fun _ asked => Serves s.limit.registers
        (if 65536 ≤ h.total then [] else [(register, h.total)]) asked := by
  unfold readInstance
  by_cases long : 65536 ≤ h.total
  · rw [if_pos long, if_pos long, if_pos long]
    exact Records.pure .nil
  · rw [if_neg long, if_neg long, if_neg long]
    refine Records.bind_either (d.records_read s.limit register h.total) ?_ ?_
    · intro regs asked sweeps
      have served : Serves s.limit.registers [(register, h.total)] (asked ++ []) := by
        rw [List.append_nil]
        exact .single sweeps
      by_cases known : s.registry.contains h.id = true
      · rw [if_pos known, if_pos known]
        cases hd : Dataset.decode s.registry (Registers.toBytes regs) with
        | ok ds => exact Records.pure served
        | error f => exact Records.pure served
      · rw [if_neg known, if_neg known]
        exact Records.pure served
    · intro _ _ sweeps
      exact .single sweeps

lemma records_walk (register : Nat) (acc : Array Visit) :
    Records (s.walk d acc register) (s.walk d.recorded acc register) fun w asked =>
      ∃ visits, w.visits = acc.toList ++ visits ∧
        Serves s.limit.registers (visits.flatMap Visit.reads) asked := by
  -- as in `walk_trail`, each header takes the walk on
  induction distance : lastRegister + 1 - register using Nat.strongRecOn
      generalizing register acc with
  | _ left ih =>
    have ends {v : Visit} {asked : List Request} (fault : Option Fault)
        (served : Serves s.limit.registers v.reads asked) :
        ∃ visits, (Walk.mk (acc.push v).toList fault).visits = acc.toList ++ visits ∧
          Serves s.limit.registers (visits.flatMap Visit.reads) asked :=
      ⟨[v], Array.toList_push, by rw [List.flatMap_singleton]; exact served⟩
    unfold walk
    by_cases past : lastRegister < register
    · rw [if_pos past, if_pos past]
      exact Records.pure (ends _ (.single .nil))
    · rw [if_neg past, if_neg past]
      refine Records.bind (s.records_readHeader d register) fun answer asked header => ?_
      cases answer with
      | error f =>
        refine Records.pure ?_
        rw [List.append_nil]
        exact ends _ (.single header)
      | ok h =>
        have ended (stops : h.id = endMarker ∨ h.id = 0) :
            Serves s.limit.registers (Visit.reads ⟨register, some h, none⟩) (asked ++ []) := by
          rw [List.append_nil, Visit.reads_of_stop stops]
          exact .single header
        dsimp only
        by_cases marker : h.id = endMarker
        · rw [if_pos marker, if_pos marker]
          exact Records.pure (ends _ (ended (.inl marker)))
        by_cases zero : h.id = 0
        · rw [if_neg marker, if_neg marker, if_pos zero, if_pos zero]
          exact Records.pure (ends _ (ended (.inr zero)))
        rw [if_neg marker, if_neg marker, if_neg zero, if_neg zero]
        refine Records.bind (s.records_readInstance d register h) fun found more whole => ?_
        have visited (event : Option Event) :
            Serves s.limit.registers (Visit.reads ⟨register, some h, event⟩) (asked ++ more) := by
          rw [Visit.reads_of_header marker zero]
          exact (Serves.single header).append whole
        cases found with
        | error f =>
          refine Records.pure ?_
          rw [List.append_nil]
          exact ends _ (visited none)
        | ok event =>
          have shorter := distance ▸ left_lt (not_lt.1 past) h
          refine (ih _ shorter (register + h.total) _ rfl).imp fun w rest later => ?_
          obtain ⟨visits, eq, served⟩ := later
          refine ⟨⟨register, some h, some event⟩ :: visits, ?_, ?_⟩
          · rw [eq, Array.toList_push, List.append_assoc, List.singleton_append]
          · rw [List.flatMap_cons, ← List.append_assoc]
            exact (visited (some event)).append served

lemma records_scan : Records (s.scan d) (s.scan d.recorded) fun found asked =>
    Serves s.limit.registers found.reads asked := by
  unfold scan
  refine Records.bind (s.records_search d) fun search asked served => ?_
  cases hr : search.result with
  | error f =>
    refine Records.pure ?_
    rw [List.append_nil]
    simpa [Scan.reads] using served
  | ok base =>
    refine Records.bind (s.records_walk d _ _) fun walk more walked => Records.pure ?_
    obtain ⟨visits, eq, later⟩ := walked
    have visits_eq : walk.visits = visits := eq
    rw [List.append_nil, Scan.reads, visits_eq]
    exact served.append later

/-- **A scanner makes only requests that the protocol allows.**  Whatever registers are tried,
whatever limit is set and whatever the device answers: keeping the requests of a search or of a scan
changes neither what is found nor the device; each request is for at least one register, at most as
many as the limit allows, and only for registers that have an address; and the requests are those of
the reads that are made, one read after the other, each a row in which every request begins where
the one before it has ended. -/
theorem requests_legal (registry : Registry) (candidates : List UInt16) (maxRead : UInt16)
    (d : Device σ) (state : σ) :
    let s : Scanner := ⟨registry, candidates, .clamp maxRead⟩
    let most := min (max maxRead.toNat 1) 125
    let search := (s.search d.recorded).run (state, [])
    let scan := (s.scan d.recorded).run (state, [])
    (search.1 = ((s.search d).run state).1 ∧ search.2.1 = ((s.search d).run state).2 ∧
      (∀ r ∈ search.2.2, r.Legal most) ∧ Serves most search.1.reads search.2.2.reverse) ∧
    scan.1 = ((s.scan d).run state).1 ∧ scan.2.1 = ((s.scan d).run state).2 ∧
      (∀ r ∈ scan.2.2, r.Legal most) ∧ Serves most scan.1.reads scan.2.2.reverse := by
  intro s most search scan
  have limit : s.limit.registers = most := by
    show max 1 (min 125 maxRead.toNat) = min (max maxRead.toNat 1) 125
    omega
  have searched := Serves.of_records (s.records_search d) state
  have scanned := Serves.of_records (s.records_scan d) state
  rw [limit] at searched scanned
  exact ⟨searched, scanned⟩

end Scanner

end SunSpec
