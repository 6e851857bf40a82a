import SunSpec.Proofs.CleanReading
import SunSpec.Proofs.RegisterMap

/-!
# The grammar of a chain

`RegisterMap.Chain` says which instances stand one behind the other in a register map, and how
their chain ends: at the end marker, at a zero where an id belongs, or at registers that are not
there.  At every register exactly one chain begins (`RegisterMap.exists_chain` and
`RegisterMap.Chain.unique`).

`Scanner.walk_spec` says that a scanner finds this chain, by induction over the chain and not over
the walk: one event for each instance, in order, and the fault that belongs to the ending.  With
`Scanner.search_spec`, for the signature, it gives `Scanner.scan_of_no_base` and
`Scanner.scan_of_chain`, on which the theorems on whole scans rest.
-/

namespace SunSpec

/-! ## Chains -/

/-- A model instance as it stands on a device. -/
structure Instance where
  /-- The register of its header. -/
  register : Nat
  id : UInt16
  length : UInt16
  payload : List UInt16
deriving DecidableEq

/-- All registers of an instance, from the header on. -/
def Instance.registers (i : Instance) : List UInt16 := i.id :: i.length :: i.payload

/-- How a chain ends. -/
inductive Ending where
  /-- At the end marker. -/
  | marker
  /-- At a zero where an id belongs. -/
  | zero (register : Nat)
  /-- At a header or a payload that is not there. -/
  | broken (register : Nat)
deriving DecidableEq

namespace RegisterMap

/-- The first candidate at which the signature stands. -/
def base? (m : RegisterMap) (candidates : List UInt16) : Option UInt16 :=
  candidates.find? fun c => m.Holds c.toNat signature

/-- The chain that begins at a register. -/
inductive Chain (m : RegisterMap) : Nat → List Instance → Ending → Prop
  | marker {register : Nat} {length : UInt16} (header : m.Holds register [endMarker, length]) :
      Chain m register [] .marker
  | zero {register : Nat} {length : UInt16} (header : m.Holds register [0, length]) :
      Chain m register [] (.zero register)
  | headless {register : Nat} (missing : ¬ m.Mapped register 2) :
      Chain m register [] (.broken register)
  | cut {register : Nat} {id length : UInt16} (header : m.Holds register [id, length])
      (ne_marker : id ≠ endMarker) (ne_zero : id ≠ 0)
      (missing : ¬ m.Mapped register (length.toNat + 2)) : Chain m register [] (.broken register)
  | step {register : Nat} {id length : UInt16} {payload : List UInt16} {rest : List Instance}
      {ending : Ending} (ne_marker : id ≠ endMarker) (ne_zero : id ≠ 0)
      (size : payload.length = length.toNat) (holds : m.Holds register (id :: length :: payload))
      (tail : Chain m (register + length.toNat + 2) rest ending) :
      Chain m register (⟨register, id, length, payload⟩ :: rest) ending

variable {m : RegisterMap}

/-- The header of what stands at a register. -/
lemma Holds.header {register : Nat} {id length : UInt16} {payload : List UInt16}
    (h : m.Holds register (id :: length :: payload)) : m.Holds register [id, length] :=
  ⟨h.1, h.2.1, trivial⟩

/-- At a register at most one chain begins. -/
theorem Chain.unique {register : Nat} {is js : List Instance} {e f : Ending}
    (h : m.Chain register is e) (h' : m.Chain register js f) : is = js ∧ e = f := by
  -- two headers at one register are one
  have same : ∀ {register : Nat} {a b c d : UInt16}, m.Holds register [a, b] →
      m.Holds register [c, d] → a = c ∧ b = d := by
    intro register a b c d h h'
    have eq := h.unique h' rfl
    simpa using eq
  induction h generalizing js f with
  | marker header =>
    cases h' with
    | marker => exact ⟨rfl, rfl⟩
    | zero header' => exact absurd (same header header').1 (by decide)
    | headless missing => exact absurd ⟨_, rfl, header⟩ missing
    | cut header' ne_marker => exact absurd (same header' header).1 ne_marker
    | step ne_marker _ _ holds => exact absurd (same holds.header header).1 ne_marker
  | zero header =>
    cases h' with
    | marker header' => exact absurd (same header header').1 (by decide)
    | zero => exact ⟨rfl, rfl⟩
    | headless missing => exact absurd ⟨_, rfl, header⟩ missing
    | cut header' _ ne_zero => exact absurd (same header' header).1 ne_zero
    | step _ ne_zero _ holds => exact absurd (same holds.header header).1 ne_zero
  | headless missing =>
    cases h' with
    | marker header => exact absurd ⟨_, rfl, header⟩ missing
    | zero header => exact absurd ⟨_, rfl, header⟩ missing
    | headless => exact ⟨rfl, rfl⟩
    | cut header => exact absurd ⟨_, rfl, header⟩ missing
    | step _ _ _ holds => exact absurd ⟨_, rfl, holds.header⟩ missing
  | cut header ne_marker ne_zero missing =>
    cases h' with
    | marker header' => exact absurd (same header header').1 ne_marker
    | zero header' => exact absurd (same header header').1 ne_zero
    | headless missing => exact absurd ⟨_, rfl, header⟩ missing
    | cut => exact ⟨rfl, rfl⟩
    | step _ _ size holds =>
      obtain ⟨rfl, rfl⟩ := same header holds.header
      exact absurd ⟨_, by simp [size], holds⟩ missing
  | step ne_marker ne_zero size holds _ ih =>
    cases h' with
    | marker header => exact absurd (same holds.header header).1 ne_marker
    | zero header => exact absurd (same holds.header header).1 ne_zero
    | headless missing => exact absurd ⟨_, rfl, holds.header⟩ missing
    | cut header _ _ missing =>
      obtain ⟨rfl, rfl⟩ := same header holds.header
      exact absurd ⟨_, by simp [size], holds⟩ missing
    | step _ _ size' holds' tail' =>
      obtain ⟨rfl, rfl⟩ := same holds.header holds'.header
      obtain ⟨rfl, rfl⟩ := ih tail'
      have eq := holds.unique holds' (by simp [size, size'])
      simp only [List.cons.injEq, true_and] at eq
      exact ⟨by rw [eq], rfl⟩

/-- At every register a chain begins. -/
theorem exists_chain (m : RegisterMap) (register : Nat) : ∃ is e, m.Chain register is e := by
  -- a header takes the chain on, and behind the last register there is none
  induction left : lastRegister + 1 - register using Nat.strongRecOn generalizing register with
  | _ left ih =>
    by_cases headed : m.Mapped register 2
    · obtain ⟨regs, size, header⟩ := headed
      obtain ⟨id, length, rfl⟩ := List.length_eq_two.1 size
      by_cases marker : id = endMarker
      · exact ⟨[], .marker, .marker (marker ▸ header)⟩
      · by_cases zero : id = 0
        · exact ⟨[], .zero register, .zero (zero ▸ header)⟩
        · by_cases whole : m.Mapped register (length.toNat + 2)
          · obtain ⟨regs, size, holds⟩ := whole
            have split : regs = id :: length :: regs.drop 2 := by
              have front := (RegisterMap.holds_append.1 (by
                rw [List.take_append_drop 2 regs]
                exact holds)).1.unique header (by rw [List.length_take, size]; simp)
              rw [← List.take_append_drop 2 regs, front]
              rfl
            have inside := header.le (List.cons_ne_nil _ _)
            simp only [List.length_cons, List.length_nil] at inside
            obtain ⟨is, e, tail⟩ := ih (lastRegister + 1 - (register + length.toNat + 2))
              (by omega) (register + length.toNat + 2) rfl
            rw [split] at holds
            exact ⟨_, e, .step marker zero (by rw [List.length_drop]; omega) holds tail⟩
          · exact ⟨[], .broken register, .cut header marker zero whole⟩
    · exact ⟨[], .broken register, .headless headed⟩

end RegisterMap

/-! ## Events -/

/-- What a scan delivers for an instance. -/
inductive Instance.Yields (registry : Registry) (i : Instance) : Event → Prop
  | model {d : Dataset} (known : registry.contains i.id = true)
      (read : Dataset.decode registry (Registers.toBytes i.registers) = .ok d) :
      Yields registry i (.model i.register d)
  | unknown (unknown : registry.contains i.id = false) :
      Yields registry i (.unknown i.register i.id i.length (Registers.toBytes i.registers))

/-- Each event carries the register of its instance. -/
lemma Instance.registers_of_yields {registry : Registry} {is : List Instance} {events : List Event}
    (h : List.Forall₂ (Instance.Yields registry) is events) :
    events.map Event.register = is.map Instance.register := by
  induction h with
  | nil => rfl
  | cons yields _ ih =>
    rw [List.map_cons, List.map_cons, ih]
    cases yields <;> rfl

/-- What a walk says about the ending of a chain. -/
inductive Ending.Reported : Ending → Option Fault → Prop
  | marker : Reported .marker none
  | zero (register : Nat) : Reported (.zero register) (some (.missingEndMarker register))
  | broken (register : Nat) {f : Fault} (link : f.IsLink) : Reported (.broken register) (some f)

/-! ## The walk -/

namespace Scanner

variable {σ : Type} {d : Device σ} {m : RegisterMap} {register : Nat} {id length : UInt16}

lemma readHeader_ok (s : Scanner) (answers : d.AnswersBy m)
    (header : m.Holds register [id, length]) :
    Ensures (s.readHeader d register).run (· = .ok ⟨id, length⟩) := by
  unfold readHeader
  exact Ensures.bind_ok (answers.read_ok s.limit header) (Ensures.pure rfl)

lemma readHeader_refused (s : Scanner) (answers : d.AnswersBy m)
    (missing : ¬ m.Mapped register 2) : Ensures (s.readHeader d register).run Refused := by
  unfold readHeader
  exact Ensures.bind_refused (answers.read_refused s.limit missing) _

/-- An instance of which all registers are there, and that has an address, is delivered. -/
lemma readInstance_ok (s : Scanner) (answers : d.AnswersBy m) (behind : 1 < register)
    {payload : List UInt16} (size : payload.length = length.toNat)
    (holds : m.Holds register (id :: length :: payload)) :
    Ensures (s.readInstance d register ⟨id, length⟩).run fun r =>
      ∃ event, r = .ok event ∧
        Instance.Yields s.registry ⟨register, id, length, payload⟩ event := by
  have total : Header.total ⟨id, length⟩ = (id :: length :: payload).length := by
    simp only [Header.total, headerRegisters, List.length_cons, size]
    omega
  have inside := (holds.le (List.cons_ne_nil _ _)).2
  -- behind the first register there are fewer than 65536
  have short : ¬ 65536 ≤ Header.total ⟨id, length⟩ := by
    rw [total]
    simp only [lastRegister] at inside
    omega
  unfold readInstance
  rw [if_neg short, total]
  refine Ensures.bind_ok (answers.read_ok s.limit holds) ?_
  cases known : s.registry.contains id with
  | true =>
    obtain ⟨e, held⟩ := Option.isSome_iff_exists.1 known
    have bytes : Registers.toBytes [id, length] ++ Registers.toBytes payload =
        Registers.toBytes (id :: length :: payload) := by simp
    have read := Dataset.decode_header held length (Registers.toBytes payload)
    rw [bytes] at read
    rw [if_pos rfl]
    exact Ensures.bind_ok (Ensures.pure read) (Ensures.pure ⟨_, rfl, .model known read⟩)
  | false =>
    rw [if_neg Bool.false_ne_true]
    exact Ensures.pure ⟨_, rfl, .unknown known⟩

lemma readInstance_refused (s : Scanner) (answers : d.AnswersBy m)
    (missing : ¬ m.Mapped register (length.toNat + 2)) :
    Ensures (s.readInstance d register ⟨id, length⟩).run Refused := by
  unfold readInstance
  by_cases long : 65536 ≤ Header.total ⟨id, length⟩
  · rw [if_pos long]
    exact Ensures.bind_refused (Ensures.pure (.of_isLink (Fault.isLink_modelTooLong _ _ _))) _
  · have total : Header.total ⟨id, length⟩ = length.toNat + 2 := Nat.add_comm _ _
    rw [if_neg long, total]
    exact Ensures.bind_refused (answers.read_refused s.limit missing) _

/-- What a walk along a chain finds. -/
def Finds (s : Scanner) (acc : Array Visit) (is : List Instance) (e : Ending) (w : Walk) : Prop :=
  ∃ visits, w.visits = acc.toList ++ visits ∧
    List.Forall₂ (Instance.Yields s.registry) is (visits.filterMap Visit.event) ∧
    e.Reported w.fault

/-- A walk that ends at a visit has found nothing more. -/
lemma Finds.ended (s : Scanner) (acc : Array Visit) (register : Nat) (header : Option Header)
    {e : Ending} {fault : Option Fault} (reported : e.Reported fault) :
    s.Finds acc [] e ⟨(acc.push ⟨register, header, none⟩).toList, fault⟩ :=
  ⟨[⟨register, header, none⟩], Array.toList_push, .nil, reported⟩

/-- A walk along a chain delivers its instances in order and reports its ending. -/
theorem walk_spec (s : Scanner) (answers : d.AnswersBy m) {is : List Instance} {e : Ending}
    (chain : m.Chain register is e) (behind : 1 < register) (acc : Array Visit) :
    Ensures (s.walk d acc register) (s.Finds acc is e) := by
  have inside : ∀ {register : Nat} {regs : List UInt16}, m.Holds register regs → regs ≠ [] →
      ¬ lastRegister < register := by
    intro register regs holds ne
    have := (holds.le ne).2
    have := List.length_pos_iff.2 ne
    omega
  induction chain generalizing acc with
  | marker header =>
    rw [walk, if_neg (inside header (List.cons_ne_nil _ _))]
    refine Ensures.bind (s.readHeader_ok answers header) fun r hr => ?_
    subst hr
    exact Ensures.pure (.ended s acc _ _ .marker)
  | zero header =>
    rw [walk, if_neg (inside header (List.cons_ne_nil _ _))]
    refine Ensures.bind (s.readHeader_ok answers header) fun r hr => ?_
    subst hr
    exact Ensures.pure (.ended s acc _ _ (.zero _))
  | @headless register missing =>
    rw [walk]
    by_cases past : lastRegister < register
    · rw [if_pos past]
      exact Ensures.pure (.ended s acc _ _ (.broken _ (Fault.isLink_outsideAddressSpace _)))
    · rw [if_neg past]
      refine Ensures.bind (s.readHeader_refused answers missing) fun r hr => ?_
      obtain ⟨f, link, rfl⟩ := hr
      exact Ensures.pure (.ended s acc _ _ (.broken _ link))
  | cut header ne_marker ne_zero missing =>
    rw [walk, if_neg (inside header (List.cons_ne_nil _ _))]
    refine Ensures.bind (s.readHeader_ok answers header) fun r hr => ?_
    subst hr
    dsimp only
    rw [if_neg ne_marker, if_neg ne_zero]
    refine Ensures.bind (s.readInstance_refused answers missing) fun r hr => ?_
    obtain ⟨f, link, rfl⟩ := hr
    exact Ensures.pure (.ended s acc _ _ (.broken _ link))
  | @step register id length payload rest e ne_marker ne_zero size holds tail ih =>
    rw [walk, if_neg (inside holds (List.cons_ne_nil _ _))]
    refine Ensures.bind (s.readHeader_ok answers holds.header) fun r hr => ?_
    subst hr
    dsimp only
    rw [if_neg ne_marker, if_neg ne_zero]
    refine Ensures.bind (s.readInstance_ok answers behind size holds) fun r hr => ?_
    obtain ⟨event, rfl, yields⟩ := hr
    have next : register + Header.total ⟨id, length⟩ = register + length.toNat + 2 := by
      simp only [Header.total, headerRegisters]
      omega
    dsimp only
    rw [next]
    refine (ih (by omega) _).imp fun w found => ?_
    obtain ⟨visits, eq, events, reported⟩ := found
    refine ⟨⟨register, some ⟨id, length⟩, some event⟩ :: visits, ?_, ?_, reported⟩
    · rw [eq, Array.toList_push, List.append_assoc, List.singleton_append]
    · exact .cons yields events

/-! ## The search -/

/-- A probe hits exactly where the signature stands. -/
lemma probe_isHit (s : Scanner) (answers : d.AnswersBy m) (c : UInt16) :
    Ensures (d.read s.limit c.toNat signature.length).run fun answer =>
      Probe.isHit ⟨c, answer⟩ = decide (m.Holds c.toNat signature) := by
  by_cases mapped : m.Mapped c.toNat signature.length
  · obtain ⟨regs, size, holds⟩ := mapped
    have read := answers.read_ok s.limit holds
    rw [size] at read
    refine read.imp fun r hr => ?_
    subst hr
    have iff : regs = signature ↔ m.Holds c.toNat signature :=
      ⟨fun eq => eq ▸ holds, fun sign => holds.unique sign size⟩
    simp [Probe.isHit, ← iff, beq_eq_decide]
  · refine (answers.read_refused s.limit mapped).imp fun r hr => ?_
    obtain ⟨f, -, rfl⟩ := hr
    have absent : ¬ m.Holds c.toNat signature := fun holds => mapped ⟨_, rfl, holds⟩
    simp [Probe.isHit, absent]

lemma search_spec (s : Scanner) (answers : d.AnswersBy m) :
    Ensures (s.search d) fun found => found.result =
      match m.base? s.candidates with
      | some base => .ok base
      | none => .error (.signatureNotFound s.candidates) := by
  have probed : ∀ cs, Ensures (s.probe d cs) fun found => found.result =
      match m.base? cs with
      | some base => .ok base
      | none => .error (.signatureNotFound s.candidates) := by
    intro cs
    induction cs with
    | nil => exact Ensures.pure rfl
    | cons c cs ih =>
      unfold probe
      refine Ensures.bind (s.probe_isHit answers c) fun answer hit => ?_
      rw [RegisterMap.base?, List.find?_cons]
      by_cases holds : m.Holds c.toNat signature
      · rw [decide_eq_true holds] at hit ⊢
        dsimp only
        rw [if_pos hit]
        exact Ensures.pure rfl
      · rw [decide_eq_false holds] at hit ⊢
        dsimp only
        rw [if_neg (by rw [hit]; exact Bool.false_ne_true)]
        exact Ensures.bind ih fun rest result => Ensures.pure result
  exact probed s.candidates

/-! ## The scan -/

/-- Without a signature nothing is delivered. -/
theorem scan_of_no_base (s : Scanner) (answers : d.AnswersBy m)
    (absent : m.base? s.candidates = none) : Ensures (s.scan d) fun found =>
      found.events = [] ∧ found.outcome = .error (.signatureNotFound s.candidates) := by
  unfold scan
  refine Ensures.bind (s.search_spec answers) fun search result => ?_
  rw [absent] at result
  rw [result]
  exact Ensures.pure ⟨rfl, rfl⟩

/-- Behind the first signature a scan delivers the chain and reports its ending. -/
theorem scan_of_chain (s : Scanner) (answers : d.AnswersBy m) {base : UInt16}
    (first : m.base? s.candidates = some base) {is : List Instance} {e : Ending}
    (chain : m.Chain (base.toNat + 2) is e) : Ensures (s.scan d) fun found =>
      List.Forall₂ (Instance.Yields s.registry) is found.events ∧
        ∃ fault, e.Reported fault ∧ found.outcome = fault.elim (.ok base) .error := by
  have signed : m.Holds base.toNat signature := by simpa using List.find?_some first
  have behind := (signed.le (List.cons_ne_nil _ _)).1
  unfold scan
  refine Ensures.bind (s.search_spec answers) fun search result => ?_
  rw [first] at result
  dsimp only at result
  rw [result]
  refine Ensures.bind (s.walk_spec answers chain (by omega) #[]) fun walk found => ?_
  obtain ⟨visits, eq, events, reported⟩ := found
  refine Ensures.pure ⟨?_, walk.fault, reported, ?_⟩
  · rw [Scan.events, Walk.events, eq]
    exact events
  · rw [Scan.outcome]
    cases walk.fault with
    | none => exact result
    | some f => rfl

/-- **A scan accepts exactly the grammar.**  On a device that answers by a register map, whatever
its state, and whatever is registered, tried and asked for at once: without a signature nothing is
delivered; behind the first candidate that has one stands exactly one chain, the scan delivers its
instances one by one and in order, and its outcome tells how the chain ends. -/
theorem scan_accepts_chain (s : Scanner) (answers : d.AnswersBy m) (state : σ) :
    let found := ((s.scan d).run state).1
    (m.base? s.candidates = none →
      found.events = [] ∧ found.outcome = .error (.signatureNotFound s.candidates)) ∧
    ∀ base, m.base? s.candidates = some base →
      ∃ is e, m.Chain (base.toNat + 2) is e ∧
        (∀ js f, m.Chain (base.toNat + 2) js f → js = is ∧ f = e) ∧
        List.Forall₂ (Instance.Yields s.registry) is found.events ∧
        (found.outcome = .ok base ↔ e = .marker) ∧
        (∀ r, found.outcome = .error (.missingEndMarker r) ↔ e = .zero r) ∧
        (∀ r, e = .broken r → ∃ f : Fault, f.IsLink ∧ found.outcome = .error f) := by
  intro found
  refine ⟨fun absent => s.scan_of_no_base answers absent state, fun base first => ?_⟩
  obtain ⟨is, e, chain⟩ := m.exists_chain (base.toNat + 2)
  obtain ⟨events, fault, reported, outcome⟩ := s.scan_of_chain answers first chain state
  have outcome : found.outcome = fault.elim (.ok base) .error := outcome
  refine ⟨is, e, chain, fun js f chain' => chain'.unique chain, events, ?_⟩
  rw [outcome]
  cases reported with
  | marker => simp
  | zero register => simp [eq_comm]
  | broken register link =>
    obtain ⟨-, -, own⟩ := id link
    refine ⟨by simp, fun r => ?_, fun r _ => ⟨_, link, rfl⟩⟩
    simp [own r]

end Scanner

/-! ### A chain without its end

A device at the second candidate: an id that is not registered, a converter without inputs, and
nothing but zeros behind it. -/

/-- The registers of the device. -/
def endlessTable : RegisterTable where
  base := 40001
  image := #[0x5375, 0x6E53, 7, 1, 42, 160, 8, 0xFFFE, 0x4142, 0x4344, 0x4500, 0, 0, 0x8000, 1,
    0, 0]
  one_le_base := by decide
  fits := by decide

/-- A scanner that knows the converter and asks for three registers at most. -/
def narrowScanner : Scanner := ⟨converterRegistry, defaultCandidates, .clamp 3⟩

theorem Scanner.scan_accepts_chain_endless :
    (Device.ofTable endlessTable).AnswersBy endlessTable.map ∧
      endlessTable.map.base? narrowScanner.candidates = some 40001 ∧
      let found := ((narrowScanner.scan (Device.ofTable endlessTable)).run ()).1
      found.events.map Event.register = [40003, 40006] ∧
        found.outcome = .error (.missingEndMarker 40016) := by
  have answers := endlessTable.answersBy_map
  have first : endlessTable.map.base? narrowScanner.candidates = some 40001 := by decide
  have chain : endlessTable.map.Chain ((40001 : UInt16).toNat + 2)
      [⟨40003, 7, 1, [42]⟩,
        ⟨40006, 160, 8, [0xFFFE, 0x4142, 0x4344, 0x4500, 0, 0, 0x8000, 1]⟩] (.zero 40016) :=
    .step (by decide) (by decide) rfl (by decide)
      (.step (by decide) (by decide) rfl (by decide) (@RegisterMap.Chain.zero _ _ 0 (by decide)))
  refine ⟨answers, first, ?_⟩
  obtain ⟨is, e, -, unique, events, -, zero, -⟩ :=
    (Scanner.scan_accepts_chain narrowScanner answers ()).2 40001 first
  obtain ⟨rfl, rfl⟩ := unique _ _ chain
  exact ⟨Instance.registers_of_yields events, (zero 40016).2 rfl⟩

end SunSpec
