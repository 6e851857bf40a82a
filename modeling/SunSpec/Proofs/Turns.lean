import SunSpec.Proofs.Requests

/-!
# How long a scan takes

Nothing counts the turns of a walk, and the device says how far each one goes.  A walk ends
because the registers do: a header has two of them, and a read of a register without an address
fails before the device is asked.

`Scanner.walkWithin` is the walk with a number of turns in place of the comparison with the last
register, so that it gives up where the walk would go on.  `Scanner.walkWithin_eq` says that it does
not give up if it has a turn for every second register that is left.  `Strides` says of the visits
of a walk what they owe to addresses alone; the bounds on registers, headers and events are
inductions over it.
-/

namespace SunSpec

variable {σ α β : Type}

/-! ## What a read needs -/

/-- The result, if it is none of the faults, has the property. -/
def IfOk (P : α → Prop) : Except Fault α → Prop
  | .ok a => P a
  | .error _ => True

lemma Ensures.bind_ifOk {x : OnDevice σ α} {f : α → OnDevice σ β} {P : α → Prop} {Q : β → Prop}
    (first : Ensures x.run (IfOk P)) (second : ∀ a, P a → Ensures (f a).run (IfOk Q)) :
    Ensures (x >>= f).run (IfOk Q) :=
  first.bind_either second fun _ _ => trivial

/-- Two continuations may differ where they are not reached. -/
lemma Ensures.bind_congr {x : StateM σ α} {f g : α → StateM σ β} {P : α → Prop} (h : Ensures x P)
    (eq : ∀ a, P a → f a = g a) : x >>= f = x >>= g := by
  apply StateT.ext
  intro state
  rw [StateT.run_bind, StateT.run_bind]
  show (f (x.run state).1).run (x.run state).2 = (g (x.run state).1).run (x.run state).2
  rw [eq _ (h state)]

namespace Device

variable (d : Device σ)

lemma readParts_inside {register total : Nat} {ps : List Part}
    (parts : Part.Contiguous register total ps) (acc : Array UInt16) :
    Ensures (d.readParts acc ps).run (IfOk fun _ =>
      0 < total → 1 ≤ register ∧ register + total ≤ lastRegister + 1) := by
  induction parts generalizing acc with
  | nil register =>
    apply Ensures.pure
    intro pos
    cases pos
  | @cons register count rest ps _ _ _ ih =>
    unfold readParts
    refine Ensures.bind_ifOk (P := fun r => Part.request ⟨register, count⟩ = .ok r) ?_ ?_
    · apply Ensures.pure
      cases Part.request ⟨register, count⟩ with
      | ok r => rfl
      | error f => trivial
    · intro r request
      obtain ⟨here, -⟩ := Part.request_ok request
      refine Ensures.bind_ifOk (P := fun _ => True) ?_ ?_
      · intro state
        cases ((d r).run.run state).1 <;> trivial
      · intro got _
        by_cases short : got.length ≠ count
        · rw [if_pos short]
          exact Ensures.pure trivial
        · rw [if_neg short]
          refine (ih _).imp fun answer later => ?_
          cases answer with
          | error f => trivial
          | ok regs =>
            intro _
            by_cases last : rest = 0
            · omega
            · have := later (Nat.pos_of_ne_zero last)
              omega

/-- Where a read succeeds, all of its registers have addresses. -/
lemma read_inside (limit : ReadLimit) {register count : Nat} (pos : 0 < count) :
    Ensures (d.read limit register count).run (IfOk fun _ =>
      1 ≤ register ∧ register + count ≤ lastRegister + 1) := by
  have inside := d.readParts_inside (Part.split_contiguous limit register count) #[]
  simp only [pos, true_imp_iff] at inside
  exact inside

end Device

namespace Scanner

variable (s : Scanner) (d : Device σ)

lemma readHeader_inside (register : Nat) :
    Ensures (s.readHeader d register).run (IfOk fun _ =>
      1 ≤ register ∧ register + headerRegisters ≤ lastRegister + 1) := by
  unfold readHeader
  refine (d.read_inside s.limit (by decide : 0 < headerRegisters)).bind_ifOk ?_
  intro regs inside
  rcases regs with _ | ⟨id, _ | ⟨length, _ | ⟨_, _⟩⟩⟩
  · exact Ensures.pure trivial
  · exact Ensures.pure trivial
  · exact Ensures.pure inside
  · exact Ensures.pure trivial

lemma readInstance_inside (register : Nat) (h : Header) :
    Ensures (s.readInstance d register h).run (IfOk fun _ =>
      register + h.total ≤ lastRegister + 1) := by
  have pos : 0 < h.total := by
    rw [Header.total, headerRegisters]
    omega
  unfold readInstance
  by_cases long : 65536 ≤ h.total
  · rw [if_pos long]
    exact Ensures.pure trivial
  · rw [if_neg long]
    refine (d.read_inside s.limit pos).bind_ifOk ?_
    intro regs inside
    by_cases known : s.registry.contains h.id = true
    · rw [if_pos known]
      cases Dataset.decode s.registry (Registers.toBytes regs) with
      | ok ds => exact Ensures.pure inside.2
      | error f => exact Ensures.pure trivial
    · rw [if_neg known]
      exact Ensures.pure inside.2

/-- Behind the last register the device is not asked. -/
lemma readHeader_of_past {register : Nat} (past : lastRegister < register) :
    (s.readHeader d register).run = pure (.error (.outsideAddressSpace register)) := by
  have first : Part.request ⟨register, min s.limit.registers headerRegisters⟩ =
      .error (.outsideAddressSpace register) := by
    rw [Part.request_eq, if_neg (by omega)]
  unfold readHeader Device.read
  rw [Part.split_of_pos s.limit register (by decide : 0 < headerRegisters), Device.readParts, first]
  rfl

/-! ## Turns -/

/-- A walk that stops, without a result, after a number of turns. -/
def walkWithin (s : Scanner) (d : Device σ) :
    (turns : Nat) → Array Visit → (register : Nat) → StateM σ (Option Walk)
  | 0, _, _ => return none
  | turns + 1, acc, register => do
    match ← (s.readHeader d register).run with
    | .error f => return some ⟨(acc.push ⟨register, none, none⟩).toList, some f⟩
    | .ok h =>
      if h.id = endMarker then return some ⟨(acc.push ⟨register, some h, none⟩).toList, none⟩
      else if h.id = 0 then
        return some
          ⟨(acc.push ⟨register, some h, none⟩).toList, some (.missingEndMarker register)⟩
      else
        match ← (s.readInstance d register h).run with
        | .error f => return some ⟨(acc.push ⟨register, some h, none⟩).toList, some f⟩
        | .ok event =>
          s.walkWithin d turns (acc.push ⟨register, some h, some event⟩) (register + h.total)

/-- A scan that stops, without a result, after a number of turns behind the signature. -/
def scanWithin (s : Scanner) (d : Device σ) (turns : Nat) : StateM σ (Option Scan) := do
  let search ← s.search d
  match search.result with
  | .error f => return some ⟨search, [], some f⟩
  | .ok base =>
    let walk ← s.walkWithin d turns #[] (base.toNat + signature.length)
    return walk.map fun w => ⟨search, w⟩

/-- A walk ends within as many turns as there are pairs of registers from its first one on, and one
more. -/
theorem walkWithin_eq {turns register : Nat} (enough : lastRegister + 1 - register < 2 * turns)
    (acc : Array Visit) :
    s.walkWithin d turns acc register = some <$> s.walk d acc register := by
  induction turns generalizing register acc with
  | zero => omega
  | succ turns ih =>
    rw [walkWithin, walk]
    by_cases past : lastRegister < register
    · rw [if_pos past, s.readHeader_of_past d past]
      rfl
    · rw [if_neg past, map_bind]
      refine (s.readHeader_inside d register).bind_congr fun answer inside => ?_
      cases answer with
      | error f => rfl
      | ok h =>
        have inside : 1 ≤ register ∧ register + headerRegisters ≤ lastRegister + 1 := inside
        dsimp only
        by_cases marker : h.id = endMarker
        · rw [if_pos marker, if_pos marker]
          rfl
        by_cases zero : h.id = 0
        · rw [if_neg marker, if_neg marker, if_pos zero, if_pos zero]
          rfl
        rw [if_neg marker, if_neg marker, if_neg zero, if_neg zero, map_bind]
        refine bind_congr fun found => ?_
        cases found with
        | error f => rfl
        | ok event =>
          -- the header has taken two registers, and one turn
          have left : lastRegister + 1 - (register + h.total) < 2 * turns := by
            simp only [Header.total, headerRegisters] at inside ⊢
            omega
          exact ih left _

end Scanner

/-! ## Strides -/

/-- Visits from a register on, each where the instance at the one before it has ended. A header and
an instance that were read lie in front of the end of the registers. -/
inductive Strides : (register : Nat) → List Visit → Prop
  | last {register : Nat} {header : Option Header}
      (inside : header.isSome → register + headerRegisters ≤ lastRegister + 1) :
      Strides register [⟨register, header, none⟩]
  | on {register : Nat} {h : Header} {event : Event} {rest : List Visit}
      (inside : register + h.total ≤ lastRegister + 1)
      (tail : Strides (register + h.total) rest) :
      Strides register (⟨register, some h, some event⟩ :: rest)

namespace Strides

variable {register : Nat} {visits : List Visit}

lemma exists_cons (strides : Strides register visits) :
    ∃ v rest, visits = v :: rest ∧ v.register = register := by
  cases strides <;> exact ⟨_, _, rfl, rfl⟩

lemma isChain (strides : Strides register visits) :
    visits.IsChain fun v w => ∃ h, v.header = some h ∧ w.register = v.register + h.total := by
  induction strides with
  | last _ => exact .singleton _
  | on _ tail ih =>
    obtain ⟨w, rest, rfl, start⟩ := tail.exists_cons
    exact .cons_cons ⟨_, rfl, start⟩ ih

lemma register_le (strides : Strides register visits) (le : register ≤ lastRegister + 1) :
    ∀ v ∈ visits, v.register ≤ lastRegister + 1 := by
  induction strides with
  | last _ =>
    intro v hv
    obtain rfl := List.mem_singleton.1 hv
    exact le
  | on inside _ ih =>
    intro v hv
    rcases List.mem_cons.1 hv with rfl | hv
    · exact le
    · exact ih inside v hv

/-- Each header takes two of the registers that are left. -/
lemma headers_le (strides : Strides register visits) (le : register ≤ lastRegister + 1) :
    register + 2 * (visits.filter fun v => v.header.isSome).length ≤ lastRegister + 1 := by
  induction strides with
  | @last register header inside =>
    cases header with
    | none => exact le
    | some h => exact inside rfl
  | on inside _ ih =>
    have rest := ih inside
    simp only [Header.total, headerRegisters] at rest
    rw [List.filter_cons_of_pos rfl, List.length_cons]
    omega

lemma events_le (strides : Strides register visits) :
    (visits.filterMap Visit.event).length ≤ (visits.filter fun v => v.header.isSome).length := by
  induction strides with
  | last _ => exact Nat.zero_le _
  | on _ _ ih => exact Nat.succ_le_succ ih

end Strides

namespace Scanner

variable (s : Scanner) (d : Device σ)

lemma walk_strides (register : Nat) (acc : Array Visit) :
    Ensures (s.walk d acc register) fun w =>
      ∃ visits, w.visits = acc.toList ++ visits ∧ Strides register visits := by
  induction distance : lastRegister + 1 - register using Nat.strongRecOn
      generalizing register acc with
  | _ left ih =>
    have ends {header : Option Header} (fault : Option Fault)
        (inside : header.isSome → register + headerRegisters ≤ lastRegister + 1) :
        ∃ visits, (Walk.mk (acc.push ⟨register, header, none⟩).toList fault).visits =
          acc.toList ++ visits ∧ Strides register visits :=
      ⟨_, Array.toList_push, .last inside⟩
    rw [walk]
    by_cases past : lastRegister < register
    · rw [if_pos past]
      exact Ensures.pure (ends _ (by intro none; cases none))
    · rw [if_neg past]
      refine (s.readHeader_inside d register).bind fun answer header => ?_
      cases answer with
      | error f => exact Ensures.pure (ends _ (by intro none; cases none))
      | ok h =>
        have header : 1 ≤ register ∧ register + headerRegisters ≤ lastRegister + 1 := header
        dsimp only
        by_cases marker : h.id = endMarker
        · rw [if_pos marker]
          exact Ensures.pure (ends _ fun _ => header.2)
        by_cases zero : h.id = 0
        · rw [if_neg marker, if_pos zero]
          exact Ensures.pure (ends _ fun _ => header.2)
        rw [if_neg marker, if_neg zero]
        refine (s.readInstance_inside d register h).bind fun found whole => ?_
        cases found with
        | error f => exact Ensures.pure (ends _ fun _ => header.2)
        | ok event =>
          have shorter := distance ▸ left_lt (not_lt.1 past) h
          refine (ih _ shorter (register + h.total) _ rfl).imp fun w later => ?_
          obtain ⟨visits, eq, strides⟩ := later
          refine ⟨⟨register, some h, some event⟩ :: visits, ?_, .on whole strides⟩
          rw [eq, Array.toList_push, List.append_assoc, List.singleton_append]

/-- The signature has addresses. -/
lemma search_inside : Ensures (s.search d) fun found => ∀ base, found.result = .ok base →
    1 ≤ base.toNat ∧ base.toNat + signature.length ≤ lastRegister + 1 := by
  have probed : ∀ cs, Ensures (s.probe d cs) fun found => ∀ base, found.result = .ok base →
      1 ≤ base.toNat ∧ base.toNat + signature.length ≤ lastRegister + 1 := by
    intro cs
    induction cs with
    | nil => exact Ensures.pure fun base eq => by cases eq
    | cons c cs ih =>
      unfold probe
      refine (d.read_inside s.limit (by decide : 0 < signature.length)).bind fun answer inside => ?_
      dsimp only
      by_cases hit : Probe.isHit ⟨c, answer⟩ = true
      · rw [if_pos hit]
        refine Ensures.pure fun base eq => ?_
        cases eq
        cases answer with
        | ok regs => exact inside
        | error f => cases hit
      · rw [if_neg hit]
        exact ih.bind fun rest inside => Ensures.pure inside
  exact probed s.candidates

lemma scanWithin_eq {turns : Nat} (enough : 32768 ≤ turns) :
    s.scanWithin d turns = some <$> s.scan d := by
  unfold scanWithin scan
  rw [map_bind]
  refine (s.search_inside d).bind_congr fun search inside => ?_
  cases hr : search.result with
  | error f => rfl
  | ok base =>
    have inside := inside base hr
    have left : lastRegister + 1 - (base.toNat + signature.length) < 2 * turns := by
      simp only [lastRegister, signature, List.length_cons, List.length_nil]
      omega
    dsimp only
    rw [s.walkWithin_eq d left, map_bind, bind_map_left]
    rfl

lemma scan_strides : Ensures (s.scan d) fun found => found.walk.visits = [] ∨
    ∃ register, 3 ≤ register ∧ register ≤ lastRegister + 1 ∧
      Strides register found.walk.visits := by
  unfold scan
  refine (s.search_inside d).bind fun search inside => ?_
  cases hr : search.result with
  | error f => exact Ensures.pure (.inl rfl)
  | ok base =>
    have inside := inside base hr
    simp only [signature, List.length_cons, List.length_nil] at inside
    refine (s.walk_strides d _ _).bind fun walk left => Ensures.pure (.inr ?_)
    obtain ⟨visits, eq, strides⟩ := left
    have eq : walk.visits = visits := eq
    refine ⟨base.toNat + signature.length, ?_, inside.2, by rw [eq]; exact strides⟩
    simp only [signature, List.length_cons, List.length_nil]
    omega

/-- **Every scan ends.**  Whatever the registry, the registers that are tried, the limit of one
request and the answers of the device: a scan that would give up after a number of turns does not do
so if this number is 32768 or more.  From header to header the register grows by the length of the
instance and two, and no register that a header or an instance reaches is above 32 bits.  At most
32767 headers are read, and at most as many instances are found. -/
theorem scan_ends (s : Scanner) (d : Device σ) (state : σ) :
    let found := ((s.scan d).run state).1
    (∀ turns, 32768 ≤ turns → s.scanWithin d turns = some <$> s.scan d) ∧
    (found.walk.visits.IsChain fun v w =>
      ∃ h, v.header = some h ∧ w.register = v.register + (h.length.toNat + 2)) ∧
    (∀ v ∈ found.walk.visits, v.register ≤ lastRegister + 1 ∧
      ∀ h, v.header = some h → v.register + (h.length.toNat + 2) < UInt32.size) ∧
    (found.walk.visits.filter fun v => v.header.isSome).length ≤ 32767 ∧
    found.events.length ≤ 32767 := by
  intro found
  refine ⟨fun turns enough => s.scanWithin_eq d enough, ?_⟩
  have strides : found.walk.visits = [] ∨ ∃ register, 3 ≤ register ∧
      register ≤ lastRegister + 1 ∧ Strides register found.walk.visits := s.scan_strides d state
  unfold Scan.events Walk.events
  rcases strides with none | ⟨register, first, le, strides⟩
  · rw [none]
    exact ⟨.nil, fun v hv => (List.not_mem_nil hv).elim, Nat.zero_le _, Nat.zero_le _⟩
  · have headers := strides.headers_le le
    have events := strides.events_le
    have few : (found.walk.visits.filter fun v => v.header.isSome).length ≤ 32767 := by
      simp only [lastRegister] at headers
      omega
    refine ⟨?_, ?_, few, events.trans few⟩
    · refine strides.isChain.imp fun v w follows => ?_
      obtain ⟨h, header, eq⟩ := follows
      exact ⟨h, header, by rw [eq, Header.total, headerRegisters, Nat.add_comm 2]⟩
    · intro v hv
      have below := strides.register_le le v hv
      refine ⟨below, fun h _ => ?_⟩
      have length := h.length.toNat_lt
      simp only [lastRegister, UInt32.size] at below ⊢
      omega

end Scanner

/-! ### A device that repeats itself

It shows the signature to the first request and an empty instance to every other one. -/

/-- The device. -/
def Device.echo : Device Nat := fun _ => ExceptT.mk fun
  | 0 => (.ok signature, 1)
  | asked + 1 => (.ok [1, 0], asked + 2)

/-- A scanner that knows no model. -/
def blankScanner : Scanner := .ofRegistry .empty

lemma Device.read_echo {register : Nat} (first : 1 ≤ register) (last : register + 1 ≤ lastRegister)
    (asked : Nat) : (Device.echo.read .protocol register 2).Gives (asked + 1) (.ok [1, 0])
      (asked + 2) := by
  have parts : Part.split .protocol register 2 = [⟨register, 2⟩] := by
    rw [Part.split_of_pos _ _ (by decide : 0 < 2)]
    exact congrArg _ (Part.split_zero _ _)
  have request : Part.request ⟨register, 2⟩ = .ok ⟨UInt16.ofNat (register - 1), 2⟩ := by
    rw [Part.request_eq, if_pos (by omega), if_pos (by omega)]
    rfl
  unfold OnDevice.Gives Device.read
  rw [parts, Device.readParts, request]
  rfl

namespace Scanner

variable {register : Nat}

lemma readHeader_echo (first : 1 ≤ register) (last : register + 1 ≤ lastRegister) (asked : Nat) :
    (blankScanner.readHeader Device.echo register).Gives (asked + 1) (.ok ⟨1, 0⟩) (asked + 2) :=
  (Device.read_echo first last asked).bind_ok rfl

/-- An empty instance is its header. -/
lemma readInstance_echo (first : 1 ≤ register) (last : register + 1 ≤ lastRegister) (asked : Nat) :
    (blankScanner.readInstance Device.echo register ⟨1, 0⟩).Gives (asked + 1)
      (.ok (.unknown register 1 0 [0, 1, 0, 0])) (asked + 2) := by
  have unknown : ¬ blankScanner.registry.contains 1 = true := by decide
  have total : (⟨1, 0⟩ : Header).total = 2 := rfl
  unfold readInstance
  rw [total, if_neg (by decide : ¬ 65536 ≤ 2)]
  apply (Device.read_echo first last asked).bind_ok
  rw [if_neg unknown]
  rfl

/-- Every pair of registers that is left is an instance. -/
lemma walk_echo {turns : Nat} (left : register + 2 * turns = lastRegister + 1)
    (first : 1 ≤ register) (acc : Array Visit) (asked : Nat) :
    ((blankScanner.walk Device.echo acc register).run (asked + 1)).1.events.length =
      (acc.toList.filterMap Visit.event).length + turns := by
  induction turns generalizing register acc asked with
  | zero =>
    rw [walk, if_pos (by omega)]
    show ((acc.push _).toList.filterMap Visit.event).length = _
    rw [Array.toList_push, List.filterMap_append]
    simp
  | succ turns ih =>
    have last : register + 1 ≤ lastRegister := by omega
    have total : (⟨1, 0⟩ : Header).total = 2 := rfl
    have found := readInstance_echo first last (asked + 1)
    unfold OnDevice.Gives at found
    rw [walk_of_header (by omega) (readHeader_echo first last asked), if_neg (by decide),
      if_neg (by decide), found]
    dsimp only
    rw [total, ih (by omega) (by omega), Array.toList_push, List.filterMap_append,
      List.length_append, Nat.add_assoc, Nat.add_comm turns]
    rfl

/-- The bound on the events is reached. -/
theorem events_echo : ((blankScanner.scan Device.echo).run 0).1.events.length = 32767 := by
  have search : (blankScanner.search Device.echo).run 0 =
      (⟨[⟨1, .ok signature⟩], .ok 1⟩, 1) := rfl
  have left : (1 : UInt16).toNat + signature.length + 2 * 32767 = lastRegister + 1 := by decide
  rw [Scan.events, scan_of_search search, walk_echo left (by decide) #[] 0]
  simp

end Scanner

end SunSpec
