import Mathlib.Tactic.Common
import SunSpec.Scan

/-!
# Devices that stand for a register map

A `RegisterMap` gives some protocol addresses a register.  `Device.AnswersBy` says that a device
answers by a map: a request all of whose addresses have registers gets these registers, and any
other gets a fault of the link.  Such a device may keep a state, but no answer depends on it.

A scanner numbers registers from 1, cuts a read into requests and counts what comes back.
`RegisterMap.slice?` takes a row of registers off a map in one, and `Device.Shows.read_slice` says
what all of this comes to: a read gives the slice of the map where all of it is there, and fails
otherwise, whatever the limit of one request.  It holds of every device whose answers are slices,
with faults of any kind; `Device.AnswersBy.read_ok` and `Device.AnswersBy.read_refused` are the case
of a link.  `Part.split_contiguous` is the fact about the requests behind it.

What a run comes to is stated by `Ensures`, a property of the result in whatever state it began.
-/

namespace SunSpec

/-! ## Runs -/

variable {σ α β : Type}

/-- The result of a run has the property, whatever the state at its beginning. -/
def Ensures (x : StateM σ α) (P : α → Prop) : Prop := ∀ s, P (x.run s).1

namespace Ensures

lemma pure {a : α} {P : α → Prop} (h : P a) : Ensures (pure a : StateM σ α) P := fun _ => h

lemma bind {x : StateM σ α} {f : α → StateM σ β} {P : α → Prop} {Q : β → Prop}
    (first : Ensures x P) (second : ∀ a, P a → Ensures (f a) Q) : Ensures (x >>= f) Q :=
  fun s => second _ (first s) (x.run s).2

lemma imp {x : StateM σ α} {P Q : α → Prop} (h : Ensures x P) (le : ∀ a, P a → Q a) :
    Ensures x Q := fun s => le _ (h s)

/-- An action goes on with its result or ends with its fault. -/
lemma bind_either {x : OnDevice σ α} {f : α → OnDevice σ β} {P : Except Fault α → Prop}
    {Q : Except Fault β → Prop} (first : Ensures x.run P)
    (ok : ∀ a, P (.ok a) → Ensures (f a).run Q) (error : ∀ e, P (.error e) → Q (.error e)) :
    Ensures (x >>= f).run Q := by
  rw [ExceptT.run_bind]
  refine bind first fun r hr => ?_
  cases r with
  | ok a => exact ok a hr
  | error e => exact Ensures.pure (error e hr)

/-- An action that succeeds goes on with its result. -/
lemma bind_ok {x : OnDevice σ α} {a : α} {f : α → OnDevice σ β} {Q : Except Fault β → Prop}
    (first : Ensures x.run (· = .ok a)) (second : Ensures (f a).run Q) :
    Ensures (x >>= f).run Q := by
  refine bind_either first (fun b same => ?_) nofun
  cases same
  exact second

end Ensures

/-- A fault of the link to a device, or one of the other side of the link.  The two faults in which
a scan says what it found on a chain are none. -/
def Fault.IsLink (f : Fault) : Prop :=
  (f.kind = .io ∨ f.kind = .protocol) ∧ (∀ cs, f ≠ .signatureNotFound cs) ∧
    ∀ r, f ≠ .missingEndMarker r

namespace Fault

lemma isLink_outsideAddressSpace (register : Nat) : (outsideAddressSpace register).IsLink :=
  ⟨.inr rfl, fun _ => Fault.noConfusion, fun _ => Fault.noConfusion⟩

lemma isLink_modelTooLong (id : UInt16) (register : Nat) (length : UInt16) :
    (modelTooLong id register length).IsLink :=
  ⟨.inr rfl, fun _ => Fault.noConfusion, fun _ => Fault.noConfusion⟩

lemma isLink_illegalAddress (address count : Nat) : (illegalAddress address count).IsLink :=
  ⟨.inr rfl, fun _ => Fault.noConfusion, fun _ => Fault.noConfusion⟩

end Fault

/-- The result is a fault of the link. -/
def Refused (r : Except Fault α) : Prop := ∃ f : Fault, f.IsLink ∧ r = .error f

lemma Refused.of_isLink {f : Fault} (h : f.IsLink) : Refused (.error f : Except Fault α) :=
  ⟨f, h, rfl⟩

/-- An action that is refused goes no further. -/
lemma Ensures.bind_refused {x : OnDevice σ α} (h : Ensures x.run Refused)
    (f : α → OnDevice σ β) : Ensures (x >>= f).run Refused := by
  refine bind_either h (fun a refused => ?_) fun e refused => ?_
  · obtain ⟨f, -, same⟩ := refused
    cases same
  · obtain ⟨f, link, same⟩ := refused
    cases same
    exact .of_isLink link

/-! ## Register maps -/

/-- Registers by protocol address, counted from 0. -/
abbrev RegisterMap := UInt16 → Option UInt16

namespace RegisterMap

variable {m : RegisterMap} {register : Nat}

/-- The register of a number, counted from 1. -/
def at? (m : RegisterMap) (register : Nat) : Option UInt16 :=
  if 1 ≤ register ∧ register ≤ lastRegister then m (UInt16.ofNat (register - 1)) else none

/-- From a register on, the map has these values. -/
def Holds (m : RegisterMap) : Nat → List UInt16 → Prop
  | _, [] => True
  | register, v :: vs => m.at? register = some v ∧ m.Holds (register + 1) vs

/-- From a register on, the map has `count` values. -/
def Mapped (m : RegisterMap) (register count : Nat) : Prop :=
  ∃ regs, regs.length = count ∧ m.Holds register regs

instance decidableHolds (m : RegisterMap) : (register : Nat) → (regs : List UInt16) →
    Decidable (m.Holds register regs)
  | _, [] => .isTrue trivial
  | register, v :: vs =>
    have := decidableHolds m (register + 1) vs
    inferInstanceAs (Decidable (m.at? register = some v ∧ m.Holds (register + 1) vs))

lemma holds_append {xs ys : List UInt16} :
    m.Holds register (xs ++ ys) ↔ m.Holds register xs ∧ m.Holds (register + xs.length) ys := by
  induction xs generalizing register with
  | nil => simp [Holds]
  | cons x xs ih =>
    rw [List.cons_append, Holds, Holds, ih, and_assoc, List.length_cons, Nat.add_assoc,
      Nat.add_comm 1]

/-- A map has at most one row of values at a register. -/
lemma Holds.unique {xs ys : List UInt16} (hx : m.Holds register xs) (hy : m.Holds register ys)
    (length : xs.length = ys.length) : xs = ys := by
  induction xs generalizing register ys with
  | nil => exact (List.eq_nil_of_length_eq_zero length.symm).symm
  | cons x xs ih =>
    cases ys with
    | nil => cases length
    | cons y ys =>
      obtain ⟨head, tail⟩ := hx
      obtain ⟨head', tail'⟩ := hy
      have eq : x = y := Option.some.inj (head.symm.trans head')
      rw [eq, ih tail tail' (Nat.succ.inj length)]

/-- Registers with a value have an address. -/
lemma Holds.le {regs : List UInt16} (h : m.Holds register regs) (ne : regs ≠ []) :
    1 ≤ register ∧ register + regs.length ≤ lastRegister + 1 := by
  induction regs generalizing register with
  | nil => exact absurd rfl ne
  | cons v vs ih =>
    obtain ⟨head, tail⟩ := h
    have inside : 1 ≤ register ∧ register ≤ lastRegister := by
      by_contra outside
      rw [at?, if_neg outside] at head
      cases head
    rw [List.length_cons]
    by_cases last : vs = []
    · subst last
      exact ⟨inside.1, Nat.succ_le_succ inside.2⟩
    · have := (ih tail last).2
      exact ⟨inside.1, by omega⟩

lemma mapped_zero (m : RegisterMap) (register : Nat) : m.Mapped register 0 := ⟨[], rfl, trivial⟩

lemma mapped_add {count rest : Nat} : m.Mapped register (count + rest) ↔
    m.Mapped register count ∧ m.Mapped (register + count) rest := by
  constructor
  · rintro ⟨regs, length, holds⟩
    rw [← List.take_append_drop count regs, holds_append] at holds
    have front : (regs.take count).length = count := by rw [List.length_take]; omega
    have back : (regs.drop count).length = rest := by rw [List.length_drop]; omega
    rw [front] at holds
    exact ⟨⟨_, front, holds.1⟩, ⟨_, back, holds.2⟩⟩
  · rintro ⟨⟨xs, rfl, hx⟩, ys, rfl, hy⟩
    exact ⟨xs ++ ys, List.length_append, holds_append.2 ⟨hx, hy⟩⟩

/-- The values of `count` registers from a register on, if all of them are there. -/
def slice? (m : RegisterMap) (register count : Nat) : Option (List UInt16) :=
  (List.range' register count).mapM m.at?

lemma slice?_eq_some_iff {count : Nat} {regs : List UInt16} :
    m.slice? register count = some regs ↔ regs.length = count ∧ m.Holds register regs := by
  unfold slice?
  induction count generalizing register regs with
  | zero =>
    rw [List.range'_zero, List.mapM_nil, List.length_eq_zero_iff]
    constructor
    · rintro ⟨⟩
      exact ⟨rfl, trivial⟩
    · rintro ⟨rfl, -⟩
      rfl
  | succ count ih =>
    rw [List.range'_succ, List.mapM_cons]
    simp only [Option.bind_eq_bind, Option.bind_eq_some_iff, ih, Option.pure_def, Option.some.injEq]
    constructor
    · rintro ⟨v, head, vs, ⟨rfl, tail⟩, rfl⟩
      exact ⟨rfl, head, tail⟩
    · rintro ⟨length, holds⟩
      obtain ⟨v, vs, rfl⟩ := List.exists_cons_of_length_eq_add_one length
      exact ⟨v, holds.1, vs, ⟨Nat.succ.inj length, holds.2⟩, rfl⟩

lemma slice?_add {count rest : Nat} : m.slice? register (count + rest) =
    (m.slice? register count).bind fun front =>
      (m.slice? (register + count) rest).map (front ++ ·) := by
  unfold slice?
  rw [← List.range'_append_1, List.mapM_append]
  simp only [Option.map_eq_bind, Function.comp_def, Option.pure_def, Option.bind_eq_bind]

/-- Where a register has no address, no slice goes over it. -/
lemma slice?_eq_none {count r : Nat} (first : register ≤ r) (last : r < register + count)
    (outside : ¬ (1 ≤ r ∧ r ≤ lastRegister)) : m.slice? register count = none := by
  refine Option.eq_none_iff_forall_ne_some.2 fun regs slice => ?_
  obtain ⟨rfl, holds⟩ := slice?_eq_some_iff.1 slice
  have ne : regs ≠ [] := by
    rintro rfl
    rw [List.length_nil] at last
    omega
  have := holds.le ne
  omega

end RegisterMap

/-- The answer is the row, or a fault with the property where there is none. -/
def ComesTo (row : Option α) (P : Fault → Prop) : Except Fault α → Prop
  | .ok a => row = some a
  | .error f => row = none ∧ P f

lemma ComesTo.ok_iff {row : Option α} {P : Fault → Prop} {answer : Except Fault α}
    (comes : ComesTo row P answer) {a : α} : answer = .ok a ↔ row = some a := by
  cases answer with
  | ok b =>
    have found : row = some b := comes
    rw [found, Except.ok.injEq, Option.some.injEq]
  | error f =>
    rw [comes.1]
    exact iff_of_false nofun nofun

namespace Device

/-- A device answers by a register map: requests for registers, if all of them are there. -/
structure AnswersBy (d : Device σ) (m : RegisterMap) : Prop where
  answers : ∀ r : Request, 0 < r.count.toNat → ∀ regs, regs.length = r.count.toNat →
    m.Holds (r.address.toNat + 1) regs → Ensures (d r).run (· = .ok regs)
  refuses : ∀ r : Request, 0 < r.count.toNat → ¬ m.Mapped (r.address.toNat + 1) r.count.toNat →
    Ensures (d r).run Refused

/-- A device shows a register map, with faults that have a property: whatever its state, a request
gets the slice of the map that it asks for, or such a fault where a part of it is not there. -/
def Shows (d : Device σ) (m : RegisterMap) (P : Fault → Prop) : Prop :=
  ∀ r : Request, 0 < r.count.toNat →
    Ensures (d r).run (ComesTo (m.slice? (r.address.toNat + 1) r.count.toNat) P)

lemma AnswersBy.shows_map {d : Device σ} {m : RegisterMap} (h : d.AnswersBy m) :
    d.Shows m Fault.IsLink := by
  intro r pos
  cases slice : m.slice? (r.address.toNat + 1) r.count.toNat with
  | some regs =>
    obtain ⟨length, holds⟩ := RegisterMap.slice?_eq_some_iff.1 slice
    refine (h.answers r pos regs length holds).imp ?_
    rintro _ rfl
    exact rfl
  | none =>
    have unmapped : ¬ m.Mapped (r.address.toNat + 1) r.count.toNat := by
      rintro ⟨regs, found⟩
      rw [RegisterMap.slice?_eq_some_iff.2 found] at slice
      cases slice
    refine (h.refuses r pos unmapped).imp ?_
    rintro _ ⟨f, link, rfl⟩
    exact ⟨rfl, link⟩

end Device

/-! ## Requests -/

namespace Part

/-- Parts that follow each other from a register on and count `total` registers together, each of
them as many as a request may ask for. -/
inductive Contiguous : (register total : Nat) → List Part → Prop
  | nil (register : Nat) : Contiguous register 0 []
  | cons {register count rest : Nat} {ps : List Part} (positive : 0 < count) (le : count ≤ 125)
      (tail : Contiguous (register + count) rest ps) :
      Contiguous register (count + rest) (⟨register, count⟩ :: ps)

lemma split_zero (limit : ReadLimit) (register : Nat) : split limit register 0 = [] := by
  have positive := limit.positive
  have none : (0 + limit.registers - 1) / limit.registers = 0 := Nat.div_eq_of_lt (by omega)
  rw [split, none]
  rfl

lemma split_of_pos (limit : ReadLimit) (register : Nat) {count : Nat} (pos : 0 < count) :
    split limit register count = ⟨register, min limit.registers count⟩ ::
      split limit (register + limit.registers) (count - limit.registers) := by
  have positive := limit.positive
  -- one part more than there are in what is left
  have parts : (count + limit.registers - 1) / limit.registers =
      (count - limit.registers + limit.registers - 1) / limit.registers + 1 := by
    rcases Nat.lt_or_ge count limit.registers with lt | ge
    · have more : count + limit.registers - 1 = count - 1 + limit.registers := by omega
      have none : (count - limit.registers + limit.registers - 1) / limit.registers = 0 :=
        Nat.div_eq_of_lt (by omega)
      rw [none, more, Nat.add_div_right _ positive, Nat.div_eq_of_lt (by omega)]
    · have more : count + limit.registers - 1 =
          count - limit.registers + limit.registers - 1 + limit.registers := by omega
      rw [more, Nat.add_div_right _ positive]
  rw [split, parts, List.range_succ_eq_map, List.map_cons, List.map_map, split]
  congr 1
  · simp
  · refine List.map_congr_left fun i _ => ?_
    have done : (i + 1) * limit.registers = limit.registers + i * limit.registers := by
      rw [Nat.add_mul, Nat.one_mul, Nat.add_comm]
    simp only [Function.comp_apply, Nat.succ_eq_add_one, done, Nat.add_assoc, Nat.sub_sub]

/-- However a read is cut, its parts are contiguous. -/
theorem split_contiguous (limit : ReadLimit) (register count : Nat) :
    Contiguous register count (split limit register count) := by
  have positive := limit.positive
  have allowed := limit.allowed
  induction count using Nat.strongRecOn generalizing register with
  | _ count ih =>
    rcases Nat.eq_zero_or_pos count with rfl | pos
    · rw [split_zero]
      exact .nil register
    · rw [split_of_pos limit register pos]
      rcases Nat.le_total count limit.registers with le | le
      · have all : min limit.registers count = count := Nat.min_eq_right le
        have none : count - limit.registers = 0 := by omega
        rw [all, none, split_zero]
        exact .cons pos (by omega) (.nil _)
      · have full : min limit.registers count = limit.registers := Nat.min_eq_left le
        have tail := ih (count - limit.registers) (by omega) (register + limit.registers)
        rw [full]
        have cut := Contiguous.cons positive allowed tail
        rw [Nat.add_sub_cancel' le] at cut
        exact cut

/-- A part has a request exactly where all of its registers have an address. -/
lemma request_eq (register count : Nat) : request ⟨register, count⟩ =
    if 1 ≤ register ∧ register ≤ lastRegister then
      if 1 ≤ register + count - 1 ∧ register + count - 1 ≤ lastRegister then
        .ok ⟨UInt16.ofNat (register - 1), UInt16.ofNat count⟩
      else .error (.outsideAddressSpace (register + count - 1))
    else .error (.outsideAddressSpace register) := by
  unfold request address
  split <;> [split; skip] <;> rfl

lemma toNat_address {register : Nat} (first : 1 ≤ register) (last : register ≤ lastRegister) :
    (UInt16.ofNat (register - 1)).toNat + 1 = register := by
  have lt : register - 1 < UInt16.size := by
    simp only [lastRegister, UInt16.size] at *
    omega
  rw [UInt16.toNat_ofNat_of_lt' lt]
  omega

lemma toNat_count {count : Nat} (le : count ≤ 125) : (UInt16.ofNat count).toNat = count := by
  have lt : count < UInt16.size := by
    simp only [UInt16.size]
    omega
  exact UInt16.toNat_ofNat_of_lt' lt

/-- The registers of a part that has a request have addresses. -/
lemma request_ok {register count : Nat} {r : Request} (asked : request ⟨register, count⟩ = .ok r) :
    (1 ≤ register ∧ register + count ≤ lastRegister + 1) ∧
      r = ⟨UInt16.ofNat (register - 1), UInt16.ofNat count⟩ := by
  rw [request_eq] at asked
  split at asked
  · split at asked
    · cases asked
      exact ⟨by omega, rfl⟩
    · cases asked
  · cases asked

/-- A request asks for the registers of its part. -/
lemma starts_of_request {register count : Nat} (pos : 0 < count) (le : count ≤ 125) {r : Request}
    (asked : request ⟨register, count⟩ = .ok r) :
    r.address.toNat + 1 = register ∧ r.count.toNat = count := by
  obtain ⟨⟨first, last⟩, rfl⟩ := request_ok asked
  exact ⟨toNat_address first (by omega), toNat_count le⟩

/-- A part without a request begins or ends at a register without an address. -/
lemma request_error {register count : Nat} {f : Fault}
    (refused : request ⟨register, count⟩ = .error f) :
    ∃ r, f = .outsideAddressSpace r ∧ ¬ (1 ≤ r ∧ r ≤ lastRegister) ∧
      (r = register ∨ r = register + count - 1) := by
  rw [request_eq] at refused
  split at refused
  · next first =>
    split at refused
    · cases refused
    · next last =>
      cases refused
      exact ⟨_, rfl, last, .inr rfl⟩
  · next first =>
    cases refused
    exact ⟨_, rfl, first, .inl rfl⟩

end Part

/-! ## Reads -/

namespace Device

variable {d : Device σ} {m : RegisterMap} {P : Fault → Prop} {register count : Nat}

namespace Shows

lemma readParts (shows_map : d.Shows m P) (outside : ∀ r, P (.outsideAddressSpace r))
    {ps : List Part} (parts : Part.Contiguous register count ps) (acc : Array UInt16) :
    Ensures (d.readParts acc ps).run
      (ComesTo ((m.slice? register count).map (acc.toList ++ ·)) P) := by
  induction parts generalizing acc with
  | nil register =>
    exact Ensures.pure (P := ComesTo _ P) (by simp [ComesTo, RegisterMap.slice?])
  | @cons register count rest ps pos le tail ih =>
    unfold Device.readParts
    rw [RegisterMap.slice?_add]
    refine Ensures.bind_either (P := (Part.request ⟨register, count⟩ = ·)) (Ensures.pure rfl)
      (fun r request => ?_) fun f refused => ?_
    · obtain ⟨starts, counted⟩ := Part.starts_of_request pos le request
      have answer := shows_map r (by omega)
      rw [starts, counted] at answer
      refine Ensures.bind_either answer (fun got front => ?_) fun f missing => ?_
      · have front : m.slice? register count = some got := front
        have length := (RegisterMap.slice?_eq_some_iff.1 front).1
        rw [if_neg (not_not.2 length)]
        refine (ih (acc ++ got)).imp fun answer comes => ?_
        rw [front]
        simpa [Function.comp_def] using comes
      · rw [missing.1]
        exact ⟨rfl, missing.2⟩
    · -- a part without an address has a register that is not there
      obtain ⟨r, rfl, addressless, found⟩ := Part.request_error refused
      rw [RegisterMap.slice?_eq_none (by omega) (by omega) addressless]
      exact ⟨rfl, outside r⟩

/-- A read comes to the slice of the map, however it is cut. -/
theorem read_slice (shows_map : d.Shows m P) (outside : ∀ r, P (.outsideAddressSpace r))
    (limit : ReadLimit) (register count : Nat) :
    Ensures (d.read limit register count).run (ComesTo (m.slice? register count) P) := by
  have read := shows_map.readParts outside (Part.split_contiguous limit register count) #[]
  simpa [Device.read] using read

end Shows

namespace AnswersBy

variable (h : d.AnswersBy m) (limit : ReadLimit)

include h

/-- A read gives the registers of the map. -/
theorem read_ok {regs : List UInt16} (holds : m.Holds register regs) :
    Ensures (d.read limit register regs.length).run (· = .ok regs) :=
  (h.shows_map.read_slice Fault.isLink_outsideAddressSpace limit register _).imp fun _ comes =>
    comes.ok_iff.2 (RegisterMap.slice?_eq_some_iff.2 ⟨rfl, holds⟩)

/-- A read of registers that are not all there fails. -/
theorem read_refused (unmapped : ¬ m.Mapped register count) :
    Ensures (d.read limit register count).run Refused := by
  refine (h.shows_map.read_slice Fault.isLink_outsideAddressSpace limit register count).imp
    fun answer comes => ?_
  cases answer with
  | ok regs => exact absurd ⟨regs, RegisterMap.slice?_eq_some_iff.1 comes⟩ unmapped
  | error f => exact .of_isLink comes.2

end AnswersBy

end Device

/-! ## Register tables -/

namespace RegisterTable

variable (t : RegisterTable)

/-- The map of a table. -/
def map : RegisterMap := fun address =>
  if t.base.toNat ≤ address.toNat + 1 then t.image[address.toNat + 1 - t.base.toNat]? else none

lemma length_registers : t.registers.length = t.size := Array.length_toList

lemma at?_map (register : Nat) : t.map.at? register =
    if t.base.toNat ≤ register then t.image[register - t.base.toNat]? else none := by
  have one_le := t.one_le_base
  have fits := t.fits
  by_cases addressed : 1 ≤ register ∧ register ≤ lastRegister
  · rw [RegisterMap.at?, if_pos addressed, map, Part.toNat_address addressed.1 addressed.2]
  · rw [RegisterMap.at?, if_neg addressed]
    by_cases behind : t.base.toNat ≤ register
    · rw [if_pos behind, Array.getElem?_eq_none (by omega)]
    · rw [if_neg behind]

/-- What stands at a register are the registers of the table from there on. -/
lemma holds_map {regs : List UInt16} {k : Nat} :
    t.map.Holds (t.base.toNat + k) regs ↔ regs <+: t.registers.drop k := by
  induction regs generalizing k with
  | nil => simp [RegisterMap.Holds]
  | cons v vs ih =>
    have here : t.map.at? (t.base.toNat + k) = t.registers[k]? := by
      rw [at?_map, if_pos (Nat.le_add_right _ _), Nat.add_sub_cancel_left, registers,
        Array.getElem?_toList]
    rw [RegisterMap.Holds, here, Nat.add_assoc, ih]
    -- behind the last register there is nothing to hold, and nothing to be a prefix of
    rcases Nat.lt_or_ge k t.registers.length with lt | ge
    · rw [List.drop_eq_getElem_cons lt, List.cons_prefix_cons, List.getElem?_eq_getElem lt,
        Option.some.injEq, eq_comm]
    · rw [List.getElem?_eq_none ge, List.drop_eq_nil_of_le ge]
      simp

/-- The registers of a table are those from its base to its last. -/
lemma mapped_map {register count : Nat} (pos : 0 < count) : t.map.Mapped register count ↔
    t.base.toNat ≤ register ∧ register + count ≤ t.base.toNat + t.size := by
  constructor
  · rintro ⟨regs, rfl, holds⟩
    have behind : t.base.toNat ≤ register := by
      cases regs with
      | nil => cases pos
      | cons v vs =>
        by_contra before
        have head := holds.1
        rw [at?_map, if_neg before] at head
        cases head
    obtain ⟨k, rfl⟩ := Nat.exists_eq_add_of_le behind
    have le := ((t.holds_map).1 holds).length_le
    rw [List.length_drop, t.length_registers] at le
    exact ⟨behind, by omega⟩
  · rintro ⟨behind, inside⟩
    obtain ⟨k, rfl⟩ := Nat.exists_eq_add_of_le behind
    refine ⟨(t.registers.drop k).take count, ?_, t.holds_map.2 (List.take_prefix _ _)⟩
    rw [List.length_take, List.length_drop, t.length_registers]
    omega

/-- A device that a table stands for answers by the map of the table. -/
theorem answersBy_map : (Device.ofTable t).AnswersBy t.map where
  answers r pos regs length holds := by
    have one_le := t.one_le_base
    obtain ⟨behind, inside⟩ := (t.mapped_map pos).1 ⟨regs, length, holds⟩
    obtain ⟨k, start⟩ := Nat.exists_eq_add_of_le behind
    rw [start, t.holds_map] at holds
    have read : t.read r.address r.count = .ok regs := by
      have first : r.address.toNat - (t.base.toNat - 1) = k := by omega
      have last : r.address.toNat + r.count.toNat - (t.base.toNat - 1) = k + r.count.toNat := by
        omega
      unfold RegisterTable.read
      dsimp only
      rw [if_neg (by omega), first, last, ← length, Array.toList_extract, List.extract_eq_take_drop,
        Nat.add_sub_cancel_left]
      exact congrArg Except.ok (List.prefix_iff_eq_take.1 holds).symm
    exact Ensures.pure read
  refuses r pos missing := by
    have read : t.read r.address r.count =
        .error (.illegalAddress r.address.toNat r.count.toNat) := by
      have one_le := t.one_le_base
      rw [t.mapped_map pos] at missing
      unfold RegisterTable.read
      exact if_pos (by omega)
    refine Ensures.pure (P := Refused) ?_
    rw [read]
    exact .of_isLink (Fault.isLink_illegalAddress _ _)

end RegisterTable

end SunSpec
