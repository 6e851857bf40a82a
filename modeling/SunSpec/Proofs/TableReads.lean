import SunSpec.Proofs.TableScan

/-!
# Building a table and reading it

A draft takes one call after the other, registers as they are or a data block that is encoded
first, and is then finished.  A call may fail, so here a draft is the state of an action that
leaves a draft also where it fails (`OnDraft`).  What a row of calls comes to is said without a
draft: `Push.added` are the registers of one call, none where it fails, and the draft afterwards
holds those of all calls in order (`TableDraft.after_eq`, from the single call of
`Push.run_action`).

Registers are numbered from 1 and addresses from 0.  `RegisterTable.read_eq` says which slice of
the registers a read gives, and `RegisterTable.values_numbered` that it is the slice of those
numbers; reads side by side then join as slices do.
-/

namespace SunSpec

/-! ## Calls on a draft -/

/-- An action on a table in the making.  A fault leaves a draft too. -/
abbrev OnDraft (α : Type) := ExceptT Fault (StateM TableDraft) α

/-- A call on a table in the making. -/
inductive Push where
  | registers (regs : List UInt16)
  | block (d : DataBlock)

namespace Push

/-- The call, on the draft that is there. -/
def action (registry : Registry) : Push → OnDraft Unit
  | registers regs => modify (·.push regs)
  | block d => do
    let t ← get
    set (← MonadExcept.ofExcept (t.pushBlock registry d))

/-- The registers that a call is to add. -/
def registers? (registry : Registry) : Push → Except Fault (List UInt16)
  | registers regs => .ok regs
  | block d => do d.encode (← registry.get d.modelId)

/-- The registers that a call adds: none where it fails. -/
def added (registry : Registry) (p : Push) : List UInt16 :=
  match p.registers? registry with
  | .ok regs => regs
  | .error _ => []

end Push

/-- A draft after a row of calls, whether or not they succeed. -/
def TableDraft.after (registry : Registry) (t : TableDraft) (ps : List Push) : TableDraft :=
  ps.foldl (fun t p => ((p.action registry).run.run t).2) t

namespace TableDraft

@[simp] lemma push_nil (t : TableDraft) : t.push [] = t := by
  simp [push]

lemma push_push (t : TableDraft) (regs more : List UInt16) :
    (t.push regs).push more = t.push (regs ++ more) := by
  have image : t.image ++ regs ++ more = t.image ++ (regs ++ more) := Array.ext' (by simp)
  rw [push, push, push, image]

lemma pushBlock_eq (registry : Registry) (t : TableDraft) (d : DataBlock) :
    t.pushBlock registry d = ((Push.block d).registers? registry).map t.push := by
  show (registry.get d.modelId >>= fun e => d.encode e >>= fun regs => pure (t.push regs)) =
    (registry.get d.modelId >>= d.encode).map t.push
  cases registry.get d.modelId with
  | error f => rfl
  | ok e =>
    show (d.encode e >>= fun regs => pure (t.push regs)) = (d.encode e).map t.push
    cases d.encode e <;> rfl

end TableDraft

namespace Push

variable (registry : Registry) (p : Push) (t : TableDraft)

/-- A call adds its registers behind what is there, or fails and leaves the draft as it was. -/
lemma run_action : (p.action registry).run.run t =
    match p.registers? registry with
    | .ok regs => (.ok (), t.push regs)
    | .error f => (.error f, t) := by
  cases p with
  | registers regs => rfl
  | block d =>
    show (do set (← MonadExcept.ofExcept (t.pushBlock registry d)) : OnDraft Unit).run.run t = _
    rw [t.pushBlock_eq registry d]
    cases (block d).registers? registry <;> rfl

lemma draft_action : ((p.action registry).run.run t).2 = t.push (p.added registry) := by
  rw [run_action, added]
  cases p.registers? registry with
  | error f => exact t.push_nil.symm
  | ok regs => rfl

end Push

namespace TableDraft

/-- After a row of calls a draft holds the registers of those that succeeded, in order. -/
lemma after_eq (registry : Registry) (t : TableDraft) (ps : List Push) :
    t.after registry ps = t.push (ps.flatMap (Push.added registry)) := by
  induction ps generalizing t with
  | nil => exact t.push_nil.symm
  | cons p ps ih =>
    have rest := ih (t.push (p.added registry))
    rw [push_push] at rest
    rw [List.flatMap_cons, ← rest, ← Push.draft_action registry p t]
    rfl

/-! ## Finishing -/

/-- A draft is finished where it fits between the first register and the last. -/
lemma finish_eq (t : TableDraft) : (∀ table, t.finish = .ok table →
      table.base = t.base ∧ table.registers = t.image.toList ++ chainEnd) ∧
    ((∃ table, t.finish = .ok table) ↔
      1 ≤ t.base.toNat ∧ t.base.toNat + (t.image.size + 2) - 1 ≤ lastRegister) := by
  have size : (t.image ++ chainEnd).size = t.image.size + 2 := by
    rw [← Array.length_toList, Array.toList_appendList, List.length_append, Array.length_toList]
    rfl
  unfold finish
  dsimp only
  split
  · next fits =>
    refine ⟨?_, ⟨fun _ => ⟨fits.1, by omega⟩, fun _ => ⟨_, rfl⟩⟩⟩
    intro table built
    cases built
    exact ⟨rfl, by simp [RegisterTable.registers]⟩
  · next unfit =>
    refine ⟨by simp, ⟨?_, ?_⟩⟩
    · rintro ⟨table, built⟩
      cases built
    · intro fits
      exact absurd ⟨fits.1, by omega⟩ unfit

end TableDraft

/-! ## Reading -/

namespace RegisterTable

variable (t : RegisterTable)

/-- Of numbered values, those whose numbers lie in a range stand together. -/
lemma values_zipIdx {α : Type} (xs : List α) (base first stop : Nat) :
    ((xs.zipIdx.map fun (v, i) => (base + i, v)).filter fun (r, _) =>
      decide (first ≤ r ∧ r < stop)).map Prod.snd =
      (xs.drop (first - base)).take (stop - max first base) := by
  induction xs generalizing base with
  | nil => simp
  | cons x xs ih =>
    have shift : (xs.zipIdx 1).map (fun (v, i) => (base + i, v)) =
        xs.zipIdx.map fun (v, i) => (base + 1 + i, v) := by
      rw [List.zipIdx_succ, List.map_map]
      refine List.map_congr_left fun (v, i) _ => ?_
      show (base + (i + 1), v) = (base + 1 + i, v)
      rw [Nat.add_right_comm, Nat.add_assoc]
    rw [List.zipIdx_cons, List.map_cons, Nat.zero_add, shift, Nat.add_zero, List.filter_cons]
    rcases Nat.lt_or_ge base first with before | behind
    · -- the value stands in front of the range
      rw [if_neg (by simp; omega), ih, show first - base = first - (base + 1) + 1 by omega,
        List.drop_succ_cons, Nat.max_eq_left before, Nat.max_eq_left (Nat.le_of_lt before)]
    rcases Nat.lt_or_ge base stop with inside | after
    · have here : first - base = 0 := Nat.sub_eq_zero_of_le behind
      have next : first - (base + 1) = 0 := by omega
      rw [if_pos (by simpa using ⟨behind, inside⟩), List.map_cons, ih, here, next,
        Nat.max_eq_right behind, Nat.max_eq_right (by omega : first ≤ base + 1),
        show stop - base = stop - (base + 1) + 1 by omega]
      rfl
    · have none : stop - (base + 1) = 0 := by omega
      rw [if_neg (by simp; omega), ih, Nat.max_eq_right behind,
        Nat.max_eq_right (by omega : first ≤ base + 1), none, Nat.sub_eq_zero_of_le after,
        List.take_zero, List.take_zero]

/-- The registers with the numbers of a range are a slice of all registers. -/
lemma values_numbered {first count : Nat} (behind : t.base.toNat ≤ first) :
    (t.numbered.filter fun (r, _) => decide (first ≤ r ∧ r < first + count)).map Prod.snd =
      (t.registers.drop (first - t.base.toNat)).take count := by
  rw [numbered, values_zipIdx, Nat.max_eq_left behind, Nat.add_sub_cancel_left]

/-- A read gives a slice of the registers, if it lies inside the table. -/
lemma read_eq (address count : UInt16) : t.read address count =
    if t.base.toNat - 1 ≤ address.toNat ∧
        address.toNat + count.toNat ≤ t.base.toNat - 1 + t.size then
      .ok ((t.registers.drop (address.toNat + 1 - t.base.toNat)).take count.toNat)
    else .error (.illegalAddress address.toNat count.toNat) := by
  have one_le := t.one_le_base
  unfold read
  dsimp only
  split
  · rw [if_neg (by omega)]
  · have first : address.toNat - (t.base.toNat - 1) = address.toNat + 1 - t.base.toNat := by omega
    have last : address.toNat + count.toNat - (t.base.toNat - 1) =
        address.toNat + 1 - t.base.toNat + count.toNat := by omega
    rw [if_pos (by omega), Array.toList_extract, List.extract_eq_take_drop, first, last,
      Nat.add_sub_cancel_left]
    rfl

lemma read_eq_ok_iff {t : RegisterTable} {address count : UInt16} {regs : List UInt16} :
    t.read address count = .ok regs ↔ t.base.toNat - 1 ≤ address.toNat ∧
      address.toNat + count.toNat ≤ t.base.toNat - 1 + t.size ∧
      (t.registers.drop (address.toNat + 1 - t.base.toNat)).take count.toNat = regs := by
  rw [read_eq, ← and_assoc]
  split
  · next inside => rw [and_iff_right inside, Except.ok.injEq]
  · next outside =>
    constructor
    · intro read
      cases read
    · intro inside
      exact absurd inside.1 outside

lemma exists_read_iff {t : RegisterTable} {address count : UInt16} :
    (∃ regs, t.read address count = .ok regs) ↔ t.base.toNat - 1 ≤ address.toNat ∧
      address.toNat + count.toNat ≤ t.base.toNat - 1 + t.size := by
  constructor
  · rintro ⟨regs, read⟩
    obtain ⟨first, last, -⟩ := read_eq_ok_iff.1 read
    exact ⟨first, last⟩
  · rintro ⟨first, last⟩
    exact ⟨_, read_eq_ok_iff.2 ⟨first, last, rfl⟩⟩

/-- What is read is a slice inside the image, and has the values of its numbers. -/
lemma values_of_read {t : RegisterTable} {address count : UInt16} {regs : List UInt16}
    (read : t.read address count = .ok regs) :
    (∃ k, t.base.toNat + k = address.toNat + 1 ∧ k + count.toNat ≤ t.size) ∧
      regs.length = count.toNat ∧
      regs = (t.numbered.filter fun (r, _) =>
        decide (address.toNat + 1 ≤ r ∧ r < address.toNat + 1 + count.toNat)).map Prod.snd := by
  have one_le := t.one_le_base
  have whole := t.length_registers
  obtain ⟨first, last, rfl⟩ := read_eq_ok_iff.1 read
  refine ⟨⟨address.toNat + 1 - t.base.toNat, by omega, by omega⟩, ?_, ?_⟩
  · rw [List.length_take, List.length_drop]
    omega
  · exact (t.values_numbered (by omega)).symm

/-- A read is two reads side by side. -/
lemma read_add {t : RegisterTable} {a m n : UInt16} (address : a.toNat + m.toNat < 65536)
    (count : m.toNat + n.toNat < 65536) {whole : List UInt16}
    (read : t.read a (m + n) = .ok whole) :
    ∃ front back, t.read a m = .ok front ∧ t.read (a + m) n = .ok back ∧ front ++ back = whole := by
  have one_le := t.one_le_base
  have middle : (a + m).toNat = a.toNat + m.toNat := by
    rw [UInt16.toNat_add, Nat.mod_eq_of_lt address]
  have both : (m + n).toNat = m.toNat + n.toNat := by
    rw [UInt16.toNat_add, Nat.mod_eq_of_lt count]
  obtain ⟨first, last, eq⟩ := read_eq_ok_iff.1 read
  rw [both] at last eq
  have shift : a.toNat + m.toNat + 1 - t.base.toNat = a.toNat + 1 - t.base.toNat + m.toNat := by
    omega
  refine ⟨_, _, read_eq_ok_iff.2 ⟨first, by omega, rfl⟩,
    read_eq_ok_iff.2 ⟨by omega, by omega, rfl⟩, ?_⟩
  rw [middle, shift, ← List.drop_drop, ← List.take_add]
  exact eq

end RegisterTable

/-! ## Tables -/

/-- **A table shows what was pushed, and answers reads by its numbers.**  A call adds its registers
or leaves the draft as it was, and the draft after a row of calls can be finished where signature,
registers and end marker fit between the first register and the last.  The table then holds just
these.  A read is answered where all of its registers belong to the table: it takes a slice of the
image that lies inside it, and gives the values that the table pairs with the numbers from
`address + 1` to `address + count`; so reads side by side make up one read. -/
theorem TableDraft.finish_after (registry : Registry) (base : UInt16) (ps : List Push) :
    let pushed := ps.flatMap (Push.added registry)
    let draft := (start base).after registry ps
    (∀ (p : Push) (t : TableDraft), (p.action registry).run.run t =
      match p.registers? registry with
      | .ok regs => (.ok (), t.push regs)
      | .error f => (.error f, t)) ∧
    ((∃ table, draft.finish = .ok table) ↔
      1 ≤ base.toNat ∧ base.toNat + (pushed.length + 4) - 1 ≤ lastRegister) ∧
    ∀ table, draft.finish = .ok table →
      table.base = base ∧ table.registers = signature ++ pushed ++ chainEnd ∧
      (∀ address count : UInt16,
        ((∃ regs, table.read address count = .ok regs) ↔ base.toNat - 1 ≤ address.toNat ∧
          address.toNat + count.toNat ≤ base.toNat - 1 + table.size) ∧
        ∀ regs, table.read address count = .ok regs →
          (∃ k, base.toNat + k = address.toNat + 1 ∧ k + count.toNat ≤ table.size) ∧
          regs.length = count.toNat ∧
          regs = (table.numbered.filter fun (r, _) =>
            decide (address.toNat + 1 ≤ r ∧ r < address.toNat + 1 + count.toNat)).map Prod.snd) ∧
      ∀ a m n : UInt16, a.toNat + m.toNat < 65536 → m.toNat + n.toNat < 65536 →
        ∀ whole, table.read a (m + n) = .ok whole →
          ∃ front back, table.read a m = .ok front ∧ table.read (a + m) n = .ok back ∧
            front ++ back = whole := by
  intro pushed draft
  have draft_eq : draft = (start base).push pushed := after_eq registry (start base) ps
  have image : draft.image.toList = signature ++ pushed := by
    rw [draft_eq, push, Array.toList_appendList]
    rfl
  have size : draft.image.size = pushed.length + 2 := by
    rw [← Array.length_toList, image, List.length_append, Nat.add_comm]
    rfl
  have base_eq : draft.base = base := by
    rw [draft_eq]
    rfl
  obtain ⟨finished, fits⟩ := draft.finish_eq
  rw [base_eq, size] at fits
  refine ⟨fun p t => p.run_action registry t, fits, fun table built => ?_⟩
  obtain ⟨table_base, registers⟩ := finished table built
  rw [base_eq] at table_base
  rw [image] at registers
  refine ⟨table_base, registers, fun address count => ?_, fun a m n address count whole read => ?_⟩
  · rw [← table_base]
    exact ⟨RegisterTable.exists_read_iff, fun regs read => RegisterTable.values_of_read read⟩
  · exact RegisterTable.read_add address count read

/-! ### The last registers, pushed

The table of `lastTable`, whose end marker takes the last two registers of the address space, built
from a data block and a row of registers.  A data block between them repeats too often. -/

/-- The calls. -/
def lastPushes : List Push :=
  [.block ⟨"roof", 160, 1, []⟩, .block ⟨"field", 160, 20000, []⟩, .registers [7, 1, 42]]

theorem TableDraft.finish_after_last :
    ((start 65515).after converterRegistry lastPushes).finish = .ok lastTable ∧
      lastTable.registers =
        signature ++ lastPushes.flatMap (Push.added converterRegistry) ++ chainEnd ∧
      (∃ regs, lastTable.read 65531 5 = .ok regs) ∧
      ((65531 : UInt16).toNat + (2 : UInt16).toNat < 65536 ∧
        (2 : UInt16).toNat + (3 : UInt16).toNat < 65536 ∧
        lastTable.read 65531 (2 + 3) = .ok [7, 1, 42, 0xFFFF, 0]) ∧
      ∃ front back, lastTable.read 65531 2 = .ok front ∧
        lastTable.read (65531 + 2) 3 = .ok back ∧ front ++ back = [7, 1, 42, 0xFFFF, 0] := by
  have built : ((start 65515).after converterRegistry lastPushes).finish = .ok lastTable := rfl
  have read : lastTable.read 65531 (2 + 3) = .ok [7, 1, 42, 0xFFFF, 0] := rfl
  obtain ⟨-, -, shown⟩ := TableDraft.finish_after converterRegistry 65515 lastPushes
  obtain ⟨-, registers, reads, split⟩ := shown lastTable built
  exact ⟨built, registers, (reads 65531 5).1.2 (by decide), ⟨by decide, by decide, read⟩,
    split 65531 2 3 (by decide) (by decide) _ read⟩

end SunSpec
