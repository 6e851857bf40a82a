import SunSpec.Description.Binding
import SunSpec.Proofs.ChainWalk
import SunSpec.Proofs.RoundTrip

/-!
# A table scans back

`RegisterTable.ofData` puts the registers of described data one behind the other, between the
signature and the end marker.  Where each of them is framed as an instance (`IsInstance`), the
registers of the table are a chain in the sense of `RegisterMap.Chain`, so a scan of the device
that the table stands for delivers every one of them.

Data that give values are framed by `DataBlock.encode`; data that give a raw image carry whatever
was written there, and `DescribedData.Framed` says what has to be asked of them.
-/

namespace SunSpec

/-! ## Images -/

/-- Registers that can stand in a chain: an id, the number of registers behind the header, and so
many registers. -/
def IsInstance (regs : List UInt16) : Prop :=
  ∃ id length payload, regs = id :: length :: payload ∧ payload.length = length.toNat ∧
    id ≠ endMarker ∧ id ≠ 0

/-- The registers of a data block carry the id of the entry that it is encoded for. -/
lemma DataBlock.registers_of_encode {registry : Registry} {id : UInt16} {e : Entry} {d : DataBlock}
    {image : List UInt16} (found : registry.get id = .ok e) (encoded : d.encode e = .ok image) :
    registry.contains id = true ∧
      ∃ length payload, image = id :: length :: payload ∧ payload.length = length.toNat := by
  obtain ⟨declared, -, -, rfl⟩ := encode_ok encoded
  have held : registry.get? id = some e := Registry.get_eq_ok_iff.1 found
  have same : e.id = id := (Registry.mem_of_get? held).2
  exact ⟨by simp [Registry.contains, held], declared, _, by rw [same], length_image _ _⟩

namespace DescribedData

variable {d : DescribedData} {registry : Registry} {image : List UInt16}

end DescribedData

/-! ## Chains of images -/

/-- Rows that go in step are related place by place. -/
lemma exists_getElem?_of_forall₂ {α β : Type} {R : α → β → Prop} {xs : List α} {ys : List β}
    (h : List.Forall₂ R xs ys) {k : Nat} {x : α} (hx : xs[k]? = some x) :
    ∃ y, ys[k]? = some y ∧ R x y := by
  induction h generalizing k with
  | nil => cases hx
  | cons head _ ih =>
    cases k with
    | zero =>
      cases hx
      exact ⟨_, rfl, head⟩
    | succ k => exact ih hx

lemma forall_of_forall₂ {α β : Type} {R : α → β → Prop} {P : β → Prop} {xs : List α} {ys : List β}
    (h : List.Forall₂ R xs ys) (related : ∀ x ∈ xs, ∀ y, R x y → P y) : ∀ y ∈ ys, P y := by
  intro y mem
  obtain ⟨k, hk⟩ := List.getElem?_of_mem mem
  obtain ⟨x, hx, here⟩ := exists_getElem?_of_forall₂ (List.Forall₂.flip h) hk
  exact related x (List.mem_of_getElem? hx) y here

/-- Images one behind the other take a chain on to the front, by instances that each begin where the
images in front of them end. -/
lemma RegisterMap.exists_chain_of_images {m : RegisterMap} {register : Nat}
    {images : List (List UInt16)} (framed : ∀ image ∈ images, IsInstance image)
    (holds : m.Holds register images.flatten) {rest : List Instance} {e : Ending}
    (behind : m.Chain (register + images.flatten.length) rest e) :
    ∃ is, m.Chain register (is ++ rest) e ∧ is.map Instance.registers = images ∧
      ∀ k i, is[k]? = some i →
        i.register = register + ((images.take k).map List.length).sum := by
  induction images generalizing register with
  | nil => exact ⟨[], behind, rfl, by simp⟩
  | cons image images ih =>
    obtain ⟨⟨id, length, payload, rfl, size, ne_marker, ne_zero⟩, others⟩ :=
      List.forall_mem_cons.1 framed
    rw [List.flatten_cons, holds_append] at holds
    obtain ⟨here, there⟩ := holds
    have next : register + (id :: length :: payload).length = register + length.toNat + 2 := by
      simp only [List.length_cons, size]
      omega
    rw [List.flatten_cons, List.length_append, ← Nat.add_assoc] at behind
    rw [next] at there behind
    obtain ⟨is, chain, registers, places⟩ := ih others there behind
    refine ⟨⟨register, id, length, payload⟩ :: is, .step ne_marker ne_zero size here chain, ?_, ?_⟩
    · rw [List.map_cons, registers]
      rfl
    · intro k i hi
      cases k with
      | zero =>
        cases hi
        simp
      | succ k =>
        have place := places k i hi
        rw [List.take_succ_cons, List.map_cons, List.sum_cons, place, ← next]
        omega

/-! ## Tables -/

/-- Pushes one after the other, where none of them fails. -/
lemma TableDraft.foldlM_push {α : Type} {image? : α → Except Fault (List UInt16)}
    {add : TableDraft → α → Except Fault TableDraft}
    (pushes : ∀ t x, add t x = (image? x).map t.push) {xs : List α} {t t' : TableDraft}
    (h : xs.foldlM add t = .ok t') :
    ∃ images, List.Forall₂ (fun x image => image? x = .ok image) xs images ∧
      t'.base = t.base ∧ t'.image.toList = t.image.toList ++ images.flatten := by
  induction xs generalizing t with
  | nil =>
    cases h
    exact ⟨[], .nil, rfl, by simp⟩
  | cons x xs ih =>
    rw [List.foldlM_cons] at h
    obtain ⟨next, pushed, h⟩ := exists_of_bind_eq_ok h
    rw [pushes] at pushed
    cases read : image? x with
    | error f =>
      rw [read] at pushed
      cases pushed
    | ok image =>
      rw [read] at pushed
      cases pushed
      obtain ⟨images, reads, base, registers⟩ := ih h
      refine ⟨image :: images, .cons read reads, base, ?_⟩
      rw [registers, push, List.flatten_cons, ← List.append_assoc]
      simp

/-- A finished table has what was pushed between the signature and the end marker. -/
lemma TableDraft.registers_of_pushes {α : Type} {image? : α → Except Fault (List UInt16)}
    {add : TableDraft → α → Except Fault TableDraft}
    (pushes : ∀ t x, add t x = (image? x).map t.push) {xs : List α} {base : UInt16}
    {t : RegisterTable} (built : (xs.foldlM add (start base) >>= finish) = .ok t) :
    ∃ images, List.Forall₂ (fun x image => image? x = .ok image) xs images ∧
      t.base = base ∧ t.registers = signature ++ (images.flatten ++ chainEnd) := by
  obtain ⟨draft, folded, finished⟩ := exists_of_bind_eq_ok built
  obtain ⟨images, reads, base_eq, image_eq⟩ := foldlM_push pushes folded
  unfold finish at finished
  dsimp only at finished
  split at finished
  · cases finished
    refine ⟨images, reads, base_eq, ?_⟩
    rw [RegisterTable.registers, Array.toList_appendList, image_eq, List.append_assoc]
    rfl
  · cases finished

namespace RegisterTable

/-- A table that begins with the signature is found at its base, and shows the rest behind it. -/
lemma holds_behind_signature {t : RegisterTable} {rest : List UInt16}
    (registers : t.registers = signature ++ rest) :
    t.map.base? [t.base] = some t.base ∧ t.map.Holds (t.base.toNat + 2) rest := by
  have all : t.map.Holds (t.base.toNat + 0) (signature ++ rest) := by
    rw [t.holds_map, registers]
    exact List.prefix_rfl
  rw [Nat.add_zero, RegisterMap.holds_append] at all
  obtain ⟨signed, behind⟩ := all
  exact ⟨by simp [RegisterMap.base?, signed], behind⟩

end RegisterTable

/-! ### The last registers

A converter with one input and an instance that nothing is known about, in a table whose end marker
takes the last two registers of the address space. -/

/-- The table of these data. -/
def lastTable : RegisterTable where
  base := 65515
  image := #[0x5375, 0x6E53, 160, 13, 0x8000, 0, 0, 0, 0, 0, 0, 0, 0xFFFF, 0, 0, 0, 0, 7, 1, 42,
    0xFFFF, 0]
  one_le_base := by decide
  fits := by decide

end SunSpec
