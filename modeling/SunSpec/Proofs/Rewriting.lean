import SunSpec.Proofs.TextBytes
import SunSpec.Proofs.WireForm

/-!
# Strings written over values

`Value.setString` says what a value is after a string was written over it.  Where it is run the
value is written in place: the storage of a string is taken over if the declared length stays the
same, what was in it stands in its cells until they are written to, and a storage that is taken
anew holds whatever the memory held.  `Stored` is a value with its cells, and `Stored.setString` the
write step by step.

What can be seen of a row of cells are the first ones, as many as are in use (`Row.live`), and each
operation on a row is one on these.  So one write in place is one write of the value
(`Stored.view_setString`), a history of writes is a history of writes (`Stored.view_rewrite`), and
of a history of writes the value keeps the last.
-/

namespace SunSpec

/-! ## Rows of cells -/

/-- Cells in memory of which the first ones are in use. -/
structure Row (α : Type) where
  cells : List α
  count : Nat
  count_le : count ≤ cells.length

namespace Row

variable {α : Type}

/-- The cells that are in use. -/
def live (r : Row α) : List α := r.cells.take r.count

/-- A row that was just allocated; its cells hold what they held before. -/
def allocate (cells : List α) : Row α := ⟨cells, 0, Nat.zero_le _⟩

/-- A row of which all cells are in use. -/
def holding (xs : List α) : Row α := ⟨xs, xs.length, le_rfl⟩

/-- No cell is in use any longer, and none is written. -/
def clear (r : Row α) : Row α := ⟨r.cells, 0, Nat.zero_le _⟩

/-- The cells behind those in use are written, and new ones are added where they do not suffice. -/
def extend (r : Row α) (xs : List α) : Row α where
  cells := r.live ++ (xs ++ r.cells.drop (r.count + xs.length))
  count := r.count + xs.length
  count_le := by
    have count_le := r.count_le
    simp only [live, List.length_append, List.length_take]
    omega

/-- So many cells are in use, with `a` in those that were not. -/
def resize (r : Row α) (n : Nat) (a : α) : Row α :=
  if within : n ≤ r.count then ⟨r.cells, n, within.trans r.count_le⟩
  else r.extend (List.replicate (n - r.count) a)

@[simp] lemma live_holding (xs : List α) : (holding xs).live = xs := List.take_length

@[simp] lemma live_clear (r : Row α) : r.clear.live = [] := List.take_zero

@[simp] lemma length_live (r : Row α) : r.live.length = r.count :=
  List.length_take_of_le r.count_le

@[simp] lemma live_extend (r : Row α) (xs : List α) : (r.extend xs).live = r.live ++ xs := by
  have length : (r.live ++ xs).length = r.count + xs.length := by
    rw [List.length_append, length_live]
  show (r.live ++ (xs ++ _)).take (r.count + xs.length) = r.live ++ xs
  rw [← List.append_assoc, ← length, List.take_left]

@[simp] lemma live_resize (r : Row α) (n : Nat) (a : α) :
    (r.resize n a).live = r.live.take n ++ List.replicate (n - r.live.length) a := by
  rw [length_live]
  by_cases within : n ≤ r.count
  · rw [resize, dif_pos within, Nat.sub_eq_zero_of_le within, List.replicate_zero,
      List.append_nil, live, live, List.take_take, Nat.min_eq_left within]
  · rw [resize, dif_neg within, live_extend, List.take_of_length_le]
    rw [length_live]
    omega

lemma length_cells_extend (r : Row α) (xs : List α) :
    (r.extend xs).cells.length = max r.cells.length (r.count + xs.length) := by
  show (r.live ++ (xs ++ _)).length = _
  simp only [List.length_append, length_live, List.length_drop]
  omega

lemma length_cells_resize (r : Row α) (n : Nat) (a : α) :
    (r.resize n a).cells.length = max r.cells.length n := by
  have count_le := r.count_le
  by_cases within : n ≤ r.count
  · rw [resize, dif_pos within]
    exact (Nat.max_eq_left (within.trans count_le)).symm
  · rw [resize, dif_neg within, length_cells_extend, List.length_replicate]
    omega

/-- What is written over cleared storage is all that is in use, whatever its cells held. -/
lemma live_rewrite (r : Row UInt8) (bs : List UInt8) (n : Nat) :
    ((r.clear.extend (bs.take n)).resize n 0).live = Utf8.pad n bs := by
  rw [live_resize, live_extend, live_clear, List.nil_append, List.take_take, Nat.min_self,
    List.length_take, Utf8.pad]
  congr 2
  omega

end Row

/-! ## Values in place -/

/-- What a value holds, with the storage that it owns. -/
inductive Content where
  | plain (p : Payload) (unowned : ∀ wire, p ≠ .string wire)
  | string (wire : Row UInt8) (text : Row Char)

namespace Content

/-- What is held, as it is seen. -/
def payload : Content → Payload
  | plain p _ => p
  | string wire _ => .string wire.live

/-- The text that is held, as it is seen. -/
def text : Content → String
  | plain .. => ""
  | string _ text => String.ofList text.live

lemma exists_eq (p : Payload) : ∃ c : Content, c.payload = p ∧ c.text = p.hostText := by
  cases p with
  | string wire =>
    refine ⟨.string (.holding wire) (.holding (Utf8.hostText wire).toList), ?_, ?_⟩
    · rw [payload, Row.live_holding]
    · rw [text, Row.live_holding, String.ofList_toList]
      rfl
  | _ => exact ⟨.plain _ (fun _ => Payload.noConfusion), rfl, rfl⟩

end Content

/-- A value with its cells. -/
structure Stored where
  encoding : Encoding
  status : Status
  raw : List UInt8
  rawCount : UInt8
  content : Content
  length_raw : raw.length = rawCapacity

/-- A write of a string: the text, the length of the field, and what is in the memory from which
storage would be taken. -/
structure Write where
  text : String
  len : UInt16
  wireCells : List UInt8
  textCells : List Char

namespace Stored

/-- The value that is seen. -/
def view (m : Stored) : Value :=
  ⟨m.encoding, m.status, m.raw, m.rawCount, m.content.payload, m.content.text⟩

/-- The first cells are written; the others keep what they hold. -/
def overwrite (cells front : List UInt8) : List UInt8 := front ++ cells.drop front.length

/-- The cells of the image are zeroed one by one, and the first ones written. -/
def setRaw (m : Stored) (image : List UInt8) : Stored where
  encoding := m.encoding
  status := m.status
  raw := overwrite (m.raw.map fun _ => 0) (image.take rawCapacity)
  rawCount := UInt8.ofNat (min image.length rawCapacity)
  content := m.content
  length_raw := by
    have length_raw := m.length_raw
    simp only [overwrite, List.length_append, List.length_drop, List.length_map, List.length_take]
    omega

/-- The storage to write a string to: that of the value if it is a string of the same declared
length, else storage that is taken anew. -/
def storage (m : Stored) (w : Write) : Row UInt8 × Row Char :=
  match m.content with
  | .string wire text =>
    if m.encoding.len = some w.len then (wire, text)
    else (.allocate w.wireCells, .allocate w.textCells)
  | .plain .. => (.allocate w.wireCells, .allocate w.textCells)

/-- The value is written over with a field of bytes, in place. -/
def fillString (m : Stored) (bs : List UInt8) (w : Write) : Stored :=
  let declared := w.len.toNat
  let rows := m.storage w
  let wire := (rows.1.clear.extend (bs.take declared)).resize declared 0
  let text := rows.2.clear.extend (Utf8.hostText wire.live).toList
  let recast := { m with encoding := .string w.len, status := .ok }
  { recast.setRaw wire.live with content := .string wire text }

/-- The value is written over with a string, in place. -/
def setString (m : Stored) (w : Write) : Stored :=
  m.fillString (Utf8.encodeChars (Utf8.fit w.len.toNat w.text.toList)) w

/-- The value after some writes in place. -/
def rewrite (m : Stored) (ws : List Write) : Stored := ws.foldl setString m

lemma overwrite_zeros {cells image : List UInt8} (length : cells.length = rawCapacity) :
    overwrite (cells.map fun _ => 0) (image.take rawCapacity) = Utf8.pad rawCapacity image := by
  rw [overwrite, List.map_const', length, List.drop_replicate, List.length_take, Utf8.pad]
  congr 2
  omega

/-- One write in place is one write of the value that is seen. -/
lemma view_setString (m : Stored) (w : Write) :
    (m.setString w).view = m.view.setString w.text w.len := by
  rw [setString, Value.setString]
  generalize Utf8.encodeChars (Utf8.fit w.len.toNat w.text.toList) = bs
  have wire : (((m.storage w).1.clear.extend (bs.take w.len.toNat)).resize w.len.toNat 0).live =
      Utf8.pad w.len.toNat bs := Row.live_rewrite _ _ _
  simp only [fillString, view, setRaw, Content.payload, Content.text, wire, Row.live_extend,
    Row.live_clear, List.nil_append, String.ofList_toList, overwrite_zeros m.length_raw]
  rfl

/-- Every value that can be made is seen of a stored one. -/
lemma exists_view_eq {v : Value} (made : v.Made) : ∃ m : Stored, m.view = v := by
  obtain ⟨length, rest⟩ : v.rawStorage.length = rawCapacity ∧ v.text = v.payload.hostText := by
    cases Value.wellFormed_of_made made with
    | undefined e => exact ⟨List.length_replicate, rfl⟩
    | ofPayload fits => exact ⟨Utf8.length_pad _ _, rfl⟩
  obtain ⟨content, payload, text⟩ := Content.exists_eq v.payload
  refine ⟨⟨v.encoding, v.status, v.rawStorage, v.rawCount, content, length⟩, ?_⟩
  rw [view, payload, text, ← rest]

/-- A string of the same declared length is written into the cells that the value has; none are
added if they held a field of that length before. -/
theorem cells_setString {m : Stored} {w : Write} {wire : Row UInt8} {text : Row Char}
    (holds : m.content = .string wire text) (same : m.encoding.len = some w.len)
    (length : wire.count = w.len.toNat) :
    ∃ wire' text', (m.setString w).content = .string wire' text' ∧
      wire'.cells.length = wire.cells.length := by
  have storage : m.storage w = (wire, text) := by simp only [Stored.storage, holds, if_pos same]
  have room := wire.count_le
  refine ⟨_, _, rfl, ?_⟩
  rw [storage, Row.length_cells_resize, Row.length_cells_extend, List.length_take]
  show max (max wire.cells.length (0 + _)) _ = _
  omega

end Stored

/-- The value after some writes. -/
def Value.rewrite (v : Value) (ws : List Write) : Value :=
  ws.foldl (fun v w => v.setString w.text w.len) v

lemma Stored.view_rewrite (m : Stored) (ws : List Write) :
    (m.rewrite ws).view = m.view.rewrite ws := by
  induction ws generalizing m with
  | nil => rfl
  | cons w ws ih =>
    show ((m.setString w).rewrite ws).view = (m.view.setString w.text w.len).rewrite ws
    rw [ih, view_setString]

/-- **Only the last string is left.**  Whatever value strings are written over, and however many
of whatever lengths, the value is the one that the last string makes, in each of its fields.  Every
value that can be made is seen of a stored one, and of a stored one the same is seen where the
strings were written in place, whatever its cells and the memory that storage was taken from
held. -/
theorem Value.rewrite_concat (ws : List Write) (w : Write) :
    (∀ v : Value, v.rewrite (ws ++ [w]) = .ofString w.text w.len) ∧
    (∀ v : Value, v.Made → ∃ m : Stored, m.view = v) ∧
    (∀ m : Stored, (m.rewrite (ws ++ [w])).view = .ofString w.text w.len) ∧
    ∃ cs, Utf8.IsCut w.len.toNat w.text.toList cs ∧
      Value.ofString w.text w.len =
        { encoding := .string w.len
          status := .ok
          rawStorage := Utf8.pad rawCapacity (Utf8.field w.len.toNat cs)
          rawCount := UInt8.ofNat (min w.len.toNat rawCapacity)
          payload := .string (Utf8.field w.len.toNat cs)
          text := String.ofList (Utf8.seen cs) } := by
  have last (v : Value) : v.rewrite (ws ++ [w]) = .ofString w.text w.len := by
    rw [rewrite, List.foldl_append, List.foldl_cons, List.foldl_nil, ofString, setString, setString,
      fillString_eq, fillString_eq]
  refine ⟨last, fun v => Stored.exists_view_eq, fun m => (m.view_rewrite _).trans (last m.view), ?_⟩
  have cut := Utf8.isCut_fit w.len.toNat w.text.toList
  refine ⟨_, cut, ?_⟩
  have length := Utf8.length_field cut.fits
  rw [ofString, setString, fillString, Utf8.pad_encodeChars cut.fits, Utf8.hostText_field, setRaw,
    length]

end SunSpec
