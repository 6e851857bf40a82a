import Mathlib.Data.List.Basic
import SunSpec.Text.Utf8

/-!
# Text in bytes

`Utf8.units` reads bytes as characters and broken places, and nothing in it knows how characters are
written.  The bytes of characters are read back as these characters, with no broken place between
them (`Utf8.units_encodeChars`): a lead byte announces as many bytes as its character has, and the
range that it announces for the next one, narrow at the ends of the planes, never keeps out a
character.  So a text survives its bytes, and the zeros that fill up a field are read as characters
of their own (`Utf8.decode?_field`), where the field is asked for all of its bytes, or as the end of
the text (`Utf8.hostText_field`).

`Utf8.IsCut` says what it is to cut a text to a number of bytes, and `Utf8.isCut_fit` that
`Utf8.fit` does it.  A cut of a cut is a cut (`Utf8.IsCut.trans`), and zeros behind a text do not
count (`Utf8.IsCut.field_eq_of_zeros`); `Proofs/StringFields.lean` needs both, for a field that is
cut twice is filled up in between.
-/

namespace SunSpec.Utf8

/-! ## The bytes of a character -/

/-- The byte that continues a character with the lowest six bits of a number. -/
def tailByte (v : Nat) : UInt8 := UInt8.ofNat (v % 0x40 + 0x80)

@[simp] lemma toNat_tailByte (v : Nat) : (tailByte v).toNat = v % 0x40 + 0x80 := by
  rw [tailByte, UInt8.toNat_ofNat']
  omega

lemma isContinuation_tailByte (v : Nat) : isContinuation (tailByte v) = true := by
  simp only [isContinuation, Bool.and_eq_true, decide_eq_true_eq, UInt8.le_iff_toNat_le,
    toNat_tailByte, UInt8.reduceToNat]
  omega

@[simp] lemma extend_tailByte (bits v : Nat) : extend bits (tailByte v) = bits * 64 + v % 64 := by
  have byte := toNat_tailByte v
  unfold extend
  omega

/-- What a lead byte announces, by its number. -/
lemma lead?_eq (b : UInt8) : lead? b =
    if b.toNat < 0xC2 then none
    else if b.toNat < 0xE0 then some ⟨1, 0x80, 0xBF, b.toNat - 0xC0⟩
    else if b.toNat = 0xE0 then some ⟨2, 0xA0, 0xBF, 0⟩
    else if b.toNat = 0xED then some ⟨2, 0x80, 0x9F, 0xD⟩
    else if b.toNat < 0xF0 then some ⟨2, 0x80, 0xBF, b.toNat - 0xE0⟩
    else if b.toNat = 0xF0 then some ⟨3, 0x90, 0xBF, 0⟩
    else if b.toNat < 0xF4 then some ⟨3, 0x80, 0xBF, b.toNat - 0xF0⟩
    else if b.toNat = 0xF4 then some ⟨3, 0x80, 0x8F, 4⟩
    else none := by
  simp only [lead?, UInt8.lt_iff_toNat_lt, ← UInt8.toNat_inj]
  rfl

/-- A byte leads a character of so many more bytes, with these payload bits, and admits a byte of
number `second` behind it. -/
structure Leads (b : UInt8) (following bits second : Nat) (l : Lead) : Prop where
  multibyte : ¬ b < 0x80
  lead : lead? b = some l
  following : l.following = following
  bits : l.bits = bits
  low : l.low.toNat ≤ second
  high : second ≤ l.high.toNat

lemma not_lt_of_toNat {b : UInt8} {n : Nat} (byte : b.toNat = n) (above : 0x80 ≤ n) :
    ¬ b < 0x80 := by
  rw [UInt8.lt_iff_toNat_lt, byte]
  exact Nat.not_lt.2 above

lemma exists_leads_two {v : Nat} (low : 0x7F < v) (high : v ≤ 0x7FF) :
    ∃ l, Leads (UInt8.ofNat (v / 64 % 0x20 + 0xC0)) 1 (v / 64) (v % 0x40 + 0x80) l := by
  have byte : (UInt8.ofNat (v / 64 % 0x20 + 0xC0)).toNat = v / 64 + 0xC0 := by
    rw [UInt8.toNat_ofNat']
    omega
  have multibyte := not_lt_of_toNat byte (by omega)
  have lead := lead?_eq (UInt8.ofNat (v / 64 % 0x20 + 0xC0))
  rw [byte, if_neg (by omega), if_pos (by omega)] at lead
  refine ⟨_, multibyte, lead, rfl, ?_, ?_, ?_⟩ <;> (simp only [UInt8.reduceToNat]; omega)

/-- The lead bytes at the ends of the basic plane and at the surrogates narrow the range of the next
byte, and the character lies in it. -/
lemma exists_leads_three {v : Nat} (low : 0x7FF < v) (high : v ≤ 0xFFFF) (valid : v.isValidChar) :
    ∃ l, Leads (UInt8.ofNat (v / 4096 % 0x10 + 0xE0)) 2 (v / 4096) (v / 64 % 0x40 + 0x80) l := by
  unfold Nat.isValidChar at valid
  have byte : (UInt8.ofNat (v / 4096 % 0x10 + 0xE0)).toNat = v / 4096 + 0xE0 := by
    rw [UInt8.toNat_ofNat']
    omega
  have multibyte := not_lt_of_toNat byte (by omega)
  have lead := lead?_eq (UInt8.ofNat (v / 4096 % 0x10 + 0xE0))
  rw [byte, if_neg (by omega), if_neg (by omega)] at lead
  split at lead
  · refine ⟨_, multibyte, lead, rfl, ?_, ?_, ?_⟩ <;> (simp only [UInt8.reduceToNat]; omega)
  split at lead
  · refine ⟨_, multibyte, lead, rfl, ?_, ?_, ?_⟩ <;> (simp only [UInt8.reduceToNat]; omega)
  · rw [if_pos (by omega)] at lead
    refine ⟨_, multibyte, lead, rfl, ?_, ?_, ?_⟩ <;> (simp only [UInt8.reduceToNat]; omega)

/-- The same at the ends of the planes behind the basic one. -/
lemma exists_leads_four {v : Nat} (low : 0xFFFF < v) (valid : v.isValidChar) :
    ∃ l, Leads (UInt8.ofNat (v / 262144 % 0x08 + 0xF0)) 3 (v / 262144)
      (v / 4096 % 0x40 + 0x80) l := by
  unfold Nat.isValidChar at valid
  have byte : (UInt8.ofNat (v / 262144 % 0x08 + 0xF0)).toNat = v / 262144 + 0xF0 := by
    rw [UInt8.toNat_ofNat']
    omega
  have multibyte := not_lt_of_toNat byte (by omega)
  have lead := lead?_eq (UInt8.ofNat (v / 262144 % 0x08 + 0xF0))
  rw [byte, if_neg (by omega), if_neg (by omega), if_neg (by omega), if_neg (by omega),
    if_neg (by omega)] at lead
  split at lead
  · refine ⟨_, multibyte, lead, rfl, ?_, ?_, ?_⟩ <;> (simp only [UInt8.reduceToNat]; omega)
  split at lead
  · refine ⟨_, multibyte, lead, rfl, ?_, ?_, ?_⟩ <;> (simp only [UInt8.reduceToNat]; omega)
  · rw [if_pos (by omega)] at lead
    refine ⟨_, multibyte, lead, rfl, ?_, ?_, ?_⟩ <;> (simp only [UInt8.reduceToNat]; omega)

/-- The byte behind a lead byte lies in the range that is announced. -/
lemma Leads.within {b : UInt8} {following bits v : Nat} {l : Lead}
    (h : Leads b following bits (v % 0x40 + 0x80) l) :
    (decide (tailByte v < l.low) || decide (l.high < tailByte v)) = false := by
  have low := h.low
  have high := h.high
  simp only [Bool.or_eq_false_iff, decide_eq_false_iff_not, UInt8.lt_iff_toNat_lt, toNat_tailByte]
  omega

section

variable (acc : List (Option Char)) (rest : List UInt8) {b : UInt8} {bits v w x : Nat} {l : Lead}

lemma unitsOnto_two (h : Leads b 1 bits (v % 0x40 + 0x80) l) :
    unitsOnto acc (b :: tailByte v :: rest) =
      unitsOnto (some (Char.ofNat (bits * 64 + v % 64)) :: acc) rest := by
  rw [unitsOnto, if_neg h.multibyte, h.lead]
  simp [h.within, h.following, h.bits]

lemma unitsOnto_three (h : Leads b 2 bits (v % 0x40 + 0x80) l) :
    unitsOnto acc (b :: tailByte v :: tailByte w :: rest) =
      unitsOnto (some (Char.ofNat ((bits * 64 + v % 64) * 64 + w % 64)) :: acc) rest := by
  rw [unitsOnto, if_neg h.multibyte, h.lead]
  simp [h.within, h.following, h.bits, isContinuation_tailByte]

lemma unitsOnto_four (h : Leads b 3 bits (v % 0x40 + 0x80) l) :
    unitsOnto acc (b :: tailByte v :: tailByte w :: tailByte x :: rest) =
      unitsOnto (some (Char.ofNat (((bits * 64 + v % 64) * 64 + w % 64) * 64 + x % 64)) :: acc)
        rest := by
  rw [unitsOnto, if_neg h.multibyte, h.lead]
  simp [h.within, h.following, h.bits, isContinuation_tailByte]

/-- The bytes of a character are read as the character. -/
lemma unitsOnto_encodeChar (c : Char) :
    unitsOnto acc (String.utf8EncodeChar c ++ rest) = unitsOnto (some c :: acc) rest := by
  have whole : Char.ofNat c.val.toNat = c := Char.ofNat_toNat c
  have valid : c.val.toNat.isValidChar := c.valid
  unfold String.utf8EncodeChar
  dsimp only
  by_cases one : c.val.toNat ≤ 0x7F
  · have byte : (UInt8.ofNat c.val.toNat).toNat = c.val.toNat := by
      rw [UInt8.toNat_ofNat']
      omega
    have ascii : UInt8.ofNat c.val.toNat < 0x80 := by
      rw [UInt8.lt_iff_toNat_lt, byte]
      exact Nat.lt_succ_of_le one
    rw [if_pos one, List.singleton_append, unitsOnto, if_pos ascii, byte, whole]
  rw [if_neg one]
  by_cases two : c.val.toNat ≤ 0x7FF
  · obtain ⟨l, leads⟩ := exists_leads_two (Nat.lt_of_not_le one) two
    have bits : c.val.toNat / 64 * 64 + c.val.toNat % 64 = c.val.toNat := by omega
    rw [if_pos two]
    refine (unitsOnto_two acc rest leads).trans ?_
    rw [bits, whole]
  rw [if_neg two]
  by_cases three : c.val.toNat ≤ 0xFFFF
  · obtain ⟨l, leads⟩ := exists_leads_three (Nat.lt_of_not_le two) three valid
    have bits : (c.val.toNat / 4096 * 64 + c.val.toNat / 64 % 64) * 64 + c.val.toNat % 64 =
        c.val.toNat := by
      omega
    rw [if_pos three]
    refine (unitsOnto_three acc rest leads).trans ?_
    rw [bits, whole]
  · obtain ⟨l, leads⟩ := exists_leads_four (Nat.lt_of_not_le three) valid
    have bits : ((c.val.toNat / 262144 * 64 + c.val.toNat / 4096 % 64) * 64 +
        c.val.toNat / 64 % 64) * 64 + c.val.toNat % 64 = c.val.toNat := by
      omega
    rw [if_neg three]
    refine (unitsOnto_four acc rest leads).trans ?_
    rw [bits, whole]

end

/-! ## The bytes of a text -/

@[simp] lemma encodeChars_nil : encodeChars [] = [] := rfl

@[simp] lemma encodeChars_cons (c : Char) (cs : List Char) :
    encodeChars (c :: cs) = String.utf8EncodeChar c ++ encodeChars cs := List.flatMap_cons

@[simp] lemma encodeChars_append (cs ds : List Char) :
    encodeChars (cs ++ ds) = encodeChars cs ++ encodeChars ds := List.flatMap_append

/-- Bytes of characters are read as these characters, without a broken place. -/
lemma units_encodeChars (cs : List Char) : units (encodeChars cs) = cs.map some := by
  have onto : ∀ acc, unitsOnto acc (encodeChars cs) = acc.reverse ++ cs.map some := by
    induction cs with
    | nil => simp [unitsOnto]
    | cons c cs ih => simp [unitsOnto_encodeChar, ih]
  exact onto []

lemma lossy_encodeChars (cs : List Char) : lossy (encodeChars cs) = String.ofList cs := by
  rw [lossy, units_encodeChars, List.map_map]
  exact congrArg String.ofList (List.map_id cs)

lemma decode?_encodeChars (cs : List Char) :
    decode? (encodeChars cs) = some (String.ofList cs) := by
  have all : (cs.map some).mapM id = some cs := by
    induction cs with
    | nil => rfl
    | cons c cs ih => simp [ih]
  rw [decode?, units_encodeChars, all]
  rfl

lemma length_le_of_front {p q : List Char} (h : p <+: q) :
    (encodeChars p).length ≤ (encodeChars q).length := by
  obtain ⟨r, rfl⟩ := h
  simp

/-! ## Zeros -/

/-- Only the zero character has a byte that is zero. -/
lemma ne_zero_of_mem_encodeChar {c : Char} (ne : c ≠ '\x00') :
    ∀ b ∈ String.utf8EncodeChar c, b ≠ 0 := by
  have pos : 0 < c.val.toNat := by
    refine Nat.pos_of_ne_zero fun zero => ne ?_
    rw [← Char.ofNat_toNat c]
    exact congrArg Char.ofNat zero
  have byte : ∀ n, 0 < n → n < 256 → UInt8.ofNat n ≠ 0 := by
    intro n pos lt zero
    have eq := congrArg UInt8.toNat zero
    rw [UInt8.toNat_ofNat_of_lt' lt] at eq
    exact Nat.ne_of_gt pos eq
  have tail : ∀ v, UInt8.ofNat (v % 0x40 + 0x80) ≠ 0 := fun v => byte _ (by omega) (by omega)
  unfold String.utf8EncodeChar
  dsimp only
  split
  · exact List.forall_mem_singleton.2 (byte _ pos (by omega))
  split
  · exact List.forall_mem_cons.2 ⟨byte _ (by omega) (by omega),
      List.forall_mem_singleton.2 (tail _)⟩
  split
  · exact List.forall_mem_cons.2 ⟨byte _ (by omega) (by omega),
      List.forall_mem_cons.2 ⟨tail _, List.forall_mem_singleton.2 (tail _)⟩⟩
  · exact List.forall_mem_cons.2 ⟨byte _ (by omega) (by omega), List.forall_mem_cons.2
      ⟨tail _, List.forall_mem_cons.2 ⟨tail _, List.forall_mem_singleton.2 (tail _)⟩⟩⟩

/-- What stands in front of the first zero byte are the characters in front of the first zero. -/
lemma beforeNul_encodeChars (cs : List Char) (fill : Nat) :
    beforeNul (encodeChars cs ++ List.replicate fill 0) =
      encodeChars (cs.takeWhile (· != '\x00')) := by
  induction cs with
  | nil => simp [beforeNul]
  | cons c cs ih =>
    unfold beforeNul at ih ⊢
    by_cases zero : c = '\x00'
    · subst zero
      rfl
    · have kept : ∀ b ∈ String.utf8EncodeChar c, (b != 0) = true := by
        simpa using ne_zero_of_mem_encodeChar zero
      rw [encodeChars_cons, List.append_assoc, List.takeWhile_append_of_pos kept, ih,
        List.takeWhile_cons_of_pos (by simpa using zero), encodeChars_cons]

lemma encodeChars_zeros (k : Nat) :
    encodeChars (List.replicate k '\x00') = List.replicate k 0 := by
  induction k with
  | zero => rfl
  | succ k ih =>
    rw [List.replicate_succ, List.replicate_succ, encodeChars_cons, ih]
    rfl

/-! ## Fields -/

/-- The field of `n` bytes that holds characters: their bytes, then zeros. -/
def field (n : Nat) (cs : List Char) : List UInt8 :=
  encodeChars cs ++ List.replicate (n - (encodeChars cs).length) 0

/-- What is seen of characters in a field, where a zero ends the text. -/
def seen (cs : List Char) : List Char := cs.takeWhile (· != '\x00')

lemma hostText_field (n : Nat) (cs : List Char) :
    hostText (field n cs) = String.ofList (seen cs) := by
  rw [hostText, field, beforeNul_encodeChars, lossy_encodeChars, seen]

/-- Read to its end, a field has its zeros as characters. -/
lemma decode?_field (n : Nat) (cs : List Char) : decode? (field n cs) =
    some (String.ofList (cs ++ List.replicate (n - (encodeChars cs).length) '\x00')) := by
  rw [field, ← encodeChars_zeros, ← encodeChars_append, decode?_encodeChars]

lemma pad_encodeChars {n : Nat} {cs : List Char} (fits : (encodeChars cs).length ≤ n) :
    pad n (encodeChars cs) = field n cs := by
  rw [pad, field, List.take_of_length_le fits]

lemma length_field {n : Nat} {cs : List Char} (fits : (encodeChars cs).length ≤ n) :
    (field n cs).length = n := by
  rw [← pad_encodeChars fits, length_pad]

/-! ## Cuts -/

/-- The longest prefix of whole characters that fits into `n` bytes. -/
structure IsCut (n : Nat) (cs p : List Char) : Prop where
  front : p <+: cs
  fits : (encodeChars p).length ≤ n
  longest : ∀ q, q <+: cs → (encodeChars q).length ≤ n → q <+: p

variable {n m : Nat} {cs p q : List Char}

lemma isCut_fit (n : Nat) (cs : List Char) : IsCut n cs (fit n cs) := by
  induction cs generalizing n with
  | nil => exact ⟨List.nil_prefix, Nat.zero_le n, fun q front _ => front⟩
  | cons c cs ih =>
    have size : ∀ r, (encodeChars (c :: r)).length = c.utf8Size + (encodeChars r).length := by
      simp
    unfold fit
    by_cases room : c.utf8Size ≤ n
    · obtain ⟨front, fits, longest⟩ := ih (n - c.utf8Size)
      rw [if_pos room]
      refine ⟨List.cons_prefix_cons.2 ⟨rfl, front⟩, ?_, fun q hq short => ?_⟩
      · rw [size]
        omega
      · rcases List.prefix_cons_iff.1 hq with rfl | ⟨r, rfl, hr⟩
        · exact List.nil_prefix
        · rw [size] at short
          exact List.cons_prefix_cons.2 ⟨rfl, longest r hr (by omega)⟩
    · rw [if_neg room]
      refine ⟨List.nil_prefix, Nat.zero_le n, fun q hq short => ?_⟩
      rcases List.prefix_cons_iff.1 hq with rfl | ⟨r, rfl, hr⟩
      · exact List.nil_prefix
      · rw [size] at short
        omega

namespace IsCut

lemma unique (hp : IsCut n cs p) (hq : IsCut n cs q) : p = q :=
  (hq.longest p hp.front hp.fits).eq_of_length_le (hp.longest q hq.front hq.fits).length_le

/-- Of two cuts the second sees what the first has left, and the smaller bound counts. -/
lemma trans (first : IsCut n cs p) (second : IsCut m p q) : IsCut (min n m) cs q := by
  have shorter := length_le_of_front second.front
  have fits := first.fits
  have fits' := second.fits
  refine ⟨second.front.trans first.front, by omega, fun r front short => ?_⟩
  exact second.longest r (first.longest r front (by omega)) (by omega)

/-- Zeros behind a text make no difference to the field that it is cut to. -/
lemma field_eq_of_zeros {k : Nat} (h : IsCut n (cs ++ List.replicate k '\x00') p)
    (bare : IsCut n cs q) : field n p = field n q := by
  rcases List.prefix_or_prefix_of_prefix h.front (List.prefix_append cs _) with inside | beyond
  · have le := bare.longest p inside h.fits
    have ge := h.longest q (bare.front.trans (List.prefix_append cs _)) bare.fits
    rw [le.eq_of_length_le ge.length_le]
  · -- all of the text is there, and some of the zeros
    obtain ⟨zs, rfl⟩ := beyond
    have zeros : zs <+: List.replicate k '\x00' := (List.prefix_append_right_inj cs).1 h.front
    have fits := h.fits
    have room : (encodeChars cs).length ≤ n :=
      Nat.le_trans (length_le_of_front (List.prefix_append cs zs)) fits
    have whole : q = cs := bare.unique ⟨List.prefix_rfl, room, fun r front _ => front⟩
    rw [(List.prefix_replicate_iff.1 zeros).2] at fits ⊢
    rw [encodeChars_append, encodeChars_zeros, List.length_append, List.length_replicate] at fits
    simp only [whole, field, encodeChars_append, encodeChars_zeros, List.append_assoc,
      List.length_append, List.length_replicate, List.replicate_append_replicate]
    congr 2
    omega

end IsCut

end SunSpec.Utf8
