import SunSpec.Codec

/-!
# Registers and bytes

A register is a 16-bit word that travels high byte first. Main statements: bytes made from
registers are read back as the same registers, and an even number of bytes survives the way
through registers.
-/

namespace SunSpec.Registers

/-- The bytes of registers. -/
def toBytes (regs : List UInt16) : List UInt8 := regs.flatMap wordBytes16

/-- The register of two bytes. -/
def ofPair (hi lo : UInt8) : UInt16 := UInt16.ofNat (hi.toNat * 256 + lo.toNat)

/-- `ofBytes` with the registers read so far, latest first. -/
def ofBytesOnto (acc : List UInt16) : List UInt8 → List UInt16
  | hi :: lo :: rest => ofBytesOnto (ofPair hi lo :: acc) rest
  | [hi] => (ofPair hi 0 :: acc).reverse
  | [] => acc.reverse

/-- The registers of bytes; a last odd byte is the high byte of a register of its own. -/
def ofBytes (bs : List UInt8) : List UInt16 := ofBytesOnto [] bs

theorem ofBytesOnto_eq (acc : List UInt16) (bs : List UInt8) :
    ofBytesOnto acc bs = acc.reverse ++ ofBytes bs := by
  have key : ∀ n (acc : List UInt16) (bs : List UInt8), bs.length ≤ n →
      ofBytesOnto acc bs = acc.reverse ++ ofBytesOnto [] bs := by
    intro n
    induction n with
    | zero =>
      intro acc bs h
      obtain rfl : bs = [] := List.eq_nil_of_length_eq_zero (by omega)
      simp [ofBytesOnto]
    | succ n ih =>
      intro acc bs h
      match bs with
      | [] => simp [ofBytesOnto]
      | [hi] => simp [ofBytesOnto]
      | hi :: lo :: rest =>
        simp only [List.length_cons] at h
        rw [ofBytesOnto, ih _ rest (by omega), ofBytesOnto, ih [ofPair hi lo] rest (by omega)]
        simp
  exact key bs.length acc bs (Nat.le_refl _)

@[simp] theorem ofBytes_nil : ofBytes [] = [] := rfl

@[simp] theorem ofBytes_singleton (hi : UInt8) : ofBytes [hi] = [ofPair hi 0] := rfl

@[simp] theorem ofBytes_cons_cons (hi lo : UInt8) (rest : List UInt8) :
    ofBytes (hi :: lo :: rest) = ofPair hi lo :: ofBytes rest := by
  rw [ofBytes, ofBytesOnto, ofBytesOnto_eq]
  rfl

@[simp] theorem toBytes_nil : toBytes [] = [] := rfl

@[simp] theorem toBytes_cons (r : UInt16) (regs : List UInt16) :
    toBytes (r :: regs) = wordBytes16 r ++ toBytes regs := rfl

@[simp] theorem length_toBytes (regs : List UInt16) : (toBytes regs).length = 2 * regs.length := by
  induction regs with
  | nil => rfl
  | cons r regs ih =>
    simp only [toBytes_cons, List.length_append, ih, List.length_cons]
    simp only [wordBytes16, List.length_cons, List.length_nil]
    omega

theorem ofPair_word (w : UInt16) :
    ofPair (UInt8.ofNat (w.toNat / 256)) (UInt8.ofNat (w.toNat % 256)) = w := by
  have h := w.toNat_lt
  apply UInt16.toNat_inj.mp
  simp only [ofPair, UInt16.toNat_ofNat', UInt8.toNat_ofNat']
  omega

theorem ofBytes_toBytes (regs : List UInt16) : ofBytes (toBytes regs) = regs := by
  induction regs with
  | nil => rfl
  | cons r regs ih => simp [wordBytes16, ofPair_word, ih]

theorem toBytes_ofBytes (bs : List UInt8) (h : bs.length % 2 = 0) : toBytes (ofBytes bs) = bs := by
  have key : ∀ n (bs : List UInt8), bs.length ≤ n → bs.length % 2 = 0 →
      toBytes (ofBytes bs) = bs := by
    intro n
    induction n with
    | zero =>
      intro bs h _
      obtain rfl : bs = [] := List.eq_nil_of_length_eq_zero (by omega)
      rfl
    | succ n ih =>
      intro bs h h2
      match bs with
      | [] => rfl
      | [hi] => simp at h2
      | hi :: lo :: rest =>
        simp only [List.length_cons] at h h2
        have hhi := hi.toNat_lt
        have hlo := lo.toNat_lt
        rw [ofBytes_cons_cons, toBytes_cons, ih rest (by omega) (by omega)]
        simp only [wordBytes16, ofPair, UInt16.toNat_ofNat', List.cons_append, List.nil_append,
          List.cons.injEq, and_true]
        constructor <;> apply UInt8.toNat_inj.mp <;> simp only [UInt8.toNat_ofNat'] <;> omega
  exact key bs.length bs (Nat.le_refl _) h

end SunSpec.Registers
