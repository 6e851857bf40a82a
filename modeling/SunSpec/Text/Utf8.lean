/-!
# UTF-8 text

Text as bytes and back. `units` reads a byte list as a list of characters and broken places, one
broken place for each longest prefix that could still have begun a character; `lossy` shows every
broken place as U+FFFD and `decode?` refuses them. `fit` cuts text to a number of bytes without
cutting a character.
-/

namespace SunSpec.Utf8

/-- The bytes of a list of characters. -/
def encodeChars (cs : List Char) : List UInt8 := cs.flatMap String.utf8EncodeChar

/-- The bytes of a text. -/
def encode (s : String) : List UInt8 := encodeChars s.toList

/-- The character that stands for a broken place. -/
def replacement : Char := '\ufffd'

/-- What the first byte of a character announces: how many bytes follow, the range that the
second byte must lie in, and the value of its own payload bits. -/
structure Lead where
  following : Nat
  low : UInt8
  high : UInt8
  bits : Nat

/-- The announcement of a byte above 0x7F, if it can begin a character. The narrowed ranges keep
out overlong forms, surrogates and values past U+10FFFF. -/
def lead? (b : UInt8) : Option Lead :=
  if b < 0xC2 then none
  else if b < 0xE0 then some ⟨1, 0x80, 0xBF, b.toNat - 0xC0⟩
  else if b = 0xE0 then some ⟨2, 0xA0, 0xBF, 0⟩
  else if b = 0xED then some ⟨2, 0x80, 0x9F, 0xD⟩
  else if b < 0xF0 then some ⟨2, 0x80, 0xBF, b.toNat - 0xE0⟩
  else if b = 0xF0 then some ⟨3, 0x90, 0xBF, 0⟩
  else if b < 0xF4 then some ⟨3, 0x80, 0xBF, b.toNat - 0xF0⟩
  else if b = 0xF4 then some ⟨3, 0x80, 0x8F, 4⟩
  else none

/-- A byte that continues a character. -/
def isContinuation (b : UInt8) : Bool := 0x80 ≤ b && b ≤ 0xBF

/-- Payload bits of a continuation byte below those already read. -/
def extend (bits : Nat) (b : UInt8) : Nat := bits * 64 + (b.toNat - 0x80)

/-- `units` with the units read so far, latest first. -/
def unitsOnto (acc : List (Option Char)) : List UInt8 → List (Option Char)
  | [] => acc.reverse
  | b0 :: r0 =>
    if b0 < 0x80 then unitsOnto (some (Char.ofNat b0.toNat) :: acc) r0
    else match lead? b0 with
      | none => unitsOnto (none :: acc) r0
      | some l =>
        match r0 with
        | [] => (none :: acc).reverse
        | b1 :: r1 =>
          if b1 < l.low || l.high < b1 then unitsOnto (none :: acc) (b1 :: r1)
          else if l.following = 1 then
            unitsOnto (some (Char.ofNat (extend l.bits b1)) :: acc) r1
          else match r1 with
            | [] => (none :: acc).reverse
            | b2 :: r2 =>
              if !isContinuation b2 then unitsOnto (none :: acc) (b2 :: r2)
              else if l.following = 2 then
                unitsOnto (some (Char.ofNat (extend (extend l.bits b1) b2)) :: acc) r2
              else match r2 with
                | [] => (none :: acc).reverse
                | b3 :: r3 =>
                  if !isContinuation b3 then unitsOnto (none :: acc) (b3 :: r3)
                  else
                    unitsOnto
                      (some (Char.ofNat (extend (extend (extend l.bits b1) b2) b3)) :: acc) r3

/-- The characters and the broken places of a byte list, in order. -/
def units (bs : List UInt8) : List (Option Char) := unitsOnto [] bs

/-- The text of a byte list, with U+FFFD for every broken place. -/
def lossy (bs : List UInt8) : String :=
  String.ofList ((units bs).map fun u => u.getD replacement)

/-- The text of a byte list that has no broken place. -/
def decode? (bs : List UInt8) : Option String :=
  ((units bs).mapM id).map String.ofList

/-- The longest prefix of whole characters that fits into `n` bytes. -/
def fit : Nat → List Char → List Char
  | _, [] => []
  | n, c :: cs => if c.utf8Size ≤ n then c :: fit (n - c.utf8Size) cs else []

/-- Cut to `n` bytes, or fill up with zero bytes. -/
def pad (n : Nat) (bs : List UInt8) : List UInt8 :=
  bs.take n ++ List.replicate (n - bs.length) 0

theorem length_pad (n : Nat) (bs : List UInt8) : (pad n bs).length = n := by
  simp [pad]
  omega

/-- The bytes before the first zero byte. -/
def beforeNul (bs : List UInt8) : List UInt8 := bs.takeWhile (· != 0)

/-- The text of a fixed-width string field: what stands before the first zero byte. -/
def hostText (bs : List UInt8) : String := lossy (beforeNul bs)

end SunSpec.Utf8
