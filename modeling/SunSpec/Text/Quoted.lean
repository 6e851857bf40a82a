import SunSpec.Text.Hex
import SunSpec.Text.Printable

/-!
# Quoted text

How a diagnostic quotes a text or a character, so that no character is lost to the eye: the
quotation mark in use and the backslash are escaped, tab, line feed, carriage return and zero have
their letters, and every other character that cannot be seen on its own is written by number.
-/

namespace SunSpec.Quoted

/-- A character by number: `\\u`, then its hexadecimal digits in braces. -/
def byNumber (c : Char) : List Char :=
  ['\\', 'u', '\x7b'] ++ Nat.toDigits 16 c.toNat ++ ['\x7d']

/-- The quoted form of one character between marks `mark`. -/
def escape (mark c : Char) : List Char :=
  if c = '\x00' then ['\\', '0']
  else if c = '\t' then ['\\', 't']
  else if c = '\n' then ['\\', 'n']
  else if c = '\r' then ['\\', 'r']
  else if c = '\\' || c = mark then ['\\', c]
  else if isGraphemeExtend c || !isPrintable c then byNumber c
  else [c]

/-- A text between double quotation marks. -/
def text (s : String) : String :=
  String.ofList ('"' :: s.toList.flatMap (escape '"') ++ ['"'])

/-- A character between single quotation marks. -/
def char (c : Char) : String :=
  String.ofList ('\'' :: escape '\'' c ++ ['\''])

end SunSpec.Quoted
