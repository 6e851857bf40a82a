import SunSpec.RegisterTable

/-!
# Dumps

Bytes as lines of sixteen with their offset, and the registers of a table one to a line.
-/

namespace SunSpec.Dump

/-- A text filled up with spaces on the left. -/
def right (width : Nat) (s : String) : String := String.ofList (s.toList.leftpad width ' ')

/-- A text filled up with spaces on the right. -/
def left (width : Nat) (s : String) : String := String.ofList (s.toList.rightpad width ' ')

/-- How many bytes a line shows. -/
def lineBytes : Nat := 16

/-- The line of the bytes at an offset. -/
def line (offset : Nat) (bytes : List UInt8) : String :=
  "  " ++ Hex.padded 4 offset ++ ": " ++
    " ".intercalate (bytes.map fun b => Hex.padded 2 b.toNat) ++ "\n"

/-- The lines of bytes from an offset on, behind those made so far, the latest first. -/
def linesOnto (acc : List String) (offset : Nat) (bytes : List UInt8) : List String :=
  match bytes with
  | [] => acc.reverse
  | b :: rest =>
    linesOnto (line offset ((b :: rest).take lineBytes) :: acc) (offset + lineBytes)
      (rest.drop (lineBytes - 1))
termination_by bytes.length
decreasing_by simp only [List.length_drop, List.length_cons, lineBytes]; omega

/-- Bytes as lines. -/
def bytes (bs : List UInt8) : String := String.join (linesOnto [] 0 bs)

/-- A register as a line: its number, and its value in hexadecimal and in decimal. -/
def register (number : Nat) (value : UInt16) : String :=
  right 5 (toString number) ++ "  0x" ++ Hex.padded 4 value.toNat ++ "  " ++
    right 5 (toString value.toNat) ++ "\n"

/-- The registers of a table as lines. -/
def table (t : RegisterTable) : String :=
  String.join (t.numbered.map fun (number, value) => register number value)

end SunSpec.Dump
