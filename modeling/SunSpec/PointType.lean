/-!
# Point types

The closed set of types that a SunSpec point may declare, with their canonical names and wire
sizes, and `Encoding`: a type together with the declared byte length that only strings carry.

A register is two bytes, so an encoding takes `(size + 1) / 2` registers; only strings of odd
length round up.
-/

namespace SunSpec

/-- A type that a data point may declare. -/
inductive PointType where
  | null
  | int16
  | uint16
  | acc16
  | int32
  | uint32
  | float32
  | acc32
  | int64
  | uint64
  | float64
  | enum16
  | bitfield16
  | bitfield32
  | sunssf
  | string
  | undef
deriving DecidableEq, Repr, Inhabited

namespace PointType

/-- The catalogue of types, in its published order. -/
def all : List PointType :=
  [null, int16, uint16, acc16, int32, uint32, float32, acc32, int64, uint64, float64,
    enum16, bitfield16, bitfield32, sunssf, string, undef]

/-- Wire size in bytes; 0 for strings, whose length each point declares, and for types without a
wire form. -/
def size : PointType → Nat
  | null | string | undef => 0
  | int16 | uint16 | acc16 | enum16 | bitfield16 | sunssf => 2
  | int32 | uint32 | float32 | acc32 | bitfield32 => 4
  | int64 | uint64 | float64 => 8

/-- The lower-case name that model descriptions use. -/
def name : PointType → String
  | null => "null"
  | int16 => "int16"
  | uint16 => "uint16"
  | acc16 => "acc16"
  | int32 => "int32"
  | uint32 => "uint32"
  | float32 => "float32"
  | acc32 => "acc32"
  | int64 => "int64"
  | uint64 => "uint64"
  | float64 => "float64"
  | enum16 => "enum16"
  | bitfield16 => "bitfield16"
  | bitfield32 => "bitfield32"
  | sunssf => "sunssf"
  | string => "string"
  | undef => "undef"

/-- The type of a given name; a name outside the catalogue is `undef`, which readers skip. -/
def ofName (s : String) : PointType :=
  (all.find? fun t => t.name == s).getD undef

/-- A type of one register. -/
def is16Bit (t : PointType) : Bool := t.size == 2

/-- A type of two registers. -/
def is32Bit (t : PointType) : Bool := t.size == 4

/-- A type of four registers, which can be read but not written. -/
def is64Bit (t : PointType) : Bool := t.size == 8

/-- A type without a wire form: its points take no part in reading or writing. -/
def isSkipped : PointType → Bool
  | null | undef => true
  | _ => false

/-- A type that the codec can write. -/
def isEncodable (t : PointType) : Bool := !t.isSkipped && !t.is64Bit

theorem ofName_name (t : PointType) : ofName t.name = t := by
  cases t <;> decide

theorem size_le (t : PointType) : t.size ≤ 8 := by
  cases t <;> decide

theorem isSkipped_iff (t : PointType) : t.isSkipped = true ↔ t = null ∨ t = undef := by
  cases t <;> simp [isSkipped]

end PointType

/-- How a point stands on the wire: its type, and the declared byte length if it is a string. -/
structure Encoding where
  type : PointType
  /-- Declared byte length; it counts for strings only. -/
  len : Option UInt16
deriving DecidableEq, Repr, Inhabited

namespace Encoding

/-- The encoding of a type without a declared length. -/
def plain (t : PointType) : Encoding := ⟨t, none⟩

/-- The encoding of a string of `len` bytes. -/
def string (len : UInt16) : Encoding := ⟨.string, some len⟩

/-- The declared length of a string, 0 where none is declared. -/
def declaredLen (e : Encoding) : UInt16 := e.len.getD 0

/-- Wire size in bytes. -/
def size (e : Encoding) : Nat :=
  match e.type with
  | .string => e.declaredLen.toNat
  | t => t.size

/-- Size in whole registers; an odd byte takes a register of its own. -/
def registers (e : Encoding) : Nat := (e.size + 1) / 2

/-- The name of the type, with the length of a string that declares one. -/
def display (e : Encoding) : String :=
  match e.type, e.len with
  | .string, some n => s!"string({n.toNat})"
  | t, _ => t.name

theorem size_lt (e : Encoding) : e.size < 65536 := by
  unfold size
  split
  · exact e.declaredLen.toNat_lt
  · have := PointType.size_le e.type
    omega

theorem registers_le (e : Encoding) : e.registers ≤ 32768 := by
  have := e.size_lt
  unfold registers
  omega

end Encoding

end SunSpec
