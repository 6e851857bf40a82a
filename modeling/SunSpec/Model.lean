import SunSpec.Fault

/-!
# Models

A model describes one kind of data block on a device: blocks of named points, of which the last
may repeat. Offsets are register numbers relative to the model header, counted from 1, so that the
first data register has offset 3.

A model keeps two lengths in registers: `baseLen` up to the repeating block and `len` with one
instance of it. They are equal when nothing repeats, and `checkLength?` reads a declared length
against them. Nothing in the type keeps them in order, and a negative difference of registers is
the end of the program: what subtracts them has no result then, which a `?` in its name tells.
-/

namespace SunSpec

/-- Registers in front of the data of a model: its id and its length. -/
def headerRegisters : Nat := 2

/-- Bytes in front of the data of a model. -/
def headerBytes : Nat := 2 * headerRegisters

/-- Offset of the first data register. -/
def firstDataOffset : Nat := headerRegisters + 1

/-- A name for a value of an enumeration or for flags of a bit field. -/
structure Define where
  name : String
  value : UInt32
deriving DecidableEq, Repr

/-- A named field of a block. -/
structure Point where
  name : String
  encoding : Encoding
  /-- Register offset within the model; layout fills it in where none is given. -/
  offset : Option UInt16
  defines : List Define
deriving DecidableEq, Repr

namespace Point

/-- A point without an offset and without defines. -/
def ofEncoding (name : String) (e : Encoding) : Point := ⟨name, e, none, []⟩

/-- Wire size in bytes. -/
def size (p : Point) : Nat := p.encoding.size

/-- Size in whole registers. -/
def registers (p : Point) : Nat := p.encoding.registers

/-- A point without a wire form. -/
def isSkipped (p : Point) : Bool := p.encoding.type.isSkipped

/-- The first define of a value. -/
def enumLabel? (p : Point) (value : UInt32) : Option Define :=
  p.defines.find? fun d => d.value == value

/-- The defines that share a bit with a value, in their order. -/
def bitLabels (p : Point) (value : UInt32) : List Define :=
  p.defines.filter fun d => d.value &&& value != 0

end Point

/-- An ordered group of points. -/
structure Block where
  points : List Point
  repeating : Bool
  /-- Registers of one instance, as layout found them. -/
  len : UInt16
  /-- Offset of the first register, as layout found it. -/
  start : UInt16
deriving DecidableEq, Repr

namespace Block

/-- A block that has not been laid out. -/
def ofPoints (points : List Point) (repeating : Bool) : Block := ⟨points, repeating, 0, 0⟩

/-- A block without points. -/
def isEmpty (b : Block) : Bool := b.points.isEmpty

/-- Bytes of one instance. -/
def unit (b : Block) : Nat := 2 * b.len.toNat

/-- Byte position of a point within an instance. A point that has no offset follows the field
before it, which ends at `cursor`. -/
def positionOf (b : Block) (p : Point) (cursor : Nat) : Nat :=
  match p.offset with
  | some o => 2 * (o.toNat - b.start.toNat)
  | none => cursor

end Block

/-- The description of one kind of data block. -/
structure Model where
  blocks : List Block
  /-- Registers in front of the repeating block. -/
  baseLen : UInt16
  /-- `baseLen` and one instance of the repeating block. -/
  len : UInt16
deriving DecidableEq, Repr

/-! ## Arithmetic of registers -/

namespace Registers

/-- A difference of registers, where it is not negative. -/
def sub? (a b : UInt16) : Option UInt16 := if b ≤ a then some (a - b) else none

/-- A remainder of registers, where the divisor is not zero. -/
def mod? (a b : UInt16) : Option UInt16 := if b = 0 then none else some (a % b)

end Registers

/-! ## Models -/

namespace Model

/-- A model that has not been laid out. -/
def ofBlocks (blocks : List Block) : Model := ⟨blocks, 0, 0⟩

/-- A model without data registers. -/
def isEmpty (m : Model) : Bool := m.len == 0

/-- The two lengths differ exactly when something repeats. -/
def hasRepeating (m : Model) : Bool := m.baseLen != m.len

/-- Registers of one instance of the repeating block, 0 where nothing repeats. -/
def repeatLen? (m : Model) : Option UInt16 := Registers.sub? m.len m.baseLen

/-- `repeatLen?` of a model whose lengths are in order, as every layout that is accepted leaves
them. -/
def repeatLen (m : Model) : UInt16 := m.repeatLen?.getD 0

theorem repeatLen_of_le {m : Model} (ordered : m.baseLen ≤ m.len) :
    m.repeatLen = m.len - m.baseLen := by
  rw [repeatLen, repeatLen?, Registers.sub?, if_pos ordered]
  rfl

theorem repeatLen?_of_le {m : Model} (ordered : m.baseLen ≤ m.len) :
    m.repeatLen? = some m.repeatLen := by
  rw [repeatLen_of_le ordered]
  exact if_pos ordered

theorem repeatLen?_of_not_le {m : Model} (disordered : ¬ m.baseLen ≤ m.len) :
    m.repeatLen? = none := if_neg disordered

/-- The model with another block behind its last. -/
def addBlock (m : Model) (b : Block) : Model := { m with blocks := m.blocks ++ [b] }

/-- The model with another point at the end of block `i`. -/
def addPoint (m : Model) (i : Nat) (p : Point) : Model :=
  { m with blocks := m.blocks.modify i fun b => { b with points := b.points ++ [p] } }

/-- The model with block `i` repeating if it did not, and the other way round. -/
def toggleRepeating (m : Model) (i : Nat) : Model :=
  { m with blocks := m.blocks.modify i fun b => { b with repeating := !b.repeating } }

/-- All points, in block order. -/
def points (m : Model) : List Point := m.blocks.flatMap (·.points)

/-- The first point of a name. -/
def point? (m : Model) (name : String) : Option Point := m.points.find? fun p => p.name == name

/-- The fault of a declared length that this model cannot have. -/
def checkLength? (m : Model) (id declared : UInt16) : Option (Option Fault) :=
  if m.hasRepeating then do
    let unit ← m.repeatLen?
    -- a length below that of the fixed blocks is looked at, and not subtracted from
    let whole ← match Registers.sub? declared m.baseLen with
      | none => some false
      | some behind => (Registers.mod? behind unit).map (· == 0)
    return if whole then none else some (.lengthMismatch id declared
      s!"expected {m.baseLen.toNat} plus a multiple of {unit.toNat}")
  else return if declared = m.len then none else some (.lengthMismatch id declared
    s!"model defines {m.len.toNat}")

/-- `checkLength?` of a model whose lengths are in order. -/
def checkLength (m : Model) (id declared : UInt16) : Option Fault :=
  (m.checkLength? id declared).join

end Model

end SunSpec
