import SunSpec.Chain
import SunSpec.DataBlock

/-!
# Register tables

The registers that a device shows from its base on: the signature, the instances that were pushed,
and the end marker. A finished table lies inside the address space, and answers a read only where
all of its registers belong to the table.
-/

namespace SunSpec

/-- The registers of a device, rooted at its base register. -/
structure RegisterTable where
  base : UInt16
  image : Array UInt16
  one_le_base : 1 ≤ base.toNat
  fits : base.toNat + image.size ≤ lastRegister + 1
deriving DecidableEq

/-- A table in the making. -/
structure TableDraft where
  base : UInt16
  image : Array UInt16
deriving DecidableEq, Repr

namespace TableDraft

/-- A table that holds the signature alone. -/
def start (base : UInt16) : TableDraft := ⟨base, signature.toArray⟩

/-- Registers behind what is there. -/
def push (t : TableDraft) (regs : List UInt16) : TableDraft := { t with image := t.image ++ regs }

/-- The register that comes next. -/
def next (t : TableDraft) : Nat := t.base.toNat + t.image.size

/-- The instance that a data block describes, behind what is there. -/
def pushBlock (t : TableDraft) (registry : Registry) (d : DataBlock) : Except Fault TableDraft := do
  let e ← registry.get d.modelId
  return t.push (← d.encode e)

/-- The table, closed by the end marker. -/
def finish (t : TableDraft) : Except Fault RegisterTable :=
  let image := t.image ++ chainEnd
  if h : 1 ≤ t.base.toNat ∧ t.base.toNat + image.size ≤ lastRegister + 1 then
    .ok ⟨t.base, image, h.1, h.2⟩
  else .error (.imageTooLong t.base image.size)

end TableDraft

namespace RegisterTable

/-- The table of data blocks, in their order. -/
def ofBlocks (registry : Registry) (base : UInt16) (ds : List DataBlock) :
    Except Fault RegisterTable := do
  let draft ← ds.foldlM (fun t d => t.pushBlock registry d) (TableDraft.start base)
  draft.finish

/-- The number of registers, signature and end marker included. -/
def size (t : RegisterTable) : Nat := t.image.size

/-- The registers in address order. -/
def registers (t : RegisterTable) : List UInt16 := t.image.toList

/-- Each register with its number, in address order. -/
def numbered (t : RegisterTable) : List (Nat × UInt16) :=
  t.registers.zipIdx.map fun (v, i) => (t.base.toNat + i, v)

/-- The registers from a protocol address on; addresses are counted from 0. -/
def read (t : RegisterTable) (address count : UInt16) : Except Fault (List UInt16) :=
  let start := t.base.toNat - 1
  let stop := address.toNat + count.toNat
  if address.toNat < start ∨ start + t.size < stop then
    .error (.illegalAddress address.toNat count.toNat)
  else .ok (t.image.extract (address.toNat - start) (stop - start)).toList

end RegisterTable

end SunSpec
