import SunSpec.Model

/-!
# Layout

One pass over a model that gives every point its register offset and every block its start and
length. A point follows the one before it unless its offset is explicit; a block starts where the
one before it ended. `Model.resolve` returns the model as far as the pass came, the remarks made on
the way, and the fault that stopped it, if one did.

A stopped pass leaves behind what it had filled in: the offsets of the points and the lengths of
the blocks in front of the fault. The two lengths of the model are set at the end, `baseLen` first.
-/

namespace SunSpec

/-- Something that a layout pass noticed and went past. -/
inductive Remark where
  /-- An explicit offset differs from the running one. -/
  | overridden (point : String) (offset : UInt16) (running : Nat)
  /-- A string whose last register is only half used. -/
  | oddString (point : String) (len : Nat)
deriving DecidableEq, Repr

namespace Remark

/-- The warning of a remark that deserves one. -/
def warning? : Remark → Option Diagnostic
  | overridden .. => none
  | oddString point len => some (.warning .definition
      s!"datapoint {point} is a string of odd length {len}; rounding up to whole register")

end Remark

namespace Layout

/-- A register number or length, which must fit 16 bits. -/
def register (model : String) (n : Nat) : Except Fault UInt16 :=
  if n < 65536 then .ok (UInt16.ofNat n) else .error (.beyondRegisterSpace model n)

/-- The remark on a string of odd length. -/
def oddRemarks (p : Point) : List Remark :=
  if p.encoding.type = .string ∧ p.size % 2 ≠ 0 then [.oddString p.name p.size] else []

/-- A point with its offset, the offset behind it, and what was noticed. -/
structure Placed where
  point : Point
  next : Nat
  remarks : List Remark
deriving DecidableEq, Repr

/-- The place of one point of the block that starts at `start`, where `counter` is the offset
behind the point before it. -/
def placePoint (model : String) (start counter : Nat) (p : Point) : Except Fault Placed :=
  match p.offset with
  | some o =>
    if o.toNat < start then .error (.offsetBeforeBlock model p.name o start)
    else
      let moved := if o.toNat = counter then [] else [.overridden p.name o counter]
      .ok ⟨p, o.toNat + p.registers, moved ++ oddRemarks p⟩
  | none =>
    (register model counter).map fun o =>
      ⟨{ p with offset := some o }, counter + p.registers, oddRemarks p⟩

/-- How far a pass over points or blocks came. -/
structure Pass (α : Type) where
  items : List α
  next : Nat
  remarks : List Remark
  fault : Option Fault
deriving DecidableEq, Repr

/-- The places of the points of a block. -/
def placePoints (model : String) (start : Nat) : Nat → List Point → Pass Point
  | counter, [] => ⟨[], counter, [], none⟩
  | counter, p :: ps =>
    match placePoint model start counter p with
    | .error f => ⟨p :: ps, counter, [], some f⟩
    | .ok placed =>
      let rest := placePoints model start placed.next ps
      ⟨placed.point :: rest.items, rest.next, placed.remarks ++ rest.remarks, rest.fault⟩

/-- A block, the offset behind it, what was noticed, and the fault that stopped it. -/
structure BlockPass where
  block : Block
  next : Nat
  remarks : List Remark
  fault : Option Fault
deriving DecidableEq, Repr

/-- The place of the block that starts at `counter`. -/
def placeBlock (model : String) (counter : Nat) (b : Block) : BlockPass :=
  match register model counter with
  | .error f => ⟨b, counter, [], some f⟩
  | .ok start =>
    let pass := placePoints model counter counter b.points
    let filled := { b with start, points := pass.items }
    match pass.fault with
    | some f => ⟨filled, pass.next, pass.remarks, some f⟩
    | none =>
      match register model (pass.next - counter) with
      | .error f => ⟨filled, pass.next, pass.remarks, some f⟩
      | .ok len => ⟨{ filled with len }, pass.next, pass.remarks, none⟩

/-- The places of all blocks from `counter` on. -/
def placeBlocks (model : String) : Nat → List Block → Pass Block
  | counter, [] => ⟨[], counter, [], none⟩
  | counter, b :: bs =>
    let head := placeBlock model counter b
    match head.fault with
    | some f => ⟨head.block :: bs, head.next, head.remarks, some f⟩
    | none =>
      let rest := placeBlocks model head.next bs
      ⟨head.block :: rest.items, rest.next, head.remarks ++ rest.remarks, rest.fault⟩

/-- Registers of all blocks together. -/
def totalLen (bs : List Block) : Nat := (bs.map fun b => b.len.toNat).foldr (· + ·) 0

/-- The first repeating block that is not the last. -/
def misplaced? (bs : List Block) : Option Nat := bs.dropLast.findIdx? (·.repeating)

end Layout

/-- What a layout pass over a model came to. -/
structure Resolution where
  model : Model
  remarks : List Remark
  fault : Option Fault
deriving DecidableEq, Repr

namespace Resolution

/-- The warnings of a pass. -/
def warnings (r : Resolution) : List Diagnostic := r.remarks.filterMap Remark.warning?

/-- The warnings of a pass that reached the end, or what stopped it. -/
def result (r : Resolution) : Except Fault (List Diagnostic) :=
  match r.fault with
  | some f => .error f
  | none => .ok r.warnings

end Resolution

/-- Lay a model out, under the name that faults report. -/
def Model.resolve (name : String) (m : Model) : Resolution :=
  match Layout.misplaced? m.blocks with
  | some block => ⟨m, [], some (.ordering name block m.blocks.length)⟩
  | none =>
    let pass := Layout.placeBlocks name firstDataOffset m.blocks
    let filled := { m with blocks := pass.items }
    match pass.fault with
    | some f => ⟨filled, pass.remarks, some f⟩
    | none =>
      match Layout.register name (Layout.totalLen (pass.items.filter (!·.repeating))) with
      | .error f => ⟨filled, pass.remarks, some f⟩
      | .ok baseLen =>
        match Layout.register name (Layout.totalLen pass.items) with
        | .error f => ⟨{ filled with baseLen }, pass.remarks, some f⟩
        | .ok len => ⟨{ filled with baseLen, len }, pass.remarks, none⟩

end SunSpec
