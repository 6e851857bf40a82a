import SunSpec.PointType
import SunSpec.Text.Hex
import SunSpec.Text.Quoted

/-!
# Faults and diagnostics

What can go wrong, as causes. Every fault belongs to a `FaultKind`; the kind decides the severity,
and so whether the work at hand must stop. A `Diagnostic` is a problem that was noted while the
work went on.
-/

namespace SunSpec

/-- How far a fault or a diagnostic may spread. -/
inductive Severity where
  /-- It is noted and the work goes on. -/
  | warning
  /-- It ends the work at hand. -/
  | fatal
deriving DecidableEq, Repr

/-- The word for a severity. -/
def Severity.name : Severity → String
  | warning => "warning"
  | fatal => "fatal"

/-- The kinds of faults and diagnostics. -/
inductive FaultKind where
  | io
  | protocol
  | unknownModel
  | lengthMismatch
  | truncation
  | unsupportedType
  | ordering
  | typeMismatch
  | insufficientSpace
  | definition
  /-- A payload that ends before every block was read. -/
  | overrun
deriving DecidableEq, Repr

/-- Four kinds leave the rest of a device readable. -/
def FaultKind.severity : FaultKind → Severity
  | unknownModel | lengthMismatch | truncation | overrun => .warning
  | _ => .fatal

/-- The causes of failure. -/
inductive Fault where
  /-- The link to a device failed. -/
  | io (detail : String)
  /-- The other side of the link broke the rules in a way that has no cause of its own here. -/
  | protocol (detail : String)
  /-- No candidate register holds the signature. -/
  | signatureNotFound (candidates : List UInt16)
  /-- Zero stands where a model id or the end marker belongs. -/
  | missingEndMarker (register : Nat)
  /-- A read gave another number of registers than was asked for. -/
  | shortRead (register wanted got : Nat)
  /-- A register without an address. -/
  | outsideAddressSpace (register : Nat)
  /-- A header whose model would end past the address space. -/
  | modelTooLong (id : UInt16) (register : Nat) (length : UInt16)
  /-- A read outside a register table. -/
  | illegalAddress (address count : Nat)
  /-- A register image that ends past the address space. -/
  | imageTooLong (base : UInt16) (registers : Nat)
  /-- A description file that cannot be read as text. -/
  | unreadableFile (path why : String)
  /-- No model of this id is registered. -/
  | unknownModel (id : UInt16)
  /-- The declared length does not fit the model. -/
  | lengthMismatch (id declared : UInt16) (expected : String)
  /-- Fewer bytes than the field takes. -/
  | truncated (needed available : Nat)
  /-- A type that the codec does not handle. -/
  | unsupportedType (type : PointType)
  /-- A repeating block stands before the last block. -/
  | ordering (model : String) (block blocks : Nat)
  /-- A value of another type than was asked for. -/
  | typeMismatch (expected actual : PointType)
  /-- Less room than the value takes. -/
  | insufficientSpace (needed available : Nat)
  /-- A description is wrong in a way that has no cause of its own here. -/
  | definition (detail : String)
  /-- A description document that is not of the expected form. -/
  | malformedDocument (detail : String)
  /-- A model id that is already taken. -/
  | duplicateModel (id : UInt16) (name existing : String)
  /-- A type name outside the catalogue. -/
  | unknownType (model point type : String)
  /-- A string point without a declared length. -/
  | missingLength (model point : String)
  /-- An explicit offset in front of the block of its point. -/
  | offsetBeforeBlock (model point : String) (offset : UInt16) (start : Nat)
  /-- An offset or a length past 65535. -/
  | beyondRegisterSpace (model : String) (value : Nat)
  /-- So many repeats that their registers cannot be counted in 64 bits. -/
  | tooManyRepeats (block : String) (repeats : Nat)
  /-- More payload registers than a header can declare. -/
  | tooManyRegisters (block : String) (registers : Nat)
  /-- A value for a point that the model does not have. -/
  | noSuchPoint (block model point : String)
  /-- A raw image that is not hexadecimal. -/
  | badImage (block : String) (why : Hex.Fault)
  /-- A literal, here in quoted form, that the encoding of its point does not admit. -/
  | invalidLiteral (point literal : String) (encoding : Encoding)
deriving DecidableEq, Repr

namespace Fault

/-- The kind of a fault. -/
def kind : Fault → FaultKind
  | io _ | shortRead .. | unreadableFile .. => .io
  | protocol _ | signatureNotFound _ | missingEndMarker _ | outsideAddressSpace _
  | modelTooLong .. | illegalAddress .. | imageTooLong .. => .protocol
  | unknownModel _ => .unknownModel
  | lengthMismatch .. => .lengthMismatch
  | truncated .. => .truncation
  | unsupportedType _ => .unsupportedType
  | ordering .. => .ordering
  | typeMismatch .. => .typeMismatch
  | insufficientSpace .. => .insufficientSpace
  | definition _ | malformedDocument _ | duplicateModel .. | unknownType .. | missingLength ..
  | offsetBeforeBlock .. | beyondRegisterSpace .. | tooManyRepeats .. | tooManyRegisters ..
  | noSuchPoint .. | badImage .. | invalidLiteral .. => .definition

/-- The severity of a fault is that of its kind. -/
def severity (f : Fault) : Severity := f.kind.severity

/-- A fault that ends the work at hand. -/
def isFatal (f : Fault) : Bool := f.severity = .fatal

/-- Numbers between brackets, with commas. -/
def listText (ns : List UInt16) : String :=
  "[" ++ ", ".intercalate (ns.map fun n => toString n.toNat) ++ "]"

/-- Why a hexadecimal image cannot be read. -/
def hexText : Hex.Fault → String
  | .oddLength => "Odd number of digits"
  | .badDigit b i => s!"Invalid character {Quoted.char (Char.ofNat b.toNat)} at position {i}"

/-- What went wrong, without the words for its kind. -/
def detail : Fault → String
  | io d | protocol d | definition d => d
  | signatureNotFound cs => s!"SunSpec signature not found at registers {listText cs}"
  | missingEndMarker r =>
    s!"found 0x0000 at register {r} where a model id or end marker was expected"
  | shortRead r wanted got => s!"short read at register {r}: wanted {wanted}, got {got}"
  | outsideAddressSpace r => s!"register {r} is outside the Modbus address space"
  | modelTooLong id r n =>
    s!"model {id.toNat} at register {r} declares length {n.toNat} past the address space"
  | illegalAddress a n => s!"illegal data address {a} (count {n})"
  | imageTooLong base n =>
    s!"register image at base {base.toNat} with {n} registers does not fit the address space"
  | unreadableFile path why => s!"{path}: {why}"
  | unknownModel id => toString id.toNat
  | lengthMismatch id declared expected =>
    s!"Length mismatch for model {id.toNat}: declared {declared.toNat} registers, {expected}"
  | truncated needed available =>
    s!"needed {needed} bytes, only {available} available"
  | unsupportedType t => t.name
  | ordering model block blocks =>
    s!"Ordering error in model {model}: repeating block {block} is not the last of {blocks}"
  | typeMismatch expected actual => s!"expected {expected.name}, got {actual.name}"
  | insufficientSpace needed available =>
    s!"{needed} bytes required, {available} available"
  | malformedDocument d => s!"YAML error: {d}"
  | duplicateModel id name existing =>
    s!"model id {id.toNat} ({name}) already defined as {existing}"
  | unknownType model point type => s!"{model}.{point}: unknown type '{type}'"
  | missingLength model point => s!"{model}.{point}: string without a length"
  | offsetBeforeBlock model point offset start =>
    s!"{model}.{point}: explicit offset {offset.toNat} precedes block start {start}"
  | beyondRegisterSpace model value =>
    s!"model {model} exceeds the 16-bit register space ({value})"
  | tooManyRepeats block repeats =>
    s!"data block {block} repeats {repeats} times, beyond the register space"
  | tooManyRegisters block registers => s!"data block {block} needs {registers} registers"
  | noSuchPoint block model point =>
    s!"data block {block}: model {model} has no point {point}"
  | badImage block why => s!"data block {block}: bad hex image: {hexText why}"
  | invalidLiteral point literal encoding =>
    s!"point {point}: {literal} is not a valid {encoding.display}"

/-- The words in front of a detail; two causes name their kind in the detail itself. -/
def heading (f : Fault) : String :=
  match f.kind with
  | .io => "IO error: "
  | .protocol => "Protocol error: "
  | .unknownModel => "Unknown model id: "
  | .truncation => "Truncated data: "
  | .unsupportedType => "Unsupported type: "
  | .typeMismatch => "Type mismatch: "
  | .insufficientSpace => "Insufficient space: "
  | .definition => "Definition error: "
  | .lengthMismatch | .ordering | .overrun => ""

/-- The message of a fault. -/
def message (f : Fault) : String := f.heading ++ f.detail

end Fault

/-- A problem that was noted while the work went on. -/
structure Diagnostic where
  kind : FaultKind
  severity : Severity
  message : String
deriving DecidableEq, Repr

namespace Diagnostic

/-- A warning of a given kind. -/
def warning (kind : FaultKind) (message : String) : Diagnostic := ⟨kind, .warning, message⟩

/-- A fault that is noted instead of raised. -/
def ofFault (f : Fault) : Diagnostic := ⟨f.kind, f.severity, f.message⟩

/-- The line that shows a diagnostic. -/
def display (d : Diagnostic) : String := s!"[{d.severity.name}] {d.message}"

end Diagnostic

end SunSpec
