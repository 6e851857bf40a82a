import SunSpec.Journal.Building
import SunSpec.Report

/-!
# What the journal says of a scan

The entries that tell how the signature was looked for and how the chain was walked, as views of
the probes and visits of the scan, and those of a report that looks up names of values.
-/

namespace SunSpec.Journal

/-! ## The search -/

/-- Registers as hexadecimal numbers between brackets. -/
def hexWords (width : Nat) (ns : List Nat) : String :=
  "[" ++ ", ".intercalate (ns.map fun n => (String.ofList (Hex.digits width n)).toUpper) ++ "]"

/-- Of a look at a candidate. -/
def ofProbe (p : Probe) : Entry :=
  let c := p.candidate.toNat
  match p.answer with
  | .error f => ⟨.warn, .discovery, s!"Probe of register {c} failed: {f.message}"⟩
  | .ok regs =>
    if p.isHit then ⟨.info, .discovery, s!"Found SunSpec signature at register {c}"⟩
    else ⟨.debug, .discovery,
      s!"No signature at register {c}: {hexWords 4 (regs.map UInt16.toNat)}"⟩

/-- Of a search for the signature. -/
def ofSearch (s : Search) : List Entry :=
  s.probes.map ofProbe ++ match s.result with
    | .ok _ => []
    | .error _ => [⟨.error, .discovery, "SunSpec signature not found on device"⟩]

/-! ## Datasets -/

/-- Of a reading. -/
def ofReading (r : Reading) : Entry :=
  let encoding := r.point.encoding.display
  if r.point.isSkipped then
    ⟨.trace, .dataset, s!"{r.name}: {encoding} is not decodable, skipped"⟩
  else
    ⟨.trace, .codec,
      s!"Decoded {encoding}: bytes={hexWords 2 (r.value.raw.map UInt8.toNat)}, " ++
        s!"status={r.value.status.name}"⟩

/-- Of a problem of a dataset. -/
def ofDiagnostic (e : SunSpec.Entry) (d : Diagnostic) : Entry :=
  ⟨if d.kind = .overrun then .error else .warn, .dataset, s!"{modelText e}: {d.message}"⟩

/-- Of a dataset. -/
def ofDataset (d : Dataset) : List Entry :=
  d.notes.map (ofDiagnostic d.entry) ++ d.readings.map ofReading ++
    d.stop.toList.map (ofDiagnostic d.entry) ++
    [⟨.trace, .dataset, s!"Decoded {modelText d.entry}: {d.readings.length} values " ++
      s!"from {d.consumed} payload bytes"⟩]

/-! ## The walk -/

/-- Of an instance. -/
def ofEvent : Event → List Entry
  | .model _ d => ofDataset d
  | .unknown register id _ bytes =>
    [⟨.warn, .discovery, s!"Unknown model id {id.toNat} at register {register}"⟩,
      ⟨.debug, .discovery, s!"Model {id.toNat} raw bytes: {Hex.ofBytes bytes}"⟩]

/-- Of a header at a register. -/
def ofHeader (register : Nat) (h : Header) : Entry :=
  if h.id = endMarker then ⟨.info, .discovery, s!"Found end marker at register {register}"⟩
  else if h.id = 0 then ⟨.error, .discovery,
    s!"Found 0x0000 at register {register} where a model id or end marker was expected"⟩
  else ⟨.debug, .discovery,
    s!"Found model {h.id.toNat} with length {h.length.toNat} at register {register}"⟩

/-- Of a reading that a report shows with its names: an enumeration has one that fits. -/
def ofLabels (r : Reading) : List Entry :=
  match r.code? with
  | none => []
  | some code =>
    if r.value.type = .enum16 ∧ (r.point.enumLabel? code).isNone then
      [⟨.debug, .model, s!"{r.name}: value {code.toNat} not found in defines"⟩]
    else []

/-- Of an instance in a report. -/
def ofRendering (format : ReportFormat) : Event → List Entry
  | .model _ d => if format = .sql then [] else d.readings.flatMap ofLabels
  | .unknown .. => []

/-- Of a look at a register of the chain; what is found there is reported at once. -/
def ofVisit (format : ReportFormat) (v : Visit) : List Entry :=
  ⟨.debug, .discovery, s!"Looking for model at register {v.register}"⟩ ::
    v.header.toList.map (ofHeader v.register) ++
    v.event.toList.flatMap fun e => ofEvent e ++ ofRendering format e

/-- Of a scan. -/
def ofScan (format : ReportFormat) (s : Scan) : List Entry :=
  ofSearch s.search ++ s.walk.visits.flatMap (ofVisit format)

end SunSpec.Journal
