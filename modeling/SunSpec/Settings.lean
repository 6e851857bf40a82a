import SunSpec.Chain
import SunSpec.Files
import SunSpec.Report
import SunSpec.Settings.Environment
import SunSpec.Settings.Json
import SunSpec.Settings.Toml
import SunSpec.Settings.Yaml

/-!
# Settings

What a run is set to: defaults, over them a file, over both the environment. A setting must be
written as what it is: no number stands for a text and no text for a number. Settings that nobody
asks for do not matter.
-/

namespace SunSpec

/-- The link to a device. -/
inductive Transport where
  | tcp
  | rtu
deriving DecidableEq, Repr, Inhabited

namespace Transport

/-- All links. -/
def all : List Transport := [tcp, rtu]

/-- The name of a link. -/
def name : Transport → String
  | tcp => "tcp"
  | rtu => "rtu"

end Transport

/-- The settings of a run. -/
structure Settings where
  transport : Transport := .tcp
  host : String := "127.0.0.1"
  port : UInt16 := 502
  serial : String := "/dev/ttyUSB0"
  baud : UInt32 := 9600
  /-- The address of the device on its line. -/
  slave : UInt8 := 1
  /-- In milliseconds. -/
  timeout : UInt64 := 4000
  /-- Files of descriptions, in the order in which they are read. -/
  models : List String := []
  output : ReportFormat := .text
  /-- Registers that are tried for the signature. -/
  candidates : List UInt16 := defaultCandidates
  /-- What the journal lets through. -/
  logLevel : String := "warn"
deriving DecidableEq, Repr, Inhabited

namespace Settings

/-! ## Faults -/

/-- What can be wrong with settings. -/
inductive Fault where
  | fileNotFound (path : String)
  | noExtension
  | unknownFormat (extension : String)
  /-- A source cannot be read, or says what a setting cannot be. -/
  | unreadable (why : String)
  | noCandidates
  | candidateZero
  | noTimeout
  | noHost
deriving DecidableEq, Repr

/-- The words for a fault. -/
def Fault.message (f : Fault) : String :=
  "Configuration error: " ++ match f with
    | fileNotFound path => s!"Config file not found: {path}"
    | noExtension => "Config file must have an extension"
    | unknownFormat extension => s!"Unsupported config file format: {extension}"
    | unreadable why => s!"Failed to load configuration: {why}"
    | noCandidates => "At least one base register candidate is required"
    | candidateZero => "Base register candidates are 1-based; 0 is not a register"
    | noTimeout => "Timeout must be positive"
    | noHost => "TCP transport needs a host"

/-- Settings that no device can be reached with, in the order in which they are reported. -/
def check (s : Settings) : Except Fault Unit := do
  if s.candidates.isEmpty then throw .noCandidates
  if s.candidates.contains 0 then throw .candidateZero
  if s.timeout = 0 then throw .noTimeout
  if s.transport = .tcp && s.host.isEmpty then throw .noHost

/-! ## Reading a layer -/

/-- A setting that is not what its place asks for. -/
def wrong {α : Type} (wanted : String) : Except Fault α :=
  .error (.unreadable s!"expected {wanted}")

/-- A text, or a single character. -/
def text : Setting → Except Fault String
  | .text s => .ok s
  | .letter c => .ok (String.singleton c)
  | _ => wrong "a string"

/-- A natural number below a bound. -/
def natural (bound : Nat) : Setting → Except Fault Nat
  | .integer n => if 0 ≤ n && n < bound then .ok n.toNat else wrong "a number in range"
  | _ => wrong "a number"

/-- A register number. -/
def register (s : Setting) : Except Fault UInt16 :=
  (natural UInt16.size s).map UInt16.ofNat

/-- The items of a list. -/
def items {α : Type} (item : Setting → Except Fault α) : Setting → Except Fault (List α)
  | .list ss => ss.mapM item
  | _ => wrong "a sequence"

/-- One of several values by its name: as a text, or as the first name of a table that says nothing
about it. -/
def choice {α : Type} (all : List α) (name : α → String) (s : Setting) : Except Fault α :=
  let written := match s with
    | .text s => some s
    | .table ((s, .nothing) :: _) => some s
    | _ => none
  match written.bind fun w => all.find? fun a => name a = w with
  | some a => .ok a
  | none => wrong "one of the known names"

/-- A setting of a layer, or its default. -/
def get {α : Type} (layer : Layer) (name : String) (read : Setting → Except Fault α)
    (default : α) : Except Fault α :=
  match layer.lookup name with
  | some s => read s
  | none => .ok default

/-- The settings of a layer. -/
def ofLayer (layer : Layer) : Except Fault Settings := do
  let d : Settings := default
  return {
    transport := ← get layer "transport" (choice Transport.all Transport.name) d.transport
    host := ← get layer "host" text d.host
    port := UInt16.ofNat (← get layer "port" (natural UInt16.size) d.port.toNat)
    serial := ← get layer "serial" text d.serial
    baud := UInt32.ofNat (← get layer "baud" (natural UInt32.size) d.baud.toNat)
    slave := UInt8.ofNat (← get layer "slave" (natural UInt8.size) d.slave.toNat)
    timeout := UInt64.ofNat (← get layer "timeout_ms" (natural UInt64.size) d.timeout.toNat)
    models := ← get layer "models" (items text) d.models
    output := ← get layer "output" (choice ReportFormat.all ReportFormat.name) d.output
    candidates := ← get layer "candidates" (items register) d.candidates
    logLevel := ← get layer "log_level" text d.logLevel }

/-! ## Files -/

/-- The formats of settings files. -/
inductive Format where
  | toml
  | yaml
  | json
deriving DecidableEq, Repr

/-- The extension of a path: what stands behind the last point of its last part. A point that the
part begins with does not count. -/
def extension? (path : String) : Option String :=
  match (Folder.parts path).getLast? with
  | none => none
  | some part =>
    if part = ".." then none
    else
      let behind := part.toList.reverse.takeWhile (· ≠ '.')
      if part.length ≤ behind.length + 1 then none else some (String.ofList behind.reverse)

/-- The format of a file, by its extension. -/
def Format.ofPath (path : String) : Except Fault Format :=
  match extension? path with
  | none => .error .noExtension
  | some "toml" => .ok .toml
  | some "yaml" | some "yml" => .ok .yaml
  | some "json" => .ok .json
  | some other => .error (.unknownFormat other)

/-- The layer of a text in a format. -/
def Format.layer (f : Format) (text : String) : Except Fault Layer :=
  let check (l : Option Layer) (what : String) : Except Fault Layer :=
    match l with
    | some l => .ok l
    | none => .error (.unreadable what)
  match f with
  | toml => check (Toml.layer? text) "TOML parse error"
  | json => check (Json.layer? text) "JSON parse error"
  | yaml =>
    match Layer.ofYaml text with
    | .ok l => .ok l
    | .error e => .error (.unreadable e.message)

/-- The layer of a file. One that is not there, or is no file, says nothing. -/
def fileLayer (f : SourceFile) : Except Fault Layer := do
  let format ← Format.ofPath f.path
  match f.contents with
  | .error _ => return []
  | .ok _ =>
    match f.text with
    | .ok text => format.layer text
    | .error why => throw (.unreadable why)

/-- The settings of a file alone. -/
def ofFile (f : SourceFile) : Except Fault Settings := do ofLayer (← fileLayer f)

/-- The settings of a run: the environment over a file, if one is named, over the defaults. A file
that is named must be there. -/
def load (environment : List (String × String)) (file : Option SourceFile) :
    Except Fault Settings := do
  let lower : Layer ← match file with
    | none => pure []
    | some f => if f.isThere then fileLayer f else throw (.fileNotFound f.path)
  ofLayer ((Environment.layer environment).over lower)

end Settings

end SunSpec
