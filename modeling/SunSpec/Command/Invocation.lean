import SunSpec.Command.Words
import SunSpec.Settings

/-!
# The command line

The commands of the program with their arguments, and what a line that fits them asks for. What the
line says about the settings goes over everything else.
-/

namespace SunSpec.Command

/-! ## Tables -/

/-- The links, explained. -/
def linkChoices : List Choice :=
  [⟨Transport.tcp.name, "Modbus TCP"⟩, ⟨Transport.rtu.name, "Modbus RTU over a serial line"⟩]

/-- The forms of a report. -/
def formatChoices : List Choice := ReportFormat.all.map fun f => { name := f.name }

/-- The forms of exported descriptions. -/
inductive ExportFormat where
  | csv
  | yaml
deriving DecidableEq, Repr

/-- All forms of exported descriptions. -/
def ExportFormat.all : List ExportFormat := [csv, yaml]

/-- The name of a form. -/
def ExportFormat.name : ExportFormat → String
  | csv => "csv"
  | yaml => "yaml"

/-- The register of the signature in an image, if the line names no other. -/
def defaultBase : UInt16 := 40001

/-- The domain of a register number. -/
def registerDomain : Domain := .number UInt16.size true

/-- The arguments that all subcommands share. -/
def sharedArguments : List Argument :=
  [.counted (some 'v') "verbose" "Increase log verbosity (-v info, -vv debug, -vvv trace)",
    .flag (some 'q') "quiet" "Only log errors",
    .option (some 'c') "config" "CONFIG" "Configuration file (YAML, TOML or JSON)" .path,
    .option none "log-file" "LOG_FILE" "Also write logs to this file" .path,
    .flag none "no-color" "Disable colored output",
    .collected (some 'm') "models" "MODELS"
      "Model definition files, added after the configured ones" .path none]

/-- The form of a report, as an argument. -/
def formatArgument : Argument :=
  .option (some 'f') "format" "FORMAT" "" (.choice formatChoices)

/-- The subcommand that scans a device. -/
def scanCommand : Subcommand :=
  { name := "scan"
    about := "Discover and decode the models of a Modbus device"
    arguments :=
      [.option (some 't') "transport" "TRANSPORT" "" (.choice linkChoices),
        .option none "host" "HOST" "TCP host" .text,
        .option (some 'p') "port" "PORT" "TCP port" (.number UInt16.size true),
        .option none "serial" "SERIAL" "Serial device for RTU" .text,
        .option none "baud" "BAUD" "" (.number UInt32.size true),
        .option (some 's') "slave" "SLAVE" "Modbus unit address" (.number UInt8.size true),
        .option none "timeout-ms" "TIMEOUT_MS" "" (.number UInt64.size false),
        .collected (some 'b') "base" "BASE" "1-based registers probed for the signature"
          registerDomain (some ','),
        formatArgument]
    takesShared := true }

/-- The subcommand that scans an image of data. -/
def simulateCommand : Subcommand :=
  { name := "simulate"
    about := "Scan the register image built from data blocks"
    arguments :=
      [(Argument.option (some 'b') "base" "BASE" "1-based register of the signature"
          registerDomain).withDefault (toString defaultBase.toNat),
        formatArgument]
    takesShared := true }

/-- The subcommand that prints an image of data. -/
def mapCommand : Subcommand :=
  { name := "map"
    about := "Print the register image built from data blocks"
    arguments :=
      [(Argument.option (some 'b') "base" "BASE" "" registerDomain).withDefault
        (toString defaultBase.toNat)]
    takesShared := true }

/-- The subcommand that prints descriptions. -/
def exportCommand : Subcommand :=
  { name := "export"
    about := "Print the loaded model descriptions with resolved offsets"
    arguments :=
      [(Argument.operand "FORMAT" ""
          (.choice (ExportFormat.all.map fun f => { name := f.name })) false).withDefault
        ExportFormat.yaml.name]
    takesShared := true }

/-- What the program is for. -/
def purpose : String := "SunSpec device scanner and register map tool"

/-- What the program is for, with its commands and examples of their use. -/
def longPurpose : String :=
  "\n".intercalate
    [purpose, "", "Commands:",
      "  scan        Discover and decode the models of a Modbus device",
      "  simulate    Scan the register image built from data blocks",
      "  map         Print the register image built from data blocks",
      "  export      Print the loaded model descriptions", "", "Examples:",
      "  suns -m models.yaml scan --host 192.168.1.20",
      "  suns -m models.yaml scan -t rtu --serial /dev/ttyUSB0 --baud 19200 -f csv",
      "  suns -m models.yaml -m device.yaml simulate --base 40001",
      "  suns -m models.yaml export yaml"]

/-- The program. -/
def program : Program :=
  { name := "suns"
    version := "0.1.0"
    about := purpose
    longAbout := longPurpose
    shared := sharedArguments
    subcommands := [scanCommand, simulateCommand, mapCommand, exportCommand] }

/-! ## What is asked for -/

/-- What a line says about the link to a device and the scan. -/
structure ScanOptions where
  transport : Option Transport
  host : Option String
  port : Option UInt16
  serial : Option String
  baud : Option UInt32
  slave : Option UInt8
  timeout : Option UInt64
  candidates : List UInt16
  format : Option ReportFormat
deriving DecidableEq, Repr

/-- Settings with what a line says in their place. -/
def ScanOptions.over (o : ScanOptions) (s : Settings) : Settings :=
  { s with
    transport := o.transport.getD s.transport
    host := o.host.getD s.host
    port := o.port.getD s.port
    serial := o.serial.getD s.serial
    baud := o.baud.getD s.baud
    slave := o.slave.getD s.slave
    timeout := o.timeout.getD s.timeout
    candidates := if o.candidates.isEmpty then s.candidates else o.candidates
    output := o.format.getD s.output }

/-- The work that a line asks for. -/
inductive Task where
  | scan (options : ScanOptions)
  | simulate (base : UInt16) (format : Option ReportFormat)
  | map (base : UInt16)
  | exportModels (format : ExportFormat)
deriving DecidableEq, Repr

/-- A line in full. -/
structure Invocation where
  verbose : Nat
  quiet : Bool
  config : Option String
  logFile : Option String
  noColor : Bool
  models : List String
  task : Task
deriving DecidableEq, Repr

namespace Given

/-- The values of an argument, in the order of the words. -/
def values (g : Given) (key : String) : List String :=
  g.flatMap fun (k, vs) => if k = key then vs else []

/-- How often an argument was given. -/
def count (g : Given) (key : String) : Nat := g.countP fun (k, _) => k = key

/-- The numbers given for an argument. -/
def numbers (g : Given) (key : String) (bound : Nat) : List Nat :=
  (g.values key).filterMap (Domain.number? bound true)

/-- The number given for an argument. -/
def number? (g : Given) (key : String) (bound : Nat) : Option Nat := (g.numbers key bound).head?

/-- The choice given for an argument. -/
def choice? {α : Type} (g : Given) (key : String) (all : List α) (name : α → String) : Option α :=
  (g.values key).head?.bind fun s => all.find? fun a => name a = s

/-- The side of the line that counts for a shared argument: that of the subcommand, if it is given
there. -/
def side (inner outer : Given) (key : String) : Given :=
  if (inner.lookup key).isSome then inner else outer

end Given

namespace Task

/-- The form of a report that is given. -/
def format? (g : Given) : Option ReportFormat :=
  g.choice? "format" ReportFormat.all ReportFormat.name

/-- The base register that is given, or the default one. -/
def base (g : Given) : UInt16 :=
  ((g.number? "base" UInt16.size).map UInt16.ofNat).getD defaultBase

/-- What is said of a scan. -/
def scanOptions (g : Given) : ScanOptions :=
  { transport := g.choice? "transport" Transport.all Transport.name
    host := (g.values "host").head?
    port := (g.number? "port" UInt16.size).map UInt16.ofNat
    serial := (g.values "serial").head?
    baud := (g.number? "baud" UInt32.size).map UInt32.ofNat
    slave := (g.number? "slave" UInt8.size).map UInt8.ofNat
    timeout := (g.number? "timeout-ms" UInt64.size).map UInt64.ofNat
    candidates := (g.numbers "base" UInt16.size).map UInt16.ofNat
    format := format? g }

/-- The work of a subcommand. -/
def ofSubcommand (c : Subcommand) (g : Given) : Task :=
  if c.name = scanCommand.name then scan (scanOptions g)
  else if c.name = simulateCommand.name then simulate (base g) (format? g)
  else if c.name = mapCommand.name then map (base g)
  else exportModels ((g.choice? "FORMAT" ExportFormat.all ExportFormat.name).getD .yaml)

end Task

/-- The line of a subcommand with what was given to it and in front of it. -/
def Invocation.of (c : Subcommand) (inner outer : Given) : Invocation :=
  let side := Given.side inner outer
  { verbose := (side "verbose").count "verbose"
    quiet := 0 < (side "quiet").count "quiet"
    config := ((side "config").values "config").head?
    logFile := ((side "log-file").values "log-file").head?
    noColor := 0 < (side "no-color").count "no-color"
    models := (side "models").values "models"
    task := Task.ofSubcommand c inner }

end SunSpec.Command
