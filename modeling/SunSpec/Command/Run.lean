import SunSpec.Command.Help
import SunSpec.Command.Invocation
import SunSpec.Description.Export
import SunSpec.Journal.Filter
import SunSpec.Journal.Scanning

/-!
# Runs

What a command line comes to. A run reads files through a host, tells its journal what it notices,
and ends with an output, a closing line and an exit code: 0 for work that was done, 1 for work that
failed or stopped early, 2 for a line that was not understood. What was told and written before a
fault stands.
-/

namespace SunSpec.Command

/-- Where a run takes place. -/
structure Host (m : Type → Type) where
  /-- The bytes of the file of a path. -/
  contents : String → m (Except FileFault (List UInt8))
  /-- Make a folder, and those on the way to it. -/
  makeFolder : String → m (Except FileFault Unit)

/-- A host that has the files of a folder. -/
def Host.ofFolder (f : Folder) : Host Id where
  contents path := f.read path
  makeFolder path := f.make path

/-! ## Faults -/

/-- Why a run fails. -/
inductive Fault where
  | settings (f : Settings.Fault)
  /-- The filter of the environment, or that of the settings, makes no sense. -/
  | badEnvironmentFilter (text : String)
  | badFilter (text : String)
  | noFileName (path : String)
  | noFolder (f : FileFault)
  | noModels
  | loading (path : String) (f : SunSpec.Fault)
  | resolving (f : SunSpec.Fault)
  | building (f : SunSpec.Fault)
  /-- No device answers. -/
  | unreachable (s : Settings)
deriving Repr

/-- Why no device answers over the link of settings. -/
def unreachableText (s : Settings) : String :=
  match s.transport with
  | .tcp => s!"Failed to connect to {s.host}:{s.port.toNat}: Connection refused (os error 111)"
  | .rtu => s!"Failed to open serial port {s.serial}: No such file or directory"

/-- The words for a fault, what was being done in front of what went wrong. -/
def Fault.message : Fault → String
  | settings f => f.message
  | badEnvironmentFilter text =>
    s!"Logging error: Invalid RUST_LOG '{text}': invalid filter directive"
  | badFilter text => s!"Logging error: Invalid log level '{text}': invalid filter directive"
  | noFileName path => s!"Logging error: Log file path has no file name: {path}"
  | noFolder f => s!"IO error: {f.message}: {f.message}"
  | noModels => "No model definitions given; pass --models or set \x60models\x60 in the config file"
  | loading path f => s!"Failed to load model definitions from {path}: {f.message}"
  | resolving f => s!"Failed to resolve model definitions: {f.message}"
  | building f => s!"Failed to build register image: {f.message}"
  | unreachable s => unreachableText s

/-! ## Outcomes -/

/-- What a run comes to. -/
structure Outcome where
  code : UInt32
  output : String
  /-- What the journal lets through. -/
  entries : List Journal.Entry
  color : Bool
  /-- The line at the end, or nothing. -/
  closing : String
deriving Repr

namespace Outcome

/-- An outcome without a journal. -/
def plain (code : UInt32) (output closing : String) : Outcome := ⟨code, output, [], false, closing⟩

/-- What a run says apart from its output: its journal, and how it ended. -/
def messages (o : Outcome) : String :=
  String.join (o.entries.map (Journal.Entry.line o.color)) ++ o.closing

end Outcome

/-- What the work of a run comes to. -/
structure Result where
  done : Bool
  output : String
  closing : String

/-- Work that may fail, and that tells the journal. -/
abbrev Work (m : Type → Type) := ExceptT Fault (StateT (List Journal.Entry) m)

namespace Work

variable {m : Type → Type} [Monad m]

/-- Tell the journal. -/
def tell (es : List Journal.Entry) : Work m Unit := modify (· ++ es)

/-- A step that may fail. -/
def step {α β : Type} (name : α → Fault) : Except α β → Work m β
  | .ok b => return b
  | .error a => throw (name a)

end Work

variable {m : Type → Type} [Monad m]

/-! ## Steps -/

/-- A file of the host. -/
def source (host : Host m) (path : String) : m SourceFile := do
  return ⟨path, ← host.contents path⟩

/-- The settings of a run, with the models that the line adds. -/
def settings (host : Host m) (environment : List (String × String)) (i : Invocation) :
    m (Except Settings.Fault Settings) := do
  let file ← i.config.mapM (source host)
  return (Settings.load environment file).map fun s => { s with models := s.models ++ i.models }

/-- The filter of a run: that of the environment, or that which the line or else the settings ask
for. -/
def filter (environment : List (String × String)) (i : Invocation) (s : Settings) :
    Except Fault Journal.Filter :=
  match environment.lookup "RUST_LOG" with
  | some text =>
    match Journal.Filter.ofText? text with
    | some f => .ok f
    | none => .error (.badEnvironmentFilter text)
  | none =>
    let text := if i.verbose = 0 && !i.quiet then s.logLevel
      else (Journal.Level.ofVerbosity i.verbose i.quiet).name
    match Journal.Filter.ofText? text with
    | some f => .ok f
    | none => .error (.badFilter text)

/-- The folder of a path that ends in the name of a file. -/
def folderOf? (path : String) : Option String :=
  let parts := Folder.parts path
  match parts.getLast? with
  | none | some ".." => none
  | some _ =>
    let folder := "/".intercalate parts.dropLast
    some (if path.startsWith "/" then "/" ++ folder else if folder.isEmpty then "." else folder)

/-- Make room for the journal file, if there is to be one. -/
def openJournal (host : Host m) (i : Invocation) : m (Except Fault Unit) :=
  match i.logFile with
  | none => return .ok ()
  | some path =>
    match folderOf? path with
    | none => return .error (.noFileName path)
    | some folder => do
      match ← host.makeFolder folder with
      | .ok () => return .ok ()
      | .error f => return .error (.noFolder f)

/-- The library of files, in their order. -/
def load (host : Host m) (paths : List String) : Work m Library := do
  if paths.isEmpty then throw .noModels
  paths.foldlM (fun l path => do
    let file : SourceFile ← liftM (source host path)
    let other ← Work.step (.loading path) (Library.ofFile file)
    Work.tell (Journal.ofFile path other ++ Journal.ofMerge l other)
    return l.merge other) .empty

/-- The registry of a library. -/
def build (l : Library) : Work m Registry := do
  Work.tell (Journal.ofProblems l ++ Journal.ofBuild l.catalogue)
  Work.step .resolving l.catalogue.build

/-- The register image of data. -/
def image (registry : Registry) (base : UInt16) (data : List DescribedData) :
    Work m RegisterTable := do
  Work.tell (Journal.ofImage registry data)
  Work.step .building (RegisterTable.ofData registry base data)

/-- The end of a scan. -/
def scanResult (format : ReportFormat) (dump : Bool) (s : Scan) : Result :=
  let output := Report.render format dump s.events
  match s.outcome with
  | .ok base => ⟨true, output,
      s!"Scan complete: {s.events.length} models from base register {base.toNat}\n"⟩
  | .error f => ⟨false, output,
      s!"Scan failed: {f.message} after {s.events.length} models\n"⟩

/-- Scan an image of data. -/
def simulate (registry : Registry) (data : List DescribedData) (base : UInt16)
    (format : ReportFormat) (dump : Bool) : Work m Result := do
  let table ← image registry base data
  Work.tell [⟨.info, .command, s!"Simulating {table.size} registers at base {base.toNat}"⟩]
  let scanner := { Scanner.ofRegistry registry with candidates := [base] }
  let (scan, _) := (scanner.scan (.ofTable table)).run ()
  Work.tell (Journal.ofScan format scan)
  return scanResult format dump scan

/-- The work of a line. -/
def perform (host : Host m) (i : Invocation) (s : Settings) : Work m Result := do
  let l ← load host s.models
  let registry ← build l
  match i.task with
  | .scan options =>
    let s := options.over s
    Work.step .settings s.check
    throw (.unreachable s)
  | .simulate base format =>
    simulate registry l.data base (format.getD s.output) (0 < i.verbose)
  | .map base => return ⟨true, Dump.table (← image registry base l.data), ""⟩
  | .exportModels .csv => return ⟨true, Export.csv registry, ""⟩
  | .exportModels .yaml => return ⟨true, Export.yaml registry, ""⟩

/-! ## Runs -/

/-- The closing line of a fault. -/
def failure (f : Fault) : String := s!"Error: {f.message}\n"

/-- Run a line whose journal is open. -/
def runOpen (host : Host m) (i : Invocation) (s : Settings) (f : Journal.Filter) : m Outcome := do
  let (result, told) ← (perform host i s).run.run []
  let entries := told.filter f.admits
  match result with
  | .ok r => return ⟨if r.done then 0 else 1, r.output, entries, !i.noColor, r.closing⟩
  | .error fault => return ⟨1, "", entries, !i.noColor, failure fault⟩

/-- Run a line that was understood. -/
def runInvocation (host : Host m) (environment : List (String × String)) (i : Invocation) :
    m Outcome := do
  match ← settings host environment i with
  | .error f => return .plain 1 "" (failure (.settings f))
  | .ok s =>
    match filter environment i s with
    | .error f => return .plain 1 "" (failure f)
    | .ok f =>
      match ← openJournal host i with
      | .error f => return .plain 1 "" (failure f)
      | .ok () => runOpen host i s f

/-- What is said of a line that was not understood. -/
def misuse : String := "error: unrecognized command line\n\nFor more information, try '--help'.\n"

/-- Run a line. -/
def run (host : Host m) (environment : List (String × String)) (words : List String) :
    m Outcome :=
  match Request.ofWords program words with
  | .refused => return .plain 2 "" misuse
  | .help on long => return .plain 0 (Help.page program on long) ""
  | .version => return .plain 0 s!"{program.name} {program.version}\n" ""
  | .run c inner outer => runInvocation host environment (.of c inner outer)

end SunSpec.Command
