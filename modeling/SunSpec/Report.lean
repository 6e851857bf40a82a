import SunSpec.Report.Csv
import SunSpec.Report.Dump
import SunSpec.Report.Sql
import SunSpec.Scan

/-!
# Reports

What a scan found, as text for people, as comma-separated rows, or as SQL statements. A report is
made of the events alone, so it stands even if the scan ended in a fault.
-/

namespace SunSpec

/-- The forms of a report. -/
inductive ReportFormat where
  | text
  | csv
  | sql
deriving DecidableEq, Repr, Inhabited

namespace ReportFormat

/-- All forms. -/
def all : List ReportFormat := [text, csv, sql]

/-- The name of a form. -/
def name : ReportFormat → String
  | text => "text"
  | csv => "csv"
  | sql => "sql"

end ReportFormat

namespace Report

/-! ## Text -/

/-- The name of a point, with the number of the instance. -/
def label (r : Reading) : String :=
  match r.index with
  | some i => s!"{r.name}[{i}]"
  | none => r.name

/-- The width that labels are filled up to. -/
def labelWidth : Nat := 24

/-- The line of a reading. -/
def readingLine (r : Reading) : String :=
  let labels := if r.labels.isEmpty then "" else " [" ++ ", ".intercalate r.labels ++ "]"
  "  " ++ Dump.left labelWidth (label r) ++ " " ++ r.value.display ++ labels ++ "\n"

/-- The paragraph of an event; `dump` adds the bytes of an instance that was not read. -/
def paragraph (dump : Bool) : Event → String
  | .model register d =>
    let note := if d.isPartial then " [partial]" else ""
    s!"Model {d.entry.id.toNat} ({d.entry.name}) at register {register}, " ++
      s!"length {d.declared.toNat}{note}\n" ++
      String.join (d.readings.map readingLine) ++
      String.join (d.diagnostics.map fun n => "  ! " ++ n.display ++ "\n") ++ "\n"
  | .unknown register id length bytes =>
    s!"Unknown model {id.toNat} at register {register}, length {length.toNat}\n" ++
      (if dump then Dump.bytes bytes else "") ++ "\n"

/-! ## Comma-separated rows -/

/-- The names of the columns. -/
def columns : List String :=
  ["register", "model_id", "model", "repeat", "point", "type", "status", "value", "labels"]

/-- The row of a reading. -/
def row (register : Nat) (d : Dataset) (r : Reading) : List String :=
  [toString register, toString d.entry.id.toNat, d.entry.name,
    (r.index.map toString).getD "", r.name, r.point.encoding.display, r.value.status.name,
    r.value.display, "|".intercalate r.labels]

/-- The rows of an event; an instance that was not read has none. -/
def rows : Event → List (List String)
  | .model register d => d.readings.map (row register d)
  | .unknown .. => []

/-! ## SQL -/

/-- The table that readings are inserted into. -/
def sqlTable : String := "suns_values"

/-- The columns of the table. -/
def sqlColumns : List String :=
  ["model_id", "model", "repeat", "point", "type", "status", "value"]

/-- The literals of a reading. -/
def sqlLiterals (d : Dataset) (r : Reading) : List String :=
  [toString d.entry.id.toNat, Sql.literal d.entry.name, Sql.optionalNumber r.index,
    Sql.literal r.name, Sql.literal r.point.encoding.display, Sql.literal r.value.status.name,
    Sql.literal r.value.display]

/-- The statements of a dataset. -/
def sqlDataset (d : Dataset) : String :=
  String.join (d.readings.map fun r => Sql.insert sqlTable sqlColumns (sqlLiterals d r))

/-- The statements of an event; an instance that was not read leaves a comment. -/
def statements : Event → String
  | .model _ d => sqlDataset d
  | .unknown register id length _ =>
    s!"-- unknown model {id.toNat} at register {register}, length {length.toNat}\n"

/-! ## All forms -/

/-- The report of events. -/
def render (format : ReportFormat) (dump : Bool) (events : List Event) : String :=
  match format with
  | .text => String.join (events.map (paragraph dump))
  | .csv => Csv.table columns (events.flatMap rows)
  | .sql => String.join (events.map statements)

end Report

end SunSpec
