/-!
# Comma-separated rows

A row is its fields with commas between them and a line feed at its end. A field that holds a
comma, a quotation mark or a line break stands between quotation marks, its own marks written
twice.
-/

namespace SunSpec.Csv

/-- A character that keeps a field from standing bare. -/
def needsMarks (c : Char) : Bool := c == ',' || c == '"' || c == '\n' || c == '\r'

/-- A field as it is written. -/
def field (s : String) : String :=
  if s.toList.any needsMarks then
    String.ofList ('"' :: s.toList.flatMap (fun c => if c == '"' then ['"', '"'] else [c]) ++ ['"'])
  else s

/-- A row as it is written. -/
def row (fields : List String) : String := ",".intercalate (fields.map field) ++ "\n"

/-- Rows under a header; without rows there is no header either. -/
def table (header : List String) (rows : List (List String)) : String :=
  if rows.isEmpty then "" else String.join ((header :: rows).map row)

end SunSpec.Csv
