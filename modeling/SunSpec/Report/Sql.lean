/-!
# SQL literals and statements

Texts stand between single quotes, their own quotes written twice, so that nothing in a text can
end it.
-/

namespace SunSpec.Sql

/-- The literal of a text. -/
def literal (s : String) : String :=
  let written := s.toList.flatMap fun c => if c == '\'' then ['\'', '\''] else [c]
  String.ofList ('\'' :: written ++ ['\''])

/-- The literal of a number that may be missing. -/
def optionalNumber : Option Nat → String
  | some n => toString n
  | none => "NULL"

/-- The statement that inserts a row of literals into columns of a table. -/
def insert (table : String) (columns literals : List String) : String :=
  "INSERT INTO " ++ table ++ " (" ++ ", ".intercalate columns ++ ") VALUES (" ++
    ", ".intercalate literals ++ ");\n"

end SunSpec.Sql
