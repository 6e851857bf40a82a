/-!
# Settings as written

What a source of settings says, before anyone asks for it: a setting is a simple value, a list, or
a table of named settings. A later source goes over an earlier one; tables join, and everything
else is replaced whole.
-/

namespace SunSpec

/-- A setting as a source gives it. -/
inductive Setting where
  | nothing
  | flag (b : Bool)
  | integer (n : Int)
  /-- A floating-point number, as bits. -/
  | real (bits : UInt64)
  | text (s : String)
  /-- A single character. -/
  | letter (c : Char)
  /-- A point in time, which no setting asks for. -/
  | moment
  | list (items : List Setting)
  | table (entries : List (String × Setting))
deriving Repr, Inhabited

/-- Named settings, in ascending order of their names. -/
abbrev Layer := List (String × Setting)

namespace Layer

/-- The layer with a setting under a name, in place of one that stands there. -/
def put (name : String) (s : Setting) : Layer → Layer
  | [] => [(name, s)]
  | (n, t) :: rest =>
    if name < n then (name, s) :: (n, t) :: rest
    else if name = n then (name, s) :: rest
    else (n, t) :: put name s rest

/-- A layer of named settings, of which the last one of a name counts. -/
def ofList (entries : List (String × Setting)) : Layer :=
  entries.foldl (fun layer (n, s) => layer.put n s) []

end Layer

mutual

/-- A setting over another one. -/
def Setting.over : (upper lower : Setting) → Setting
  | .table entries, .table under => .table (Layer.over entries under)
  | upper, _ => upper

/-- A layer over another one. -/
def Layer.over : (upper lower : Layer) → Layer
  | [], lower => lower
  | entry :: rest, lower => Layer.over rest (Layer.overOne entry lower)

/-- One named setting over a layer. -/
def Layer.overOne : (entry : String × Setting) → (lower : Layer) → Layer
  | (name, s), lower =>
    match lower.lookup name with
    | some under => lower.put name (s.over under)
    | none => lower.put name s

end

end SunSpec
