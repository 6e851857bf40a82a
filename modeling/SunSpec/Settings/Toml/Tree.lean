import SunSpec.Settings.Setting

/-!
# Tables under construction

A document names its tables in headers and in paths of keys, in any order, and a table knows which
of these made it: a header makes a table once, also one that was only a step on the way to
another, and a path goes on only from tables that paths made. What stands as a value is closed.
-/

namespace SunSpec.Settings.Toml

/-- What made a table. -/
inductive Origin where
  /-- It is a step on the way to a table with a header. -/
  | implied
  /-- It is a step of a path of keys. -/
  | dotted
  /-- It has a header of its own, or is the whole document. -/
  | declared
deriving DecidableEq, Repr

/-- A document under construction. -/
inductive Tree where
  | value (s : Setting)
  | table (origin : Origin) (entries : List (String × Tree))
  /-- Tables under one header, the latest first. -/
  | rows (tables : List (List (String × Tree)))
deriving Repr

/-- The entries of a table under construction. -/
abbrev Branch := List (String × Tree)

mutual

/-- A tree as a setting. -/
def Tree.setting : Tree → Setting
  | .value s => s
  | .table _ entries => .table (Layer.ofList (Tree.fields entries))
  | .rows tables => .list (Tree.tables tables).reverse

/-- The entries of a table as settings. -/
def Tree.fields : List (String × Tree) → List (String × Setting)
  | [] => []
  | entry :: rest => Tree.field entry :: Tree.fields rest

/-- An entry as a setting. -/
def Tree.field : String × Tree → String × Setting
  | (name, tree) => (name, tree.setting)

/-- Tables as settings. -/
def Tree.tables : List (List (String × Tree)) → List Setting
  | [] => []
  | entries :: rest => .table (Layer.ofList (Tree.fields entries)) :: Tree.tables rest

end

namespace Branch

/-- The layer of a branch. -/
def layer (b : Branch) : Layer := Layer.ofList (Tree.fields b)

/-- The branch with an entry in place of the one of its name. -/
def put (name : String) (t : Tree) (b : Branch) : Branch :=
  (name, t) :: b.filter fun e => e.1 ≠ name

/-- Change the table at the end of a path. Tables that are not there yet are made by `step`, which
is what the path belongs to; of several tables under one header the latest counts. -/
def within (step : Origin) (change : Origin → Branch → Option Branch) :
    (path : List String) → Origin → Branch → Option Branch
  | [], origin, b => change origin b
  | name :: path, _, b =>
    match b.lookup name with
    | none =>
      (within step change path step []).map fun inner => b.put name (.table step inner)
    | some (.table origin inner) =>
      if step = .dotted && origin = .declared then none
      else (within step change path origin inner).map fun inner => b.put name (.table origin inner)
    | some (.rows (latest :: older)) =>
      (within step change path .declared latest).map fun latest =>
        b.put name (.rows (latest :: older))
    | some (.rows []) | some (.value _) => none

/-- Give a value to a key of a table. -/
def assign (b : Branch) (path : List String) (s : Setting) : Option Branch :=
  let steps := path.dropLast
  let change (origin : Origin) (b : Branch) : Option Branch := do
    let name ← path.getLast?
    if (origin == .dotted) == steps.isEmpty then none
    if (b.lookup name).isSome then none
    return b.put name (.value s)
  within .dotted change steps .declared b

/-- Give values to keys of a table, in their order. -/
def assignAll (b : Branch) (entries : List (List String × Setting)) : Option Branch :=
  entries.foldlM (fun b (path, s) => b.assign path s) b

/-- The entries behind the header of a table. -/
def addTable (b : Branch) (path : List String) (entries : List (List String × Setting)) :
    Option Branch :=
  let change (_ : Origin) (b : Branch) : Option Branch := do
    let name ← path.getLast?
    let before : Branch ← match b.lookup name with
      | none => some []
      | some (.table .implied inner) => some inner
      | some _ => none
    return b.put name (.table .declared (← before.assignAll entries))
  within .implied change path.dropLast .declared b

/-- The entries behind the header of one of several tables. -/
def addRow (b : Branch) (path : List String) (entries : List (List String × Setting)) :
    Option Branch :=
  let change (_ : Origin) (b : Branch) : Option Branch := do
    let name ← path.getLast?
    let before : List Branch ← match b.lookup name with
      | none => some []
      | some (.rows tables) => some tables
      | some _ => none
    return b.put name (.rows ((← assignAll [] entries) :: before))
  within .implied change path.dropLast .declared b

end Branch

end SunSpec.Settings.Toml
