import SunSpec.Decimal.Reading

/-!
# Arguments of commands

What a command line may say: options with a long name and perhaps a letter, and operands without
either. An argument is a mere flag, a flag that is counted, or carries values, each of which must be
one that its place accepts. The same tables are read by `Command.Words`, which takes a command line
apart, and by `Command.Help`, which describes it.
-/

namespace SunSpec.Command

/-- One of the values that a place chooses from. -/
structure Choice where
  name : String
  about : String := ""
deriving DecidableEq, Repr

/-- The values that a place accepts. -/
inductive Domain where
  | text
  /-- A path, which is not empty. -/
  | path
  /-- A natural number below a bound; with `signed`, a zero may have a minus sign. -/
  | number (bound : Nat) (signed : Bool)
  | choice (choices : List Choice)
deriving Repr

namespace Domain

/-- The number of a text, in digits with perhaps a sign. -/
def number? (bound : Nat) (signed : Bool) (s : String) : Option Nat :=
  let (negative, ds) := Decimal.splitSign s.toList
  if ds.isEmpty || !ds.all Char.isDigit then none
  else
    let n := Decimal.ofDigits ds
    if negative then if signed && n = 0 then some 0 else none
    else if n < bound then some n else none

/-- The choices of a domain. -/
def choices : Domain → List Choice
  | choice cs => cs
  | _ => []

/-- A domain accepts a text. -/
def accepts : Domain → String → Bool
  | text, _ => true
  | path, s => !s.isEmpty
  | number bound signed, s => (number? bound signed s).isSome
  | choice cs, s => cs.any fun c => c.name = s

/-- Some of the choices are explained. -/
def isExplained (d : Domain) : Bool := d.choices.any fun c => !c.about.isEmpty

end Domain

/-- What an argument does. -/
inductive Effect where
  | flag
  | counted
  /-- It carries a value, or several between separators. -/
  | value (name : String) (domain : Domain) (separator : Option Char)
  | help
  | version
deriving Repr

/-- How an argument is written. -/
inductive Form where
  | option (letter : Option Char) (long : String)
  /-- It is known by its place; `many` may stand there. -/
  | operand (many : Bool)
deriving DecidableEq, Repr

/-- An argument of a command. -/
structure Argument where
  /-- The name under which its values are found. -/
  key : String
  form : Form
  effect : Effect
  about : String
  /-- It may be given more than once. -/
  repeatable : Bool
  /-- The value that stands in where none is given. -/
  default : Option String
deriving Repr

namespace Argument

/-- A flag. -/
def flag (letter : Option Char) (long about : String) : Argument :=
  ⟨long, .option letter long, .flag, about, false, none⟩

/-- A flag that is counted. -/
def counted (letter : Option Char) (long about : String) : Argument :=
  ⟨long, .option letter long, .counted, about, true, none⟩

/-- An option with a value. -/
def option (letter : Option Char) (long name about : String) (domain : Domain) : Argument :=
  ⟨long, .option letter long, .value name domain none, about, false, none⟩

/-- An option that collects values. -/
def collected (letter : Option Char) (long name about : String) (domain : Domain)
    (separator : Option Char) : Argument :=
  ⟨long, .option letter long, .value name domain separator, about, true, none⟩

/-- An operand. -/
def operand (name about : String) (domain : Domain) (many : Bool) : Argument :=
  ⟨name, .operand many, .value name domain none, about, many, none⟩

/-- An argument with a value that stands in where none is given. -/
def withDefault (a : Argument) (value : String) : Argument := { a with default := some value }

/-- The letter of an option. -/
def letter? (a : Argument) : Option Char :=
  match a.form with
  | .option letter _ => letter
  | .operand _ => none

/-- The long name of an option. -/
def long? (a : Argument) : Option String :=
  match a.form with
  | .option _ long => some long
  | .operand _ => none

/-- An argument without a name. -/
def isOperand (a : Argument) : Bool := a.long?.isNone

/-- The domain of an argument that carries values. -/
def domain? (a : Argument) : Option Domain :=
  match a.effect with
  | .value _ domain _ => some domain
  | _ => none

end Argument

/-- A command that is part of another one. -/
structure Subcommand where
  name : String
  about : String
  arguments : List Argument
  /-- It also takes the arguments that all subcommands share. -/
  takesShared : Bool
deriving Repr

/-- A command with subcommands. -/
structure Program where
  name : String
  version : String
  about : String
  longAbout : String
  /-- Arguments of the command itself, which its subcommands share. -/
  shared : List Argument
  subcommands : List Subcommand
deriving Repr

end SunSpec.Command
