import SunSpec.Command.Argument

/-!
# Words of a command line

A command line is read word by word. Letters can be joined behind one hyphen, a value can be joined
to its option or be the next word, and behind two hyphens alone every word is an operand. The first
word that is neither an option nor a value names the subcommand, whose arguments the rest gives.

A wish for help is granted as soon as it is read, unless something in front of it was wrong. A value
that is a word of its own is looked at when the next option is read, or at the end.
-/

namespace SunSpec.Command

/-- Why a command line does not ask for work. -/
inductive Halt where
  /-- It is wrong. -/
  | refused
  /-- It asks for help; `long` asks for all of it. -/
  | help (long : Bool)
  | version
deriving DecidableEq, Repr

/-- What was given, by key: for each occurrence its values, in the order of the words. -/
abbrev Given := List (String × List String)

/-- How far the words of one command were read. -/
structure Reader where
  arguments : List Argument
  given : Given
  /-- The argument that waits for its value, or has one that was not looked at. -/
  pending : Option (Argument × Option String)
  /-- Operands still to come. -/
  operands : List Argument
  /-- Every word is an operand from here on. -/
  operandsOnly : Bool

namespace Reader

/-- The start of a command. -/
def start (arguments : List Argument) : Reader :=
  ⟨arguments, [], none, arguments.filter Argument.isOperand, false⟩

/-- An argument waits for its value. -/
def isWaiting (r : Reader) : Bool :=
  match r.pending with
  | some (_, none) => true
  | _ => false

/-- Keep an occurrence of an argument. -/
def keep (r : Reader) (a : Argument) (values : List String) : Except Halt Reader :=
  if !a.repeatable && (r.given.lookup a.key).isSome then .error .refused
  else .ok { r with given := r.given ++ [(a.key, values)] }

/-- Look at a value and keep it. -/
def take (r : Reader) (a : Argument) (value : String) : Except Halt Reader :=
  match a.effect with
  | .value _ domain separator =>
    let values := match separator with
      | some c => value.splitOn c.toString
      | none => [value]
    if values.all domain.accepts then r.keep a values else .error .refused
  | _ => .error .refused

/-- Look at the value that was left over. -/
def settle (r : Reader) : Except Halt Reader :=
  match r.pending with
  | none => .ok r
  | some (_, none) => .error .refused
  | some (a, some value) => { r with pending := none }.take a value

/-- Read an option without a value joined to it; `long` says that its long name was used. -/
def option (r : Reader) (a : Argument) (long : Bool) : Except Halt Reader := do
  let r ← r.settle
  match a.effect with
  | .flag | .counted => r.keep a []
  | .value .. => return { r with pending := some (a, none) }
  | .help => throw (.help long)
  | .version => throw .version

/-- Read an option with a value joined to it. -/
def joined (r : Reader) (a : Argument) (value : String) : Except Halt Reader := do
  (← r.settle).take a value

/-- Read an option by its long name. -/
def long (r : Reader) (word : List Char) : Except Halt Reader :=
  let name := String.ofList (word.takeWhile (· ≠ '='))
  match r.arguments.find? fun a => a.long? = some name with
  | none => .error .refused
  | some a =>
    match word.dropWhile (· ≠ '=') with
    | [] => r.option a true
    | _ :: value => r.joined a (String.ofList value)

/-- Read options by their letters. What stands behind the letter of an option with a value is that
value. -/
def letters (r : Reader) : List Char → Except Halt Reader
  | [] => .ok r
  | c :: rest =>
    match r.arguments.find? fun a => a.letter? = some c with
    | none => .error .refused
    | some a =>
      match a.effect, rest with
      | .value .., '=' :: value => r.joined a (String.ofList value)
      | .value .., v :: value => r.joined a (String.ofList (v :: value))
      | _, rest => do (← r.option a false).letters rest

/-- Read an operand. -/
def operand (r : Reader) (word : String) : Except Halt Reader := do
  match r.operands with
  | [] => throw .refused
  | a :: rest =>
    let r ← r.settle
    let many := match a.form with
      | .operand many => many
      | .option .. => false
    return { r with pending := some (a, some word), operands := if many then a :: rest else rest }

/-- Read one word that does not name a subcommand. -/
def word (r : Reader) (w : String) : Except Halt Reader :=
  if r.operandsOnly then r.operand w
  else match w.toList with
    | ['-', '-'] => .ok { r with operandsOnly := true }
    | '-' :: '-' :: name => r.long name
    | '-' :: c :: cs => r.letters (c :: cs)
    | _ =>
      match r.pending with
      | some (a, none) => .ok { r with pending := some (a, some w) }
      | _ => r.operand w

/-- Read all words of a command without subcommands. -/
def words (r : Reader) (ws : List String) : Except Halt Reader := do
  (← ws.foldlM word r).settle

end Reader

/-! ## Programs -/

/-- The option that asks for help. -/
def helpOption : Argument := ⟨"help", .option (some 'h') "help", .help, "", true, none⟩

/-- The option that asks for the version. -/
def versionOption : Argument :=
  ⟨"version", .option (some 'V') "version", .version, "Print version", true, none⟩

/-- The subcommand that gives help. -/
def helpSubcommand : Subcommand :=
  { name := "help"
    about := "Print this message or the help of the given subcommand(s)"
    arguments := [.operand "COMMAND" "Print help for the subcommand(s)" .text true]
    takesShared := false }

namespace Program

/-- All arguments of the program itself. -/
def own (p : Program) : List Argument := p.shared ++ [helpOption, versionOption]

/-- All arguments of a subcommand. -/
def argumentsOf (p : Program) (c : Subcommand) : List Argument :=
  c.arguments ++ if c.takesShared then p.shared ++ [helpOption] else []

/-- All subcommands. -/
def all (p : Program) : List Subcommand := p.subcommands ++ [helpSubcommand]

/-- The subcommand of a name. -/
def subcommand? (p : Program) (name : String) : Option Subcommand :=
  p.all.find? fun c => c.name = name

end Program

/-- What a command line asks for. -/
inductive Request where
  | refused
  /-- Help on a subcommand, or on the program. -/
  | help (on : Option Subcommand) (long : Bool)
  | version
  /-- A subcommand, with what was given to it and to the program. -/
  | run (subcommand : Subcommand) (given shared : Given)
deriving Repr

namespace Request

/-- The request that a halted line makes. -/
def ofHalt (on : Option Subcommand) : Halt → Request
  | .refused => refused
  | .help long => help on long
  | .version => version

/-- Help by name: on the program, or on one of its subcommands, which have none themselves. -/
def helpOn (p : Program) : List String → Request
  | [] => help none true
  | [name] =>
    match p.subcommand? name with
    | some c => help (some c) true
    | none => refused
  | _ => refused

/-- The rest of a line behind the name of a subcommand. -/
def behind (p : Program) (c : Subcommand) (before : Reader) (ws : List String) : Request :=
  match (Reader.start (p.argumentsOf c)).words ws with
  | .error h => ofHalt (some c) h
  | .ok r =>
    match before.settle with
    | .error h => ofHalt none h
    | .ok before => run c r.given before.given

/-- The request of the words of a line, of which some were read. -/
def ofWordsFrom (p : Program) (r : Reader) : List String → Request
  | [] => refused
  | w :: ws =>
    match if r.isWaiting || r.operandsOnly then none else p.subcommand? w with
    | some c => if c.name = helpSubcommand.name then helpOn p ws else behind p c r ws
    | none =>
      match r.word w with
      | .ok r => ofWordsFrom p r ws
      | .error h => ofHalt none h

/-- The request of the words of a line. -/
def ofWords (p : Program) (ws : List String) : Request := ofWordsFrom p (.start p.own) ws

end Request

end SunSpec.Command
