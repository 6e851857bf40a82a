import SunSpec.Command.Words

/-!
# Help on commands

The text that describes a program or a subcommand: what it is for, how it is called, its
subcommands, operands and options. The short form has one line for each option; the long form, which
a command has only if there is more to say, has a paragraph.
-/

namespace SunSpec.Command.Help

/-! ## Arguments -/

/-- The name of a value as a call shows it. -/
def valueName (a : Argument) (name : String) : String :=
  match a.form with
  | .option .. => s!" <{name}>"
  | .operand many => s!"[{name}]" ++ if many then "..." else ""

/-- What follows the names of an argument. -/
def suffix (a : Argument) : String :=
  match a.effect with
  | .value name .. => valueName a name
  | .counted => "..."
  | .flag | .help | .version => ""

/-- The names of an argument, and what follows them; a missing letter leaves its room. -/
def heading (a : Argument) : String :=
  match a.form with
  | .operand _ => suffix a
  | .option (some c) long => s!"-{c}, --{long}" ++ suffix a
  | .option none long => s!"    --{long}" ++ suffix a

/-- The values that an argument chooses from, on one line. -/
def choicesNote (cs : List Choice) : String :=
  "[possible values: " ++ ", ".intercalate (cs.map Choice.name) ++ "]"

/-- So many spaces. -/
def blanks (n : Nat) : String := String.ofList (List.replicate n ' ')

/-- The indentation of paragraphs. -/
def indent : String := blanks 10

/-- The values that an argument chooses from, in a paragraph, with their descriptions in a
column. -/
def choicesList (cs : List Choice) : String :=
  let width := cs.foldl (fun n c => max n c.name.length) 0
  let described (c : Choice) : String :=
    if c.about.isEmpty then "" else ": " ++ blanks (width - c.name.length) ++ c.about
  "Possible values:" ++ String.join (cs.map fun c =>
    "\n" ++ indent ++ "- " ++ c.name ++ described c)

/-- The domain of an argument is shown as a paragraph of choices. -/
def listsChoices (long : Bool) (a : Argument) : Bool := long && a.domain?.any Domain.isExplained

/-- The notes behind the description of an argument: its default, and its choices. -/
def notes (long : Bool) (a : Argument) : List String :=
  let default := a.default.toList.map fun d => s!"[default: {d}]"
  let choices := ((a.domain?.map Domain.choices).getD [])
  default ++ if choices.isEmpty || listsChoices long a then [] else [choicesNote choices]

/-- The description of an argument; one that asks for help says what the other form would show. -/
def about (more long : Bool) (a : Argument) : String :=
  match a.effect with
  | .help =>
    if !more then "Print help"
    else if long then "Print help (see a summary with '-h')"
    else "Print help (see more with '--help')"
  | _ => a.about

/-- The line of an argument among others, whose widest heading has `width` characters. -/
def line (more : Bool) (width : Nat) (a : Argument) : String :=
  let parts := about more false a :: notes false a
  let h := heading a
  "  " ++ h ++ blanks (width + 2 - h.length) ++
    " ".intercalate (parts.filter (· ≠ ""))

/-- The paragraph of an argument. -/
def paragraph (more : Bool) (a : Argument) : String :=
  let noted := "\n".intercalate (notes true a)
  let listed := if listsChoices true a then
    [choicesList ((a.domain?.map Domain.choices).getD [])] else []
  let parts := ([about more true a, noted] ++ listed).filter (· ≠ "")
  "  " ++ heading a ++ "\n" ++ indent ++ ("\n\n" ++ indent).intercalate parts

/-- Arguments, one below the other. -/
def block (more long : Bool) (as : List Argument) : String :=
  let width := as.foldl (fun n a => max n (heading a).length) 2
  if long then "\n\n".intercalate (as.map (paragraph more))
  else "\n".intercalate (as.map (line more width))

/-! ## Order -/

/-- An option with its place in the table that it comes from. -/
abbrev Placed := Nat × Argument

/-- What options of one place are ordered by: the letter, or else the long name. -/
def orderKey (a : Argument) : String :=
  match a.form with
  | .option (some c) _ => c.toLower.toString ++ if c.isUpper then "1" else "0"
  | .option none long => long
  | .operand _ => a.key

/-- One option stands in front of another one, or they are the same. -/
def precedes (a b : Placed) : Bool :=
  a.1 < b.1 || (a.1 == b.1 && (orderKey a.2 < orderKey b.2 || orderKey a.2 == orderKey b.2))

/-- Two tables of options as one, option by option. -/
def interleave (as bs : List Argument) : List Argument :=
  let placed (xs : List Argument) : List Placed := xs.zipIdx.map fun (a, i) => (i, a)
  ((placed as ++ placed bs).mergeSort precedes).map Prod.snd

/-! ## Pages -/

/-- A page of help. -/
structure Page where
  about : String
  /-- The command as it is called, and what follows it. -/
  usage : String
  subcommands : List Subcommand
  operands : List Argument
  options : List Argument
  /-- There is a long form beside the short one. -/
  more : Bool

/-- The lines of subcommands. -/
def subcommandLines (cs : List Subcommand) : String :=
  let width := cs.foldl (fun n c => max n c.name.length) 2
  "\n".intercalate (cs.map fun c =>
    "  " ++ c.name ++ blanks (width + 2 - c.name.length) ++ c.about)

/-- A section with a title, if there is anything in it. -/
def part (title content : String) : List String :=
  if content.isEmpty then [] else [title ++ ":\n" ++ content]

/-- The text of a page. -/
def Page.text (p : Page) (long : Bool) : String :=
  "\n\n".intercalate
    ([p.about, "Usage: " ++ p.usage] ++ part "Commands" (subcommandLines p.subcommands) ++
      part "Arguments" (block p.more long p.operands) ++
      part "Options" (block p.more long p.options)) ++ "\n"

/-- Some argument has more to say in the long form. -/
def explains (as : List Argument) : Bool := as.any (listsChoices true)

/-- The page of a program. -/
def ofProgram (p : Program) (long : Bool) : String :=
  Page.text
    { about := if long then p.longAbout else p.about
      usage := s!"{p.name} [OPTIONS] <COMMAND>"
      subcommands := p.all
      operands := []
      options := p.shared ++ [helpOption, versionOption]
      more := true } long

/-- The page of a subcommand. -/
def ofSubcommand (p : Program) (c : Subcommand) (long : Bool) : String :=
  let operands := c.arguments.filter Argument.isOperand
  let own := c.arguments.filter (!·.isOperand)
  let options := if c.takesShared then interleave own p.shared ++ [helpOption] else own
  let more := explains c.arguments
  Page.text
    { about := c.about
      usage := " ".intercalate ([p.name, c.name] ++
        (if options.isEmpty then [] else ["[OPTIONS]"]) ++ operands.map suffix)
      subcommands := []
      operands
      options
      more } (long && more)

/-- The page that is asked for. -/
def page (p : Program) (on : Option Subcommand) (long : Bool) : String :=
  match on with
  | none => ofProgram p long
  | some c => ofSubcommand p c long

end SunSpec.Command.Help
