import SunSpec.Text.Hex

/-!
# Entries of the journal

While it works, a run tells what it notices, in entries of five levels. An entry belongs to a topic,
by whose name a filter can tell it apart. A line of the journal shows the level in brackets, in
color if that is wanted, and the message with every control character that a terminal would act on
written out.
-/

namespace SunSpec.Journal

/-- How much an entry matters. -/
inductive Level where
  | error
  | warn
  | info
  | debug
  | trace
deriving DecidableEq, Repr

namespace Level

/-- All levels, from the one that matters most. -/
def all : List Level := [error, warn, info, debug, trace]

/-- The rank of a level; what matters more comes first. -/
def rank : Level → Nat
  | error => 1
  | warn => 2
  | info => 3
  | debug => 4
  | trace => 5

/-- The name of a level. -/
def name : Level → String
  | error => "error"
  | warn => "warn"
  | info => "info"
  | debug => "debug"
  | trace => "trace"

/-- The mark of a level in a line. -/
def mark : Level → String
  | error => "[ERROR]"
  | warn => "[WARN]"
  | info => "[INFO]"
  | debug => "[DEBUG]"
  | trace => "[TRACE]"

/-- The number of the color of a level. -/
def color : Level → Nat
  | error => 31
  | warn => 33
  | info => 32
  | debug => 34
  | trace => 35

/-- The level that is asked for by repeating the wish to hear more, or by the wish to hear nothing
but errors, which goes first. -/
def ofVerbosity (verbose : Nat) (quiet : Bool) : Level :=
  if quiet then error
  else match verbose with
    | 0 => warn
    | 1 => info
    | 2 => debug
    | _ => trace

end Level

/-- What an entry is about. -/
inductive Topic where
  | definition
  | model
  | resolver
  | codec
  | registerMap
  | discovery
  | dataset
  /-- The command itself. -/
  | command
deriving DecidableEq, Repr

/-- The name of a topic, as filters know it. -/
def Topic.name : Topic → String
  | definition => "suns_model::definition"
  | model => "suns_model::model"
  | resolver => "suns_model::resolver"
  | codec => "suns_model::codec"
  | registerMap => "suns_model::register_map"
  | discovery => "suns_model::discovery"
  | dataset => "suns_model::dataset"
  | command => "suns"

/-- An entry of the journal. -/
structure Entry where
  level : Level
  topic : Topic
  message : String
deriving DecidableEq, Repr

namespace Entry

/-- A character of a message; those that a terminal would act on are written out. -/
def visible (c : Char) : List Char :=
  let n := c.toNat
  if [0x07, 0x08, 0x0C, 0x1B, 0x7F].contains n then ['\\', 'x'] ++ Hex.digits 2 n
  else if 0x80 ≤ n && n ≤ 0x9F then ['\\', 'u', '\x7b'] ++ Hex.digits 2 n ++ ['\x7d']
  else [c]

/-- The mark of a level, in color or not. -/
def markText (color : Bool) (l : Level) : String :=
  if color then s!"\x1b[{l.color}m{l.mark}\x1b[0m" else l.mark

/-- The line of an entry. -/
def line (color : Bool) (e : Entry) : String :=
  markText color e.level ++ " " ++ String.ofList (e.message.toList.flatMap visible) ++ "\n"

end Entry

end SunSpec.Journal
