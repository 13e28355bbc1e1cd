import Coprocessor.Text.Blank
import Coprocessor.Text.Number

/-!
# Log lines

An entry of the log has a level and a message. Entries below a least level are
left out; the least level is named in the environment and may be set while the
program runs. A line shows the time and the level unless they are turned off, and
has the colour of its level where the output takes colours.
-/

namespace Coprocessor.Log

/-! ## Levels -/

/-- How much an entry matters. -/
inductive Level where
  /-- Only for a close look. -/
  | debug
  /-- Good to know. -/
  | info
  /-- Something is odd. -/
  | warn
  /-- Something failed. -/
  | error
  deriving DecidableEq, Repr

namespace Level

/-- The place of a level among the others, from the least. -/
def rank : Level → Nat
  | debug => 0
  | info => 1
  | warn => 2
  | error => 3

/-- The name in a log line. -/
def name : Level → String
  | debug => "DEBUG"
  | info => "INFO"
  | warn => "WARN"
  | error => "ERROR"

/-- The level that a word means, blanks around it and its case left aside. -/
def ofWord? (word : String) : Option Level :=
  let word := (Text.trim word).toLower
  if word = "debug" || word = "trace" then some debug
  else if word = "info" then some info
  else if word = "warn" || word = "warning" then some warn
  else if word = "error" then some error
  else none

/-- The control sequences that turn on the colour of a level. -/
def colour : Level → String
  | debug => "\x1b[0m\x1b[2m\x1b[36m"
  | info => "\x1b[0m"
  | warn => "\x1b[0m\x1b[1m\x1b[33m"
  | error => "\x1b[0m\x1b[1m\x1b[31m"

end Level

/-! ## Lines -/

/-- An entry of the log. -/
structure Entry where
  /-- How much it matters. -/
  level : Level
  /-- What it says. -/
  message : String
  deriving DecidableEq, Repr

/-- What is shown of which entries. -/
structure Settings where
  /-- The least level shown. -/
  least : Level := .info
  /-- Whether lines show the time. -/
  showTime : Bool := true
  /-- Whether lines show the level. -/
  showLevel : Bool := true
  /-- Whether lines have colours. -/
  coloured : Bool := false
  deriving DecidableEq, Repr

/-- The name of the variable of the environment that holds the least level. -/
def variableName : String := "COPRO_LOG"

/-- The settings with the least level that a variable of the environment names. -/
def Settings.ofEnvironment (value : Option String) : Settings :=
  { least := (value.bind Level.ofWord?).getD .info }

/-- Whether an entry is shown. -/
def Settings.shows (s : Settings) (e : Entry) : Bool :=
  s.least.rank ≤ e.level.rank

/-- The line of an entry that is shown, with its end. -/
def Entry.line (s : Settings) (time : String) (e : Entry) : String :=
  (if s.coloured then e.level.colour else "") ++ (if s.showTime then time ++ " " else "") ++
    (if s.showLevel then s!"[{e.level.name}] " else "") ++ e.message ++ "\n" ++
    (if s.coloured then "\x1b[0m" else "")

/-- The lines of the entries that are shown. -/
def render (s : Settings) (time : String) (entries : List Entry) : String :=
  String.join ((entries.filter s.shows).map (Entry.line s time))

/-! ## Time -/

/-- The year, month and day of a number of days after the first of January 1970. -/
def date (days : Nat) : Nat × Nat × Nat :=
  let shifted := days + 719468
  let era := shifted / 146097
  let day := shifted % 146097
  let year := (day - day / 1460 + day / 36524 - day / 146096) / 365
  let ofYear := day - (365 * year + year / 4 - year / 100)
  let month := (5 * ofYear + 2) / 153
  let civil := if month < 10 then month + 3 else month - 9
  (year + era * 400 + (if civil ≤ 2 then 1 else 0), civil, ofYear - (153 * month + 2) / 5 + 1)

/-- The lower digits of a number, as a text. -/
def padded (width n : Nat) : String :=
  String.ofList (Text.decimalDigits width n)

/-- The time in a line, from the milliseconds since the first of January 1970. -/
def stamp (millis : Nat) : String :=
  let seconds := millis / 1000
  let (year, month, day) := date (seconds / 86400)
  s!"{padded 4 year}-{padded 2 month}-{padded 2 day} {padded 2 (seconds / 3600 % 24)}:" ++
    s!"{padded 2 (seconds / 60 % 60)}:{padded 2 (seconds % 60)}.{padded 3 (millis % 1000)}"

end Coprocessor.Log
