import Coprocessor.Log

/-!
# How a program ends

A program ends with an exit status. Until then it has written to its output and,
for the reader at the terminal, messages and lines of the log.
-/

namespace Coprocessor.CommandLine

/-- What a program leaves behind. -/
structure Outcome where
  /-- The exit status. -/
  exit : UInt32 := 0
  /-- Its output. -/
  output : String := ""
  /-- Its messages, which come before the log. -/
  messages : String := ""
  /-- Its log. -/
  entries : List Log.Entry := []
  deriving DecidableEq, Repr

/-- All that is written besides the output. -/
def Outcome.diagnostics (s : Log.Settings) (time : String) (o : Outcome) : String :=
  o.messages ++ Log.render s time o.entries

/-- An outcome of a failure that the log tells of. -/
def Outcome.failed (exit : UInt32) (message : String) : Outcome where
  exit := exit
  entries := [⟨.error, message⟩]

/-- Why a command line is not carried out. -/
inductive Misuse where
  /-- It asks for help. -/
  | help
  /-- It is too short. -/
  | tooShort
  /-- The address makes no sense. -/
  | badAddress (role text : String)
  /-- Something is not known. -/
  | unexpected (role text : String)
  /-- The command is missing. -/
  | noCommand
  /-- The command is not known. -/
  | unknownCommand (text : String)
  /-- An option needs a value. -/
  | noValue (option : String)
  /-- The value of an option is no number. -/
  | notNumber (option text : String)
  /-- The pace is not given as two numbers. -/
  | badPace
  /-- A command needs an operand. -/
  | noOperand (command what : String)
  deriving DecidableEq, Repr

namespace Misuse

/-- The line that says what is wrong, if it needs saying. -/
def message? : Misuse → Option String
  | help | tooShort => none
  | badAddress role text => some s!"Invalid {role} address: {text}"
  | unexpected role text => some s!"Unexpected {role}: {text}"
  | noCommand => some "Missing command"
  | unknownCommand text => some s!"Unknown command: {text}"
  | noValue option => some s!"{option} requires an argument"
  | notNumber option text => some s!"Invalid value for {option}: '{text}' is not a number"
  | badPace => some "--pace requires <chunk>:<delay_ms>"
  | noOperand command what => some s!"{command} requires {what}"

/-- Whether the usage is shown. -/
def showsUsage : Misuse → Bool
  | help | tooShort | unexpected .. | noCommand | unknownCommand _ => true
  | _ => false

/-- The outcome of a command line that is not carried out. -/
def outcome (usage : String) (m : Misuse) : Outcome where
  exit := if m = help then 0 else 1
  messages :=
    m.message?.elim "" (· ++ "\n" ++ (if m.showsUsage then "\n" else "")) ++
      (if m.showsUsage then usage ++ "\n" else "")

/-- Only a wish for help is met. -/
theorem exit_outcome_eq_zero_iff (usage : String) (m : Misuse) :
    (m.outcome usage).exit = 0 ↔ m = help := by
  simp only [outcome]
  split <;> simp_all

end Misuse

/-- The texts before and after the first colon of a pace. -/
def aroundColon (s : String) : Except Misuse (String × String) :=
  let front := s.toList.takeWhile (· != ':')
  match s.toList.drop front.length with
  | _ :: back => .ok (String.ofList front, String.ofList back)
  | [] => .error .badPace

end Coprocessor.CommandLine
