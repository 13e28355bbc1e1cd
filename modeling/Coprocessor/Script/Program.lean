import Coprocessor.Script.Piece

/-!
# Programs

A program is the statements of a script and its labels, each bound to the number
of statements before it. Where two labels have the same name up to case the first
one counts, and the second is no label of the program. A program must keep within
limits; those reject a script but never change the program it stands for.
-/

namespace Coprocessor.Script

/-- The greatest program that is accepted. -/
structure Limits where
  /-- The greatest number of statements. -/
  statements : Nat := 256
  /-- The greatest number of labels. -/
  labels : Nat := 64
  deriving DecidableEq, Repr

/-- Why a script is no program. -/
inductive ProgramError where
  /-- It has more statements than the limit. -/
  | tooManyStatements (limit : Nat)
  /-- It has more labels than the limit. -/
  | tooManyLabels (limit : Nat)
  deriving DecidableEq, Repr

/-- The text in messages. -/
def ProgramError.message : ProgramError → String
  | tooManyStatements limit => s!"script exceeds {limit} statements"
  | tooManyLabels limit => s!"script exceeds {limit} labels"

/-- A label and the number of the statement it is bound to. -/
structure Label where
  /-- The name. -/
  name : Bytes
  /-- The number of statements before the label. -/
  target : Nat
  deriving DecidableEq, Repr

/-- A program. -/
structure Program where
  /-- The statements, in order. -/
  statements : Array Stretch := #[]
  /-- The labels, in order, with different names. -/
  labels : Array Label := #[]
  deriving Repr

namespace Program

/-- The number of the statement a name is bound to. -/
def resolve (p : Program) (name : Bytes) : Option Nat :=
  (p.labels.find? fun l => Ascii.sameWord l.name name).map (·.target)

/-- The program with one more piece. -/
def add (limits : Limits) (p : Program) : Piece → Except ProgramError Program
  | .label name =>
    if (p.resolve name).isSome then .ok p
    else if limits.labels ≤ p.labels.size then .error (.tooManyLabels limits.labels)
    else .ok { p with labels := p.labels.push ⟨name, p.statements.size⟩ }
  | .statement s =>
    if limits.statements ≤ p.statements.size then .error (.tooManyStatements limits.statements)
    else .ok { p with statements := p.statements.push s }

/-- The program that a script stands for. -/
def parse (limits : Limits) (source : Bytes) : Except ProgramError Program :=
  (pieces source).foldlM (add limits) {}

end Program

end Coprocessor.Script
