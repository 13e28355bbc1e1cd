import Coprocessor.Declare.Caption
import Coprocessor.Declare.Layout
import Coprocessor.Declare.Template

/-!
# Filling captions

A caption is filled by writing values into its places. Places find the fields that
the caption mentions, by number or name; a name that it does not mention may be that
of another field, or of the value itself.
-/

namespace Coprocessor.Declare

/-- A value that a place can take. -/
structure Argument where
  /-- How it is written. -/
  write? : Spec → Option (List Char)
  /-- The number it is, if it is one. -/
  number? : Option Nat := none

/-- What places can take. -/
structure Scope where
  /-- What has a number, with the names. -/
  mentioned : List (String × Argument)
  /-- What else has a name. -/
  others : List (String × Argument)

namespace Scope

/-- The value that a place chooses. -/
def chosen? (s : Scope) : Choice → Option Argument
  | .position n => (s.mentioned[n]?).map (·.2)
  | .name name => (s.mentioned.lookup name).or (s.others.lookup name)

/-- The number that a count is; none if none is asked for. -/
def counted? (s : Scope) : Count → Option (Option Nat)
  | .unset => some none
  | .exactly n => some (some n)
  | .taken c => do return some (← (← s.chosen? c).number?)

/-- A part of a message, its place filled. -/
def filled? (s : Scope) : Part → Option (List Char)
  | .plain c => some [c]
  | .place c spec width precision => do
    let width ← s.counted? width
    let precision ← s.counted? precision
    (← s.chosen? c).write? { spec with width := width.getD 0, precision }

end Scope

/-- A message filled, if all its places can be. -/
def Scope.message? (s : Scope) (message : String) : Option String := do
  return String.ofList (← (← parts? message).mapM s.filled?).flatten

/-- What the fields of a record give to places. -/
def Record.arguments (fs : List Shape) (r : Record fs) : List Argument :=
  List.zipWith Argument.mk (writers fs r) (numbers fs r)

/-- The message of a value whose type has the given captions. -/
def Layout.Value.message? {l : Layout} (captions : List Caption) (v : l.Value) : Option String := do
  let c ← captions[v.1.val]?
  let a := l.alternatives.get v.1
  let fields := Record.arguments a.fields v.2
  let mentioned ← c.mentioned.mapM fun m => (fields[m.1]?).map (m.2, ·)
  let itself : Argument := { write? := fun s => if s.structured then some (v.shown s) else none }
  let others := ("self", itself) :: (a.body.names.map plainName).zip fields
  ({ mentioned, others } : Scope).message? c.text

/-- The variant that values of a type are converted to. -/
def TypeDecl.conversion? (d : TypeDecl) (source : Code) : Option String :=
  let same (c : Code) :=
    match FieldType.ofCode? c, FieldType.ofCode? source with
    | some t, some u => t == u
    | _, _ => c == source
  match d.definition with
  | .choice vs => (vs.find? fun v => v.source?.toOption.join.any same).map (·.name)
  | _ => none

end Coprocessor.Declare
