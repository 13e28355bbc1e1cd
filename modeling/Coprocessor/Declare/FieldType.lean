import Coprocessor.Declare.Constant

/-!
# Types of fields

A field has a type that goes by a name, or lists or arrays of such a type. One type
can be written in many ways : in brackets, with the path to its name, with a comma
after an argument, the length of an array as an expression. `FieldType.ofCode?` sees
through them.
-/

namespace Coprocessor.Declare

/-- The type of a field. -/
inductive FieldType where
  /-- A type that goes by a name. -/
  | named (name : String)
  /-- Lists of a type. -/
  | list (element : FieldType)
  /-- Arrays of a type. -/
  | array (element : FieldType) (length : Nat)
  deriving DecidableEq, Repr

/-- A name without the mark of a name that is a keyword else. -/
def plainName (s : String) : String :=
  match s.toList with
  | 'r' :: '#' :: r => String.ofList r
  | _ => s

namespace FieldType

/-- The last name of the path that a code begins with, and what follows it. -/
def pathEnd? : Code → Option (String × Code)
  | .word s :: l :: m :: .word t :: r =>
    if l.isPathSign m then pathEnd? (.word t :: r) else some (plainName s, l :: m :: .word t :: r)
  | .word s :: r => some (plainName s, r)
  | _ => none

/-- A path without the sign in front of it. -/
def withoutRoot : Code → Code
  | l :: m :: r => if l.isPathSign m then r else l :: m :: r
  | c => c

/-- What follows a sign. -/
def after? (c : Char) : Code → Option Code
  | l :: r => if l.isMark c then some r else none
  | [] => none

/-- The type that a code begins with, and what follows it. -/
def read? : Nat → Code → Option (FieldType × Code)
  | 0, _ => none
  | fuel + 1, c =>
    match after? '(' c, after? '[' c with
    | some r, _ => do
      let (t, r) ← read? fuel r
      return (t, ← after? ')' r)
    | none, some r => do
      let (t, r) ← read? fuel r
      let (n, r) ← Constant.number? (← after? ';' r)
      return (array t n, ← after? ']' r)
    | none, none => do
      let (name, r) ← pathEnd? (withoutRoot c)
      match after? '<' (withoutRoot r) with
      | some r => do
        let (t, r) ← read? fuel r
        let r ← after? '>' ((after? ',' r).getD r)
        if name = "Vec" then return (list t, r) else none
      | none => return (named name, r)

/-- The type that a code means. -/
def ofCode? (c : Code) : Option FieldType :=
  match read? (c.length + 1) c with
  | some (t, []) => some t
  | _ => none

end FieldType

end Coprocessor.Declare
