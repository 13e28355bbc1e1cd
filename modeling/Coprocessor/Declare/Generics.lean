import Coprocessor.Declare.Arrangement

/-!
# Parameters of types

A type may have parameters : lifetimes, types and constants, each with attributes in
front and bounds behind, and perhaps what it usually is. `declared` writes them where
they are declared for a definition, `used` where the type is named. Lifetimes come
first in both.
-/

namespace Coprocessor.Declare

/-! ## Attributes in front -/

/-- The number of lexemes up to the bracket that closes what is open, `depth` more
being open inside. -/
def groupLength (depth : Nat) : Code → Nat
  | [] => 0
  | l :: r =>
    if l.opens then groupLength (depth + 1) r + 1
    else if l.closes then
      match depth with
      | 0 => 1
      | depth + 1 => groupLength depth r + 1
    else groupLength depth r + 1

/-- The number of lexemes of the attributes that a code begins with. -/
def attributesLength : Code → Nat
  | h :: b :: r =>
    if h.isMark '#' && b.isMark '[' then
      groupLength 0 r + 2 + attributesLength (r.drop (groupLength 0 r))
    else 0
  | _ => 0
termination_by c => c.length
decreasing_by simp only [List.length_cons, List.length_drop]; omega

/-- A code without the attributes in front of it. -/
def withoutAttributes (c : Code) : Code :=
  c.drop (attributesLength c)

/-! ## Parameters -/

/-- What stands before an equals sign outside all brackets, `brackets` and `angles` being
the numbers of those that are open and `arrow` whether an arrow lacks its head. -/
def beforeEquals (brackets angles : Nat) (arrow : Bool) : Code → Code
  | [] => []
  | l :: r =>
    if brackets = 0 && angles = 0 && l.isMark '=' then []
    else
      let inside :=
        if l.opens then brackets + 1 else if l.closes then brackets - 1 else brackets
      let angles :=
        if brackets ≠ 0 then angles
        else if l.isMark '<' then angles + 1
        else if l.isMark '>' && !arrow then angles - 1 else angles
      l :: beforeEquals inside angles (l.isJoint '-' || l.isJoint '=') r

/-- A parameter of a type. -/
structure Parameter where
  /-- Its attributes. -/
  attributes : Code
  /-- Its name, and the word or sign before it that tells its kind. -/
  name : Code
  /-- Its bounds, or its type if it is a constant. -/
  bounds : Code
  deriving DecidableEq, Repr

namespace Parameter

/-- The parameter with the given lexemes. What it usually is has no meaning here. -/
def ofCode (c : Code) : Parameter :=
  let itself := beforeEquals 0 0 false (withoutAttributes c)
  { attributes := c.take (attributesLength c)
    name := itself.takeWhile (!·.isMark ':')
    bounds := (itself.dropWhile (!·.isMark ':')).drop 1 }

/-- A parameter as it is declared. -/
def declared (p : Parameter) : Code :=
  p.attributes ++ p.name ++ if p.bounds.isEmpty then [] else .sign ':' :: p.bounds

/-- A parameter as it is used. -/
def used (p : Parameter) : Code :=
  p.name.filter (· != .word "const")

/-- Whether an item is a lifetime, behind its attributes. -/
def isLifetime (i : Item) : Bool :=
  (withoutAttributes i.code).head?.any (·.isMark '\'')

end Parameter

/-! ## Lists of parameters -/

/-- The parameters of a type. -/
structure Generics where
  /-- The parameters, with commas between them. -/
  parameters : Code := []
  /-- What is required of them. -/
  conditions : Code := []
  deriving DecidableEq, Repr

namespace Generics

/-- The parameters in angle brackets, each written by `f`; nothing if there are none. -/
def angled (f : Parameter → Code) (g : Generics) : Code :=
  let items := (arrangedItems g.parameters).map fun i => { i with code := f (.ofCode i.code) }
  if items.isEmpty then []
  else .sign '<' :: inOrder Parameter.isLifetime items ++ [.sign '>']

/-- The parameters as they are declared. -/
def declared (g : Generics) : Code :=
  g.angled Parameter.declared

/-- The parameters as they are used. -/
def used (g : Generics) : Code :=
  g.angled Parameter.used

/-- What is required of the parameters, as it is written. -/
def required (g : Generics) : Code :=
  if g.conditions.isEmpty then [] else .word "where" :: arranged g.conditions

end Generics

end Coprocessor.Declare
