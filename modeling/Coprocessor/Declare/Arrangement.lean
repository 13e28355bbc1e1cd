import Coprocessor.Declare.Lexeme

/-!
# The order of arguments

Between the angle brackets after a name stand its arguments, in any order. When they
are written again lifetimes come first : `arranged` puts them so, in every list of a
code, and adds the comma that the last lifetime may lack. Angle brackets that hold
no arguments, and code that only looks like a type, stay as they are.
-/

namespace Coprocessor.Declare

/-! ## Lists -/

/-- An item of a list. -/
structure Item where
  /-- The item itself. -/
  code : Code
  /-- Whether a comma follows it. -/
  ended : Bool
  deriving DecidableEq, Repr

/-- An item as it is written. -/
def Item.written (i : Item) : Code :=
  i.code ++ if i.ended then [.sign ','] else []

/-- Items as they are written, those of a kind first. -/
def inOrder (goesFirst : Item → Bool) (items : List Item) : Code :=
  let first := items.filter goesFirst
  let others := items.filter (!goesFirst ·)
  let comma := if first.getLast?.any (!·.ended) && !others.isEmpty then [.sign ','] else []
  first.flatMap Item.written ++ comma ++ others.flatMap Item.written

/-- What all go first keeps its order. -/
theorem inOrder_of_all {goesFirst : Item → Bool} {items : List Item}
    (h : items.all goesFirst = true) : inOrder goesFirst items = items.flatMap Item.written := by
  simp only [List.all_eq_true] at h
  have others : items.filter (!goesFirst ·) = [] := by
    simpa [List.filter_eq_nil_iff] using h
  simp [inOrder, others, List.filter_eq_self.2 h]

/-- Whether an item is a lifetime. -/
def Item.isLifetime (i : Item) : Bool :=
  match i.code with
  | [l, .word _] => l.isMark '\''
  | _ => false

/-! ## Brackets -/

/-- What stands between brackets. -/
inductive Frame.Kind where
  /-- Arguments of a name. -/
  | arguments
  /-- A type, in angle brackets. -/
  | angles
  /-- Types. -/
  | types
  /-- An expression, in which an angle bracket is seldom a bracket. -/
  | expression
  /-- Code of no known kind. -/
  | verbatim
  deriving DecidableEq, Repr

/-- Brackets that are open. -/
structure Frame where
  /-- What stands between them. -/
  kind : Frame.Kind
  /-- The bracket that opened them. -/
  opening : Code := []
  /-- The items that are complete. -/
  items : List Item := []
  /-- The lexemes after them. -/
  current : Code := []
  deriving DecidableEq, Repr

/-- The words after which an angle bracket belongs to no name. -/
def keywords : List String :=
  ["as", "async", "const", "dyn", "extern", "fn", "for", "impl", "in", "let", "match", "mut", "ref",
    "return", "unsafe", "where"]

/-- Whether a lexeme is a name that arguments may follow. -/
def Lexeme.isName : Lexeme → Bool
  | .word s => !keywords.contains s
  | _ => false

namespace Frame

/-- The items, with the one that is open. -/
def allItems (f : Frame) : List Item :=
  f.items ++ if f.current.isEmpty then [] else [⟨f.current, false⟩]

/-- What stands between the brackets, and the opening one. -/
def written (f : Frame) : Code :=
  f.opening ++ if f.kind = .arguments then inOrder Item.isLifetime f.allItems else f.current

/-- Takes lexemes into the brackets. -/
def add (f : Frame) (c : Code) : Frame :=
  { f with current := f.current ++ c }

/-- Whether what came last is the sign of a path. -/
def afterPath (f : Frame) : Bool :=
  match f.current.reverse with
  | m :: l :: _ => l.isPathSign m
  | _ => false

/-- Whether a type came last to which a value is converted. -/
def afterCast (f : Frame) : Bool :=
  (f.current.reverse.dropWhile fun l => l.isName || l.isMark ':').head? == some (.word "as")

/-- Whether what came last is an arrow but for its head. -/
def atArrow (f : Frame) : Bool :=
  f.current.getLast?.any fun l => l.isJoint '-' || l.isJoint '='

/-- What a bracket that opens here holds. -/
def inner (f : Frame) (l : Lexeme) : Kind :=
  let isMacro :=
    match f.current.reverse with
    | m :: w :: _ => m.isMark '!' && (w.isName || w.isMark '#')
    | _ => false
  let isAttribute := l.isMark '[' && f.current.getLast?.any (·.isMark '#')
  if f.kind = .verbatim || isMacro || isAttribute then .verbatim
  else if f.kind = .expression || l.isMark '\x7b' then .expression
  else .types

/-- What an angle bracket opens here, if it opens anything. -/
def innerAngles? (f : Frame) : Option Kind :=
  match f.kind with
  | .verbatim => none
  | .expression => if f.afterPath || f.afterCast then some .arguments else none
  | _ =>
    if f.afterPath || f.current.getLast?.any Lexeme.isName then some .arguments else some .angles

/-- Whether an angle bracket closes the brackets. -/
def closesAngles (f : Frame) : Bool :=
  (f.kind = .arguments || f.kind = .angles) && !f.atArrow

/-- Takes a lexeme that neither opens nor closes anything. -/
def take (f : Frame) (l : Lexeme) : Frame :=
  if l.isMark ',' && f.kind = .arguments then
    { f with items := f.items ++ [⟨f.current, true⟩], current := [] }
  else if l.isMark ';' && f.kind = .types && f.opening.any (·.isMark '[') then
    { f.add [l] with kind := .expression }
  else f.add [l]

/-- Takes a lexeme, `outside` being the brackets around these, the inmost first. -/
def step : Frame × List Frame → Lexeme → Frame × List Frame
  | (f, outside), l =>
    if l.opens then ({ kind := f.inner l, opening := [l] }, f :: outside)
    else if l.isMark '<' && f.innerAngles?.isSome then
      ({ kind := f.innerAngles?.getD .angles, opening := [l] }, f :: outside)
    else if l.closes || (l.isMark '>' && f.closesAngles) then
      match outside with
      | [] => (f.add [l], [])
      | g :: outside => (g.add (f.written ++ [l]), outside)
    else (f.take l, outside)

/-- The brackets `f` with all lexemes of a code inside. -/
def filled (f : Frame) (c : Code) : Frame :=
  let (g, outside) := c.foldl step (f, [])
  outside.foldl (fun g h => h.add g.written) g

end Frame

/-! ## Codes -/

/-- Types with the arguments of names in order. -/
def arranged (c : Code) : Code :=
  (Frame.filled { kind := .types } c).written

/-- The items of a list of types, each in order. -/
def arrangedItems (c : Code) : List Item :=
  (Frame.filled { kind := .arguments } c).allItems

end Coprocessor.Declare
