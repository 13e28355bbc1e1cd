import Coprocessor.Declare.TypeDecl

/-!
# Captions

The message of an error is a text with places for its fields : a place in curly
brackets names a field, and may say after a colon how the field is written. Fields
by position are first given names, in the text too.
-/

namespace Coprocessor.Declare

/-! ## Replacing -/

/-- `s` with every occurrence of `old` replaced, those found first from the front; the
first `skip` characters belong to one that is replaced already. -/
def replacedFrom (old new : List Char) (skip : Nat) : List Char → List Char
  | [] => []
  | c :: r =>
    match skip with
    | skip + 1 => replacedFrom old new skip r
    | 0 =>
      if old.isPrefixOf (c :: r) then new ++ replacedFrom old new (old.length - 1) r
      else c :: replacedFrom old new 0 r

/-- `s` with every occurrence of a text that is not empty replaced. -/
def replaced (old new s : List Char) : List Char :=
  replacedFrom old new 0 s

/-- Whether a text that is not empty occurs in `s`. -/
def occurs (part : List Char) : List Char → Bool
  | [] => false
  | c :: r => part.isPrefixOf (c :: r) || occurs part r

/-- Where the text to replace does not occur, all stays as it is. -/
theorem replaced_of_not_occurs {old new s : List Char} (h : occurs old s = false) :
    replaced old new s = s := by
  induction s with
  | nil => rfl
  | cons c r ih =>
    simp only [occurs, Bool.or_eq_false_iff] at h
    have := ih h.2
    simp only [replaced] at this
    simp [replaced, replacedFrom, h.1, this]

/-! ## Places -/

/-- The text of a place that ends after its name. -/
def closedPlace (name : String) : List Char :=
  '\x7b' :: name.toList ++ ['\x7d']

/-- The front of a place that goes on after its name. -/
def openPlace (name : String) : List Char :=
  '\x7b' :: name.toList ++ [':']

/-- A message in which the places of position `i` name the field. -/
def namedAt (s : List Char) (i : Nat) : List Char :=
  let position := toString i
  let name := s!"f{i}"
  replaced (openPlace position) (openPlace name)
    (replaced (closedPlace position) (closedPlace name) s)

/-- A message in which the fields of `n` positions are named. -/
def withNames (n : Nat) (message : String) : String :=
  String.ofList ((List.range n).reverse.foldl namedAt message.toList)

/-- Whether a message mentions a field. -/
def mentions (message name : String) : Bool :=
  occurs (closedPlace name) message.toList || occurs (openPlace name) message.toList

/-! ## Captions -/

/-- A message, and the fields that it mentions. -/
structure Caption where
  /-- The message, its places named. -/
  text : String
  /-- The number and name of each field that it mentions, in order. -/
  mentioned : List (Nat × String)
  deriving DecidableEq, Repr

/-- The caption of a value with the given fields. -/
def Body.caption (message : String) (b : Body) : Caption :=
  let text :=
    match b with
    | positional fs => withNames fs.length message
    | _ => message
  ⟨text, ((List.range b.names.length).zip b.names).filter fun m => mentions text m.2⟩

/-- The message that attributes give the owner of that description. -/
def messageOf (owner : String) (attributes : List Attribute) : Except Refusal String :=
  match attributes.find? (·.isNamed "error") with
  | none => .error (.noMessage owner)
  | some a =>
    match a.content with
    | .bracketed [.text s _] => .ok s
    | .bracketed _ => .error .messageNotText
    | _ => .error .messageNotBracketed

/-- The caption of a variant. -/
def Variant.caption (v : Variant) : Except Refusal Caption :=
  (messageOf s!"variant `{v.name}`" v.attributes).map (v.body.caption ·)

/-- The captions of a type, one for each variant of a choice. -/
def TypeDecl.captions (d : TypeDecl) : Except Refusal (List Caption) :=
  match d.definition with
  | .record b => (messageOf s!"type `{d.name}`" d.attributes).map fun m => [b.caption m]
  | .choice vs => vs.mapM Variant.caption
  | .union => .error .errorOfUnion

/-! ## Conversions -/

/-- The type that a variant can be made from, if it is marked so. -/
def Variant.source? (v : Variant) : Except Refusal (Option Code) :=
  match v.body with
  | .positional fs =>
    match fs.filter (·.attributes.any (·.isNamed "from")), fs with
    | [], _ => .ok none
    | [f], [_] => .ok (some f.type)
    | _, _ => .error .notOneField
  | _ => .ok none

end Coprocessor.Declare
