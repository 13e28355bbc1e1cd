import Coprocessor.Declare.Constant
import Coprocessor.Declare.TypeDecl
import Coprocessor.Wire.Codec

/-!
# Tags

A value of a choice begins with the number of its variant. The type of that number
is an option of the declaration, unsigned 8 bit integers unless it says otherwise.
A variant without a number of its own has the one after the variant before it.
-/

namespace Coprocessor.Declare

/-! ## Tag types -/

/-- A type of tags. -/
inductive TagType where
  /-- Unsigned 8 bit integers. -/
  | u8
  /-- Unsigned 16 bit integers. -/
  | u16
  /-- Unsigned 32 bit integers. -/
  | u32
  /-- Signed 8 bit integers. -/
  | i8
  /-- Signed 16 bit integers. -/
  | i16
  /-- Signed 32 bit integers. -/
  | i32
  deriving DecidableEq, Repr

namespace TagType

/-- The tag types. -/
def all : List TagType :=
  [u8, u16, u32, i8, i16, i32]

/-- The name of a tag type. -/
def name : TagType → String
  | u8 => "u8"
  | u16 => "u16"
  | u32 => "u32"
  | i8 => "i8"
  | i16 => "i16"
  | i32 => "i32"

/-- The tag type with the given name. -/
def ofName? (s : String) : Option TagType :=
  all.find? (·.name == s)

/-- The byte form of tags. -/
def codec : TagType → Codec Int
  | u8 => Codec.u8.iso (fun v => (v.toNat : Int)) fun n => UInt8.ofInt n
  | u16 => Codec.u16.iso (fun v => (v.toNat : Int)) fun n => UInt16.ofInt n
  | u32 => Codec.u32.iso (fun v => (v.toNat : Int)) fun n => UInt32.ofInt n
  | i8 => Codec.i8.iso Int8.toInt Int8.ofInt
  | i16 => Codec.i16.iso Int16.toInt Int16.ofInt
  | i32 => Codec.i32.iso Int32.toInt Int32.ofInt

theorem ofName?_name (t : TagType) : ofName? t.name = some t := by
  cases t <;> decide

end TagType

/-! ## Options -/

/-- What follows the parts of a path that come after its first. -/
def afterPath : Code → Except Refusal Code
  | l :: m :: .word w :: r => if l.isPathSign m then afterPath r else .ok (l :: m :: .word w :: r)
  | l :: m :: r => if l.isPathSign m then .error (.notName r.isEmpty) else .ok (l :: m :: r)
  | c => .ok c

/-- The first part of a path, which a sign may precede, and what follows. -/
def pathStart : Code → Bool × Code
  | l :: m :: r => if l.isPathSign m then (true, r) else (false, l :: m :: r)
  | c => (false, c)

/-- The name of an option, if it is one word, and what follows. -/
def optionName (c : Code) : Except Refusal (Option String × Code) :=
  match pathStart c with
  | (_, []) => .error .noOption
  | (signed, .word w :: r) => do
    let after ← afterPath r
    return (if !signed && after == r then some w else none, after)
  | (_, .mark m _ :: r) =>
    if m = '-' && r.head?.any Lexeme.isNumber then .error .literalOption else .error .strayOption
  | _ => .error .literalOption

/-- The value of an option, and what follows. -/
def optionValue : Code → Except Refusal (String × Code)
  | .mark '=' _ :: .text s _ :: r => .ok (s, r)
  | .mark '=' _ :: r => .error (.notText r.isEmpty)
  | _ => .error .noEquals

/-- What follows an option : nothing, or a comma and perhaps more. -/
def afterOption : Code → Except Refusal Code
  | [] => .ok []
  | .mark ',' _ :: r => .ok r
  | _ => .error .noComma

/-- An option of the codec, which names the tag type, and what follows. -/
def tagOption (c : Code) : Except Refusal (String × Code) := do
  let (name, r) ← optionName c
  if name ≠ some "repr" then .error .unknownOption
  let (value, r) ← optionValue r
  return (value, ← afterOption r)

/-- The last tag type that at most `count` options name, `last` being the one before them. -/
def tagOptions (last : String) : Nat → Code → Except Refusal String
  | 0, _ | _, [] => .ok last
  | count + 1, l :: c => do
    let (value, r) ← tagOption (l :: c)
    tagOptions value count r

/-- The tag type that an attribute names, `last` being the one before it. -/
def tagAttribute (last : String) (a : Attribute) : Except Refusal String :=
  match a.content with
  | .bare => .error .noOptions
  | .value _ => .error .optionsAssigned
  | .bracketed c => tagOptions last c.length c

/-- The type of the tags of a choice. -/
def TypeDecl.tagType (d : TypeDecl) : Except Refusal TagType := do
  let name ← (d.attributes.filter (·.isNamed "binary_codec")).foldlM tagAttribute "u8"
  match TagType.ofName? name with
  | some t => .ok t
  | none => .error (.unknownTagType name)

/-! ## Numbers of variants -/

/-- The greatest number of a variant. -/
def maxNumber : Nat := 0x7FFFFFFFFFFFFFFF

/-- The number that a variant is given : an integer literal behind minus signs and
attributes. -/
def variantNumber (c : Code) : Except Refusal Int :=
  match _h : withoutAttributes c with
  | .mark '-' _ :: r => (variantNumber r).map (- ·)
  | [.number s] =>
    match integer? s with
    | some n => if n ≤ maxNumber then .ok n else .error .tooLarge
    | none => .error .notInteger
  | _ => .error .notInteger
termination_by c.length
decreasing_by
  have := congrArg List.length _h
  simp only [withoutAttributes, List.length_drop, List.length_cons] at this
  omega

/-- The number after another, in 64 bits. -/
def following (n : Int) : Int :=
  if n = maxNumber then -maxNumber - 1 else n + 1

/-- The numbers of variants, `next` being that of the first unless it has its own. -/
def variantNumbers (next : Int) : List Variant → Except Refusal (List Int)
  | [] => .ok []
  | v :: vs => do
    let n ← v.number.elim (.ok next) variantNumber
    return n :: (← variantNumbers (following n) vs)

/-- How the values of a type are told apart in their byte form : for a choice, by tags
of some type, one for each variant. -/
def TypeDecl.tagging (d : TypeDecl) : Except Refusal (Option (TagType × List Int)) :=
  match d.definition with
  | .record _ => .ok none
  | .choice vs => do
    let t ← d.tagType
    return some (t, ← variantNumbers 0 vs)
  | .union => .error .codecOfUnion

/-- There is a number for each variant. -/
theorem length_of_variantNumbers {vs : List Variant} {next : Int} {ns : List Int}
    (h : variantNumbers next vs = .ok ns) : ns.length = vs.length := by
  induction vs generalizing next ns with
  | nil =>
    simp only [variantNumbers, Except.ok.injEq] at h
    simp [← h]
  | cons v vs ih =>
    simp only [variantNumbers] at h
    cases hn : v.number.elim (.ok next) variantNumber with
    | error e => simp [hn, bind, Except.bind] at h
    | ok n =>
      cases hr : variantNumbers (following n) vs with
      | error e => simp [hn, hr, bind, Except.bind] at h
      | ok rest =>
        simp only [hn, hr, bind, Except.bind, pure, Except.pure, Except.ok.injEq] at h
        simp [← h, ih hr]

end Coprocessor.Declare
