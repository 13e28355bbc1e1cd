import Coprocessor.Declare.Spec
import Coprocessor.Declare.Tagging

/-!
# Declared values

The values of a declared type are records of the shapes of its fields, one kind
of record for each variant. `Layout.codec` is the byte form that the derived code
gives them, `Layout.Value.shown` the text that shows their structure.
-/

namespace Coprocessor.Declare

/-! ## Records -/

/-- The values of fields with the given shapes. -/
def Record : List Shape → Type
  | [] => Unit
  | f :: fs => f.Value × Record fs

namespace Record

/-- The byte form of records. -/
def codec : (fs : List Shape) → Codec (Record fs)
  | [] => { encode := fun _ => [], decode := pure () }
  | f :: fs => .pair f.codec (codec fs)

/-- How each field is written. -/
def writers : (fs : List Shape) → Record fs → List (Spec → Option (List Char))
  | [], _ => []
  | f :: fs, (v, r) => (fun s => s.write? f v) :: writers fs r

/-- The numbers that the fields are, as far as they are numbers. -/
def numbers : (fs : List Shape) → Record fs → List (Option Nat)
  | [], _ => []
  | .integer _ :: fs, ((v : Int), r) => some v.toNat :: numbers fs r
  | _ :: fs, (_, r) => none :: numbers fs r

end Record

/-! ## Layouts -/

/-- A variant, or the one form of a record. -/
structure Alternative where
  /-- Its name. -/
  name : String
  /-- Its fields as declared. -/
  body : Body
  /-- Their shapes. -/
  fields : List Shape
  /-- Its tag. -/
  tag : Int := 0

/-- What the values of a type are. -/
structure Layout where
  /-- The type of the tags, if there are tags. -/
  tagType : Option TagType
  /-- The forms that a value can have. -/
  alternatives : List Alternative

namespace Layout

/-- A value : one of the forms, and its fields. -/
def Value (l : Layout) : Type :=
  (i : Fin l.alternatives.length) × Record (l.alternatives.get i).fields

/-- The tag of a form. -/
def writeTag (l : Layout) (a : Alternative) : Bytes :=
  l.tagType.elim [] fun t => t.codec.encode a.tag

/-- Reads a tag, and finds the first form that has it. -/
def readTag (l : Layout) : Decoder (Fin l.alternatives.length) :=
  match l.tagType with
  | some t => t.codec.decode.filterMap fun n => l.alternatives.findFinIdx? (·.tag == n)
  | none => if h : 0 < l.alternatives.length then pure ⟨0, h⟩ else Decoder.fail .invalidValue

/-- The form of that name. -/
def named? (l : Layout) (name : String) : Option (Fin l.alternatives.length) :=
  l.alternatives.findFinIdx? (·.name == Text.composed name)

/-- The byte form of values. -/
def codec (l : Layout) : Codec l.Value where
  encode v := l.writeTag (l.alternatives.get v.1) ++ (Record.codec _).encode v.2
  decode := do
    let i ← l.readTag
    return ⟨i, ← (Record.codec _).decode⟩

end Layout

/-- The text that shows a record, by the texts of its fields. -/
def Body.shown (s : Spec) (name : String) (texts : List (List Char)) : Body → List Char
  | named fs =>
    s.namedRecord (plainName name).toList ((fs.map fun f => (plainName f.1).toList).zip texts)
  | positional _ => s.positionalRecord (plainName name).toList texts
  | bare => (plainName name).toList

/-- The text that shows the structure of a value. -/
def Layout.Value.shown {l : Layout} (s : Spec) (v : l.Value) : List Char :=
  let a := l.alternatives.get v.1
  a.body.shown s a.name ((Record.writers a.fields v.2).filterMap fun w => w s)

/-! ## Layouts of declarations -/

/-- The form of values with the given fields. -/
def Body.alternative? (b : Body) (name : String) (tag : Int) : Option Alternative :=
  let shapes := b.fields.mapM fun f => (FieldType.ofCode? f.type).bind Shape.ofType?
  shapes.map fun fields => { name, body := b, fields, tag }

/-- The layout of a type with the given tags. It has no forms if a field has no shape. -/
def TypeDecl.layout (d : TypeDecl) (tagging : Option (TagType × List Int)) : Layout :=
  let alternatives : Option (List Alternative) :=
    match d.definition with
    | .record b => (b.alternative? d.name 0).map ([·])
    | .choice vs =>
      let tags : List Int := tagging.elim (vs.map fun _ => 0) (·.2)
      (vs.zip tags).mapM fun t => t.1.body.alternative? t.1.name t.2
    | .union => none
  ⟨tagging.map (·.1), alternatives.getD []⟩

end Coprocessor.Declare
