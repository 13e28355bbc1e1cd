import Coprocessor.Declare.FieldType
import Coprocessor.Wire.Codec

/-!
# Shapes of fields

What can be written into a message or sent : integers of some type, truth values,
texts, lists and arrays. A shape determines the type of its values (`Shape.Value`)
and their byte form (`Shape.codec`).
-/

namespace Coprocessor.Declare

/-- What the values of a field are. -/
inductive Shape where
  /-- Integers of a type. -/
  | integer (t : IntegerType)
  /-- Truth values. -/
  | bool
  /-- Texts. -/
  | text
  /-- Lists of values of one shape. -/
  | list (element : Shape)
  /-- Arrays of a fixed length. -/
  | array (element : Shape) (length : Nat)
  deriving DecidableEq, Repr

namespace Shape

/-- The shape that goes by a name. -/
def ofName? : String → Option Shape
  | "bool" => some bool
  | "String" => some text
  | s => (IntegerType.ofName? s).map integer

/-- The shape of the values of a type. -/
def ofType? : FieldType → Option Shape
  | .named s => ofName? s
  | .list t => (ofType? t).map list
  | .array t n => (ofType? t).map (array · n)

/-- The values of a shape. -/
def Value : Shape → Type
  | integer _ => Int
  | bool => Bool
  | text => String
  | list s => List s.Value
  | array s n => { xs : List s.Value // xs.length = n }

/-- The byte form of the values of a shape. -/
def codec : (s : Shape) → Codec s.Value
  | integer t => Codec.word (t.bits / 8) t.toWord t.ofWord
  | bool => Codec.bool
  | text => Codec.text
  | list s => Codec.list s.codec
  | array s n => Codec.array s.codec n

end Shape

end Coprocessor.Declare
