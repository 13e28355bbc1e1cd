import Coprocessor.Declare.Tagging

/-!
# The code of a byte form

What is derived from a declaration so that its values have a byte form : a writer
and a reader. A record is its fields in order; a value of a choice is its tag and
then the fields of its variant.
-/

namespace Coprocessor.Declare

/-- Writes what stands at a place. -/
def writing (place : Code) : Code :=
  code "crate::types::encoding::Encode::encode(" ++ place ++ code ", out);"

/-- Reads the next value. -/
def reading : Code :=
  code "crate::types::encoding::Decode::decode(input)?"

/-- A tag, as an expression and as a pattern. -/
def tagLiteral (n : Int) : Code :=
  (if n < 0 then [.sign '-'] else []) ++ [.number (toString n.natAbs)]

/-! ## Records -/

/-- Writes the fields of a record. -/
def Body.writer (b : Body) : Code :=
  match b with
  | .bare => code "let _ = out;"
  | _ => b.places.flatMap fun p => writing (.sign '&' :: p)

/-- Reads a record. -/
def Body.reader (b : Body) : Code :=
  let made := code "Ok(" ++ b.filled (code "Self") reading ++ code ")"
  match b with
  | .bare => code "let _ = input;" ++ made
  | _ => made

/-! ## Choices -/

/-- Writes the values of a variant. -/
def Variant.writer (t : TagType) (v : Variant) (tag : Int) : Code :=
  v.body.pattern (TypeDecl.variantPath v.name) ++ code "=>" ++ TypeDecl.braced
    (code "let tag:" ++ [.word t.name, .sign '='] ++ tagLiteral tag ++ [.sign ';'] ++
      writing (code "&tag") ++ v.body.names.flatMap fun n => writing [.word n])

/-- Reads the values of a variant. -/
def Variant.reader (v : Variant) (tag : Int) : Code :=
  tagLiteral tag ++ code "=> Ok(" ++ v.body.filled (TypeDecl.variantPath v.name) reading ++
    code "),"

/-- Writes the values of a choice. -/
def choiceWriter (t : TagType) (vs : List Variant) (tags : List Int) : Code :=
  code "match self" ++ TypeDecl.braced (List.zipWith (·.writer t) vs tags).flatten

/-- Reads the values of a choice. -/
def choiceReader (t : TagType) (vs : List Variant) (tags : List Int) : Code :=
  code "let tag:" ++ [.word t.name, .sign '='] ++ reading ++ code "; match tag" ++
    TypeDecl.braced ((List.zipWith (·.reader) vs tags).flatten ++
      code "_ => Err(crate::types::encoding::DecodeError::InvalidValue),")

/-! ## The whole -/

namespace TypeDecl

/-- The definitions that a writer and a reader make. -/
def codecOf (d : TypeDecl) (writer reader : Code) : Code :=
  d.having (code "crate::types::encoding::Encode")
      (code "fn encode<S: crate::types::encoding::EncodeSink>(&self, out: &mut S)" ++
        braced writer) ++
    d.having (code "crate::types::encoding::Decode")
      (code "fn decode(input: &mut &[u8]) ->" ++
        code "::std::result::Result<Self, crate::types::encoding::DecodeError>" ++ braced reader)

/-- The code of the byte form of a type. -/
def codecCode (d : TypeDecl) : Except Refusal Code := do
  match d.definition, ← d.tagging with
  | .record b, _ => return d.codecOf b.writer b.reader
  | .choice vs, some (t, tags) => return d.codecOf (choiceWriter t vs tags) (choiceReader t vs tags)
  | _, _ => .error .codecOfUnion

end TypeDecl

end Coprocessor.Declare
