import Coprocessor.Declare.Caption

/-!
# The code of an error

What is derived from a declaration of errors : how a value is written as a message,
that it is an error, and the conversions to it.
-/

namespace Coprocessor.Declare

/-- Writes a caption, its fields given by `source` of their number and name. -/
def Caption.writer (c : Caption) (source : Nat × String → Code) : Code :=
  code "write!(f," ++ [.quote c.text, .sign ','] ++
    TypeDecl.commaSeparated (c.mentioned.map fun m => .word m.2 :: .sign '=' :: source m) ++
    code ")"

/-- Writes a message without fields. -/
def plainWriter (message : String) : Code :=
  code "write!(f," ++ [.quote message] ++ code ")"

/-- Names may be bound that the message does not mention. -/
def unusedAllowed : Code :=
  code "#[allow(unused_variables)]"

/-- Writes a record as a message. -/
def Body.messageWriter (c : Caption) (b : Body) : Code :=
  match b with
  | .bare => plainWriter c.text
  | .named _ => c.writer fun m => code "self." ++ [.word m.2]
  | .positional _ =>
    let names := TypeDecl.commaSeparated (b.names.map fun n => [.word n])
    let places := TypeDecl.commaSeparated (b.places.map (.sign '&' :: ·))
    unusedAllowed ++ code "let (" ++ names ++ code ") = (" ++ places ++ code ");" ++
      c.writer fun m => [.word m.2]

/-- Writes a variant as a message. -/
def Variant.messageWriter (v : Variant) (c : Caption) : Code :=
  let pattern := v.body.pattern (TypeDecl.variantPath v.name)
  match v.body with
  | .bare => pattern ++ code "=>" ++ plainWriter c.text ++ code ","
  | _ => unusedAllowed ++ pattern ++ code "=>" ++ c.writer (fun m => [.word m.2]) ++ code ","

namespace TypeDecl

/-- The definitions that make a type an error, its values written by `writer`. -/
def errorOf (d : TypeDecl) (writer : Code) : Code :=
  d.having (code "::std::fmt::Display")
      (code "fn fmt(&self, f: &mut ::std::fmt::Formatter<'_>) -> ::std::fmt::Result" ++
        braced writer) ++
    d.having (code "::std::error::Error") []

/-- The conversion of a type to a variant. -/
def conversionOf (d : TypeDecl) (v : Variant) (source : Code) : Code :=
  d.having (code "::std::convert::From<" ++ arranged source ++ code ">")
    (code "fn from(source:" ++ arranged source ++ code ") -> Self" ++
      braced (variantPath v.name ++ code "(source)"))

/-- The arm of a variant in the writer of messages, and the conversion to it. -/
def errorParts (d : TypeDecl) (v : Variant) : Except Refusal (Code × Code) := do
  let c ← v.caption
  let source ← v.source?
  return (v.messageWriter c, source.elim [] (d.conversionOf v))

/-- The code that makes a type an error. -/
def errorCode (d : TypeDecl) : Except Refusal Code :=
  match d.definition with
  | .record b => do
    let m ← messageOf s!"type `{d.name}`" d.attributes
    return d.errorOf (b.messageWriter (b.caption m))
  | .choice vs => do
    let parts ← vs.mapM d.errorParts
    return d.errorOf (code "match self" ++ braced (parts.flatMap (·.1))) ++ parts.flatMap (·.2)
  | .union => .error .errorOfUnion

end TypeDecl

end Coprocessor.Declare
