import Coprocessor.Declare.Generics
import Coprocessor.Declare.Lexer
import Coprocessor.Text.Composition

/-!
# Declarations of types

A declaration names a type, and what its values are made of : fields with names,
fields by position, or none; a choice among variants that have fields themselves;
or a union. Types, variants and fields carry attributes.
-/

namespace Coprocessor.Declare

/-! ## Attributes -/

/-- What an attribute says besides its name. -/
inductive Attribute.Content where
  /-- Nothing. -/
  | bare
  /-- A value, after an equals sign. -/
  | value (c : Code)
  /-- What stands between brackets. -/
  | bracketed (c : Code)
  deriving DecidableEq, Repr

/-- An attribute. -/
structure Attribute where
  /-- Its name. -/
  path : Code
  /-- What it says. -/
  content : Attribute.Content
  deriving DecidableEq, Repr

namespace Attribute

/-- Whether a lexeme ends the name of an attribute. -/
def endsPath (l : Lexeme) : Bool :=
  l.isMark '=' || l.opens

/-- The attribute with the given lexemes. -/
def ofCode (c : Code) : Attribute where
  path := c.takeWhile (!endsPath ·)
  content :=
    match c.dropWhile (!endsPath ·) with
    | [] => .bare
    | l :: r => if l.isMark '=' then .value r else .bracketed r.dropLast

/-- Whether an attribute has the given name. -/
def isNamed (name : String) (a : Attribute) : Bool :=
  a.path == [.word name]

end Attribute

/-! ## Types -/

/-- A field. -/
structure Field where
  /-- Its attributes. -/
  attributes : List Attribute := []
  /-- Its type. -/
  type : Code
  deriving DecidableEq, Repr

/-- The fields of a type or variant. -/
inductive Body where
  /-- Fields with names. -/
  | named (fields : List (String × Field))
  /-- Fields by position. -/
  | positional (fields : List Field)
  /-- No place for fields. -/
  | bare
  deriving DecidableEq, Repr

/-- A variant of a choice. -/
structure Variant where
  /-- Its name. -/
  name : String
  /-- Its attributes. -/
  attributes : List Attribute := []
  /-- Its fields. -/
  body : Body
  /-- Its number, if it is given one. -/
  number : Option Code := none
  deriving DecidableEq, Repr

/-- What the values of a type are. -/
inductive Definition where
  /-- A record of fields. -/
  | record (body : Body)
  /-- One of several variants. -/
  | choice (variants : List Variant)
  /-- A union. -/
  | union
  deriving DecidableEq, Repr

/-- A declaration of a type. -/
structure TypeDecl where
  /-- Its name. -/
  name : String
  /-- Its attributes. -/
  attributes : List Attribute := []
  /-- Its parameters. -/
  generics : Generics := {}
  /-- What its values are. -/
  definition : Definition
  deriving DecidableEq, Repr

namespace Body

/-- The fields, in order. -/
def fields : Body → List Field
  | named fs => fs.map (·.2)
  | positional fs => fs
  | bare => []

/-- The names that the fields go by. Those by position are counted. -/
def names : Body → List String
  | named fs => fs.map (·.1)
  | positional fs => (List.range fs.length).map fun i => s!"f{i}"
  | bare => []

/-- The fields, their names composed. -/
def composed : Body → Body
  | named fs => named (fs.map fun f => (Text.composed f.1, f.2))
  | b => b

end Body

/-- A declaration whose names are composed, so that each is written in one way only. -/
def TypeDecl.composed (d : TypeDecl) : TypeDecl :=
  match d.definition with
  | .record b => { d with definition := .record b.composed }
  | .choice vs =>
    let variant (v : Variant) := { v with name := Text.composed v.name, body := v.body.composed }
    { d with definition := .choice (vs.map variant) }
  | .union => d

/-! ## Derivations -/

/-- Why nothing can be derived from a declaration. -/
inductive Refusal where
  /-- A union has no byte form. -/
  | codecOfUnion
  /-- A union says nothing about an error. -/
  | errorOfUnion
  /-- The codec attribute stands alone. -/
  | noOptions
  /-- The codec attribute has a value. -/
  | optionsAssigned
  /-- An option is to follow where the attribute ends. -/
  | noOption
  /-- A literal stands where an option is to stand. -/
  | literalOption
  /-- Something else stands where an option is to stand. -/
  | strayOption
  /-- The name of the option goes on with no name, or ends there. -/
  | notName (missing : Bool)
  /-- The option has no meaning. -/
  | unknownOption
  /-- The option has no value. -/
  | noEquals
  /-- The value of the option is no text, or missing. -/
  | notText (missing : Bool)
  /-- Something follows the option. -/
  | noComma
  /-- The tag type has no meaning. -/
  | unknownTagType (name : String)
  /-- The number of a variant is no integer literal. -/
  | notInteger
  /-- The number of a variant is too large. -/
  | tooLarge
  /-- The message attribute has no brackets. -/
  | messageNotBracketed
  /-- The message is not one text. -/
  | messageNotText
  /-- There is no message. -/
  | noMessage (owner : String)
  /-- A conversion needs one field. -/
  | notOneField
  deriving DecidableEq, Repr

/-- The text in messages. -/
def Refusal.message : Refusal → String
  | codecOfUnion => "BinaryCodec derive does not support unions"
  | errorOfUnion => "Error derive does not support unions"
  | noOptions => "expected attribute arguments in parentheses: #[binary_codec(...)]"
  | optionsAssigned => "expected parentheses: #[binary_codec(...)]"
  | noOption => "unexpected end of input, expected nested attribute"
  | literalOption => "unexpected literal in nested attribute, expected ident"
  | strayOption => "unexpected token in nested attribute, expected ident"
  | notName true => "unexpected end of input, expected ident"
  | notName false => "expected ident"
  | unknownOption => "unsupported binary_codec option; expected `repr = \"...\"`"
  | noEquals => "expected `=`"
  | notText true => "unexpected end of input, expected string literal"
  | notText false => "expected string literal"
  | noComma => "expected `,`"
  | unknownTagType name =>
    "binary_codec repr must be one of [\"u8\", \"u16\", \"u32\", \"i8\", \"i16\", \"i32\"], got `"
      ++ name ++ "`"
  | notInteger => "discriminant must be an integer literal"
  | tooLarge => "number too large to fit in target type"
  | messageNotBracketed => "invalid #[error] attribute; use #[error(\"message\")]"
  | messageNotText =>
    "#[error] expects a string literal, e.g. #[error(\"bad status: \x7b0\x7d\")]"
  | noMessage owner => "missing #[error(\"...\")] attribute on " ++ owner
  | notOneField => "#[from] is only supported on a variant with exactly one field"

namespace TypeDecl

/-- Code in curly brackets. -/
def braced (c : Code) : Code :=
  .sign '\x7b' :: c ++ [.sign '\x7d']

/-- Lists of lexemes with commas between them. -/
def commaSeparated (cs : List Code) : Code :=
  [Lexeme.sign ','].intercalate cs

/-- The definition that gives a type a quality. -/
def having (d : TypeDecl) (quality : Code) (body : Code) : Code :=
  code "impl" ++ d.generics.declared ++ quality ++ code "for" ++ [.word d.name] ++
    d.generics.used ++ d.generics.required ++ braced body

/-- A variant as it is named inside the type. -/
def variantPath (name : String) : Code :=
  code "Self::" ++ [.word name]

end TypeDecl

namespace Body

/-- The pattern that binds the fields to their names, for values made by `maker`. -/
def pattern (maker : Code) (b : Body) : Code :=
  let names := TypeDecl.commaSeparated (b.names.map fun n => [.word n])
  match b with
  | named _ => maker ++ TypeDecl.braced names
  | positional _ => maker ++ [.sign '('] ++ names ++ [.sign ')']
  | bare => maker

/-- The value that `maker` makes when each field is given by `source`. -/
def filled (maker source : Code) : Body → Code
  | named fs =>
    maker ++ TypeDecl.braced (fs.flatMap fun f => .word f.1 :: .sign ':' :: source ++ [.sign ','])
  | positional fs =>
    maker ++ [.sign '('] ++ fs.flatMap (fun _ => source ++ [.sign ',']) ++ [.sign ')']
  | bare => maker

/-- How the fields of a value are reached from it. -/
def places : Body → List Code
  | named fs => fs.map fun f => code "self." ++ [.word f.1]
  | positional fs => (List.range fs.length).map fun i => code "self." ++ [.number (toString i)]
  | bare => []

end Body

end Coprocessor.Declare
