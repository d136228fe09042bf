import ForeignBindings.DeclSet
import ForeignBindings.Json.Reader
import ForeignBindings.Wire.Error

/-!
# Structured text

Values of declared types cross the boundary as JSON.  A struct is an object with exactly its
fields.  A tagged union is an object whose tag member names a variant and whose content member
holds the payload of that variant; a unit variant has no content member.  Values are checked
against their type before they are written and after they are read.
-/

namespace ForeignBindings
namespace Structured

/-- Whether a value is a signed integer between two bounds. -/
def isSignedWithin (low high : Int) (value : Json) : Bool :=
  value.asSigned?.any fun number => low ≤ number && number ≤ high

/-- Whether a value is an unsigned integer up to a bound. -/
def isUnsignedUpTo (high : Nat) (value : Json) : Bool :=
  value.asUnsigned?.any fun number => number ≤ high

/-- Whether a value is an array of bytes. -/
def isByteArray : Json → Bool
  | .array items => items.all (isUnsignedUpTo 0xFF)
  | _ => false

/-- Whether a value is of a primitive type. -/
def isOfPrimitive (primitive : Primitive) (value : Json) : Bool :=
  match primitive with
  | .void => value.isNull
  | .str => value.text?.isSome
  | .buffer | .bufferMut | .ptr => isByteArray value
  | .f32 | .f64 => value.number?.isSome
  | .i8 => isSignedWithin (-0x80) 0x7F value
  | .i16 => isSignedWithin (-0x8000) 0x7FFF value
  | .i32 => isSignedWithin (-0x80000000) 0x7FFFFFFF value
  | .i64 | .isize => value.asSigned?.isSome
  | .u8 => isUnsignedUpTo 0xFF value
  | .u16 => isUnsignedUpTo 0xFFFF value
  | .u32 => isUnsignedUpTo 0xFFFFFFFF value
  | .u64 | .usize => value.asUnsigned?.isSome

/-- A check of a value against a type at a path. -/
abbrev Check := TypeRef → Json → String → Except WireError Unit

/-- Checks a value against a primitive type. -/
def checkPrimitive (primitive : Primitive) (value : Json) (path : String) :
    Except WireError Unit :=
  if isOfPrimitive primitive value then .ok ()
  else .error (.shape path ("`" ++ primitive.token ++ "`"))

/-- Checks that every field is a member of the right type, in field order. -/
def checkMembers (check : Check) (members : List (String × Json)) (path : String) :
    List (String × TypeRef) → Except WireError Unit
  | [] => .ok ()
  | (field, type) :: rest =>
      let fieldPath := path ++ "." ++ field
      match Json.member? members field with
      | none => .error (.shape fieldPath ("field of type `" ++ type.name ++ "`"))
      | some member => do
          check type member fieldPath
          checkMembers check members path rest

/-- Checks that an object has no member outside the allowed ones. -/
def checkNoExtra (allowed : String → Bool) (members : List (String × Json)) (path what : String) :
    Except WireError Unit :=
  match members.find? fun member => !allowed member.1 with
  | some extra =>
      .error (.shape (path ++ "." ++ extra.1) ("no such field on `" ++ what ++ "`"))
  | none => .ok ()

/-- Checks that a value is an object with exactly the given fields. -/
def checkFields (check : Check) (fields : Fields) (value : Json) (path what : String) :
    Except WireError Unit :=
  match value with
  | .object members => do
      checkMembers check members path fields.toList
      checkNoExtra fields.contains members path what
  | _ => .error (.shape path ("object `" ++ what ++ "`"))

/-- Checks the content member of a union value against the payload of its variant. -/
def checkContent (check : Check) (variant : Variant) (content : Option Json) (path : String) :
    Except WireError Unit :=
  match variant.payload, content with
  | some fields, some payload => checkFields check fields payload path variant.name
  | some _, none => .error (.shape path ("payload of `" ++ variant.name ++ "`"))
  | none, some _ => .error (.shape path ("no payload for `" ++ variant.name ++ "`"))
  | none, none => .ok ()

/-- Checks a value against a tagged union. -/
def checkUnion (check : Check) (union : UnionDecl) (value : Json) (path name : String) :
    Except WireError Unit :=
  match value with
  | .object members =>
      let tagPath := path ++ "." ++ union.tag
      match (Json.member? members union.tag).bind Json.text? with
      | none => .error (.shape tagPath "variant name")
      | some tag =>
          match union.variant? tag with
          | none => .error (.unknownVariant tagPath name tag)
          | some variant => do
              checkContent check variant (Json.member? members union.content)
                (path ++ "." ++ union.content)
              checkNoExtra (fun key => key == union.tag || key == union.content) members path name
  | _ => .error (.shape path ("tagged union `" ++ name ++ "`"))

/-- Checks a value whose nesting is below the given number of levels against a type. -/
def checkWithin (types : DeclSet) : Nat → Check
  | 0, _, _, path => .error (.shape path "value")
  | levels + 1, type, value, path =>
      match type with
      | .primitive primitive => checkPrimitive primitive value path
      | .declared name =>
          match types.find? name with
          | none => .error (.unknownType name)
          | some decl =>
              match decl.kind with
              | .struct struct =>
                  checkFields (checkWithin types levels) struct.fields value path name
              | .union union => checkUnion (checkWithin types levels) union value path name

/-- Checks a value against a type. -/
def validate (types : DeclSet) (type : TypeRef) (value : Json) : Except WireError Unit :=
  checkWithin types (value.depth + 1) type value "$"

/-- The text of a value that is of a type. -/
def encode (types : DeclSet) (type : TypeRef) (value : Json) : Except WireError (List UInt8) := do
  validate types type value
  return Text.utf8 value.compact

/-- The value of a type that a text writes. -/
def decode (types : DeclSet) (type : TypeRef) (bytes : List UInt8) : Except WireError Json :=
  match Json.read (Text.Piece.ofBytes bytes) with
  | .error fault => .error (.malformed fault)
  | .ok document => do
      let value := document.normalize
      validate types type value
      return value

end Structured
end ForeignBindings
