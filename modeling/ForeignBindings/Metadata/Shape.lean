import ForeignBindings.Json.Value
import ForeignBindings.Metadata

/-!
# Shapes of type declarations

Type references and declarations as JSON values.  A declaration bears no mark of its form: it is
read as a struct if it fits, else as a union if it fits, else as bare fields.  Structs, unions and
variants admit no unknown and no repeated key, so bare fields whose names are the keys of the other
forms still read as fields.  Each of the three may also be written as an array of its members in
order.
-/

namespace ForeignBindings
namespace Metadata

/-- The value of a key that occurs exactly once. -/
def onlyMember? (members : List (String × Json)) (key : String) : Option Json :=
  match members.filter fun member => member.1 == key with
  | [(_, value)] => some value
  | _ => none

/-- The name in the longer form of a reference. -/
def ident? : Json → Option String
  | .object members => (onlyMember? members "ident").bind Json.text?
  | .array [.string name] => some name
  | _ => none

/-- A reference to a type. -/
def Ref.ofJson? : Json → Option Ref
  | .string name => some (.bare name)
  | .object members => ((onlyMember? members "structenum").bind ident?).map .structEnum
  | _ => none

/-- The values of known keys, in the order of the keys, for an object without unknown and repeated
keys or an array that is not too long. -/
def slots? (keys : List String) : Json → Option (List (Option Json))
  | .object members =>
      if (members.map Prod.fst).all keys.contains &&
          keys.all fun key => (members.filter fun member => member.1 == key).length ≤ 1 then
        some (keys.map (Json.member? members))
      else none
  | .array items =>
      if items.length ≤ keys.length then
        some (items.map some ++ List.replicate (keys.length - items.length) none)
      else none
  | _ => none

/-- A text, or nothing where the value is missing or `null`. -/
def optionalText? : Option Json → Option (Option String)
  | none => some none
  | some .null => some none
  | some (.string text) => some (some text)
  | some _ => none

/-- The name of an encoding. -/
def encodingOfName? (name : String) : Option Encoding :=
  if name == "structured" then some .structured
  else if name == "fixed" then some .fixed
  else none

/-- An encoding, by its name or as an object with the name as its only key and no value; a missing
one is structured. -/
def encoding? : Option Json → Option Encoding
  | none => some .structured
  | some (.string name) => encodingOfName? name
  | some (.object [(name, .null)]) => encodingOfName? name
  | some _ => none

/-- Fields with their types; a repeated field keeps its place and takes the last type. -/
def fields? : Json → Option (Entries Ref)
  | .object members => do
      let entries ← members.mapM fun member => do
        let type ← Ref.ofJson? member.2
        return (member.1, type)
      return .ofList entries
  | _ => none

/-- Fields, or nothing where the value is missing or `null`. -/
def optionalFields? : Option Json → Option (Option (Entries Ref))
  | none => some none
  | some .null => some none
  | some value => (fields? value).map some

/-- A struct. -/
def StructBody.ofJson? (json : Json) : Option StructBody :=
  match slots? ["fields", "layout", "docs"] json with
  | some [some fields, layout, docs] => do
      return ⟨← fields? fields, ← encoding? layout, ← optionalText? docs⟩
  | _ => none

/-- A variant of a union. -/
def VariantBody.ofJson? (json : Json) : Option VariantBody :=
  match slots? ["name", "fields", "docs"] json with
  | some [some (.string name), fields, docs] => do
      return ⟨name, ← optionalFields? fields, ← optionalText? docs⟩
  | _ => none

/-- The variants of a union. -/
def variants? : Json → Option (List VariantBody)
  | .array items => items.mapM VariantBody.ofJson?
  | _ => none

/-- A tagged union. -/
def UnionBody.ofJson? (json : Json) : Option UnionBody :=
  match slots? ["variants", "tag", "content", "layout", "docs"] json with
  | some [some variants, tag, content, layout, docs] => do
      return {
        variants := ← variants? variants
        tag := ← optionalText? tag
        content := ← optionalText? content
        layout := ← encoding? layout
        docs := ← optionalText? docs }
  | _ => none

/-- A type declaration, in the first form that fits. -/
def Body.ofJson? (json : Json) : Option Body :=
  ((StructBody.ofJson? json).map .struct).or <|
    ((UnionBody.ofJson? json).map .union).or <|
      (fields? json).map .bare

end Metadata
end ForeignBindings
