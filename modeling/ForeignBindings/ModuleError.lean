/-!
# Faults of a module

Why a list of declarations and signatures makes no module, with the wording of each cause.
-/

namespace ForeignBindings

/-- What a name is used for. -/
inductive NameRole where
  | function
  | type
  | variantType
  deriving DecidableEq, Repr

/-- The words for a role. -/
def NameRole.text : NameRole → String
  | .function => "function"
  | .type => "type"
  | .variantType => "variant type"

/-- Why declarations and signatures make no module. -/
inductive ModuleError where
  | duplicateType (name : String)
  | duplicateFunction (name : String)
  | shadowsPrimitive (name : String)
  | emptyUnion (name : String)
  | duplicateVariant (union variant : String)
  | tagContentClash (name : String)
  | fixedLayoutField (typeName field : String)
  | fixedLayoutUnion (name : String)
  | invalidIdentifier (role : NameRole) (name : String)
  | reservedName (role : NameRole) (name : String)
  | variantNameClash (union variant name : String)
  | fixedLayoutInStructured (typeName field fixed : String)
  deriving DecidableEq, Repr

/-- The wording of a cause. -/
def ModuleError.message : ModuleError → String
  | .duplicateType name => "duplicate type declaration `" ++ name ++ "`"
  | .duplicateFunction name => "duplicate function `" ++ name ++ "`"
  | .shadowsPrimitive name => "type declaration `" ++ name ++ "` shadows a primitive type"
  | .emptyUnion name => "tagged union `" ++ name ++ "` has no variants"
  | .duplicateVariant union variant =>
      "tagged union `" ++ union ++ "` declares variant `" ++ variant ++ "` more than once"
  | .tagContentClash name =>
      "tagged union `" ++ name ++ "` uses the same field for its discriminant and payload"
  | .fixedLayoutField typeName field =>
      "fixed layout requested for `" ++ typeName ++ "`, but field `" ++ field ++
        "` is not a fixed-width scalar"
  | .fixedLayoutUnion name =>
      "fixed layout is only supported for structs, `" ++ name ++ "` is a tagged union"
  | .invalidIdentifier role name =>
      role.text ++ " name `" ++ name ++ "` is not a valid identifier"
  | .reservedName role name => role.text ++ " name `" ++ name ++ "` is reserved"
  | .variantNameClash union variant name =>
      "variant `" ++ variant ++ "` of `" ++ union ++ "` is emitted as `" ++ name ++
        "`, which is already declared"
  | .fixedLayoutInStructured typeName field fixed =>
      "field `" ++ field ++ "` of `" ++ typeName ++ "` is structured data, but `" ++ fixed ++
        "` has a fixed layout"

end ForeignBindings
