import ForeignBindings.Decl

/-!
# Metadata

What a native build writes down about a library: its functions, its types and precomputed
declarations of types, in the order of the document and before any check.
-/

namespace ForeignBindings
namespace Metadata

/-- A reference to a type: a bare name, or the longer form that always names a declared type. -/
inductive Ref where
  | bare (name : String)
  | structEnum (ident : String)
  deriving DecidableEq, Repr

/-- A function. -/
structure Function where
  /-- The types of the parameters. -/
  parameters : List Ref
  /-- The type of the result. -/
  result : Ref
  /-- Whether a call yields a promise. -/
  nonBlocking : Bool
  /-- Documentation. -/
  docs : Option String
  deriving DecidableEq, Repr

/-- A struct with its encoding and documentation. -/
structure StructBody where
  /-- The fields in order. -/
  fields : Entries Ref
  /-- How values cross the boundary. -/
  layout : Encoding
  /-- Documentation. -/
  docs : Option String
  deriving DecidableEq, Repr

/-- A variant of a tagged union. -/
structure VariantBody where
  /-- The name of the variant. -/
  name : String
  /-- The fields of the payload, if there is one. -/
  fields : Option (Entries Ref)
  /-- Documentation. -/
  docs : Option String
  deriving DecidableEq, Repr

/-- A tagged union. -/
structure UnionBody where
  /-- The variants in order. -/
  variants : List VariantBody
  /-- The tag member, if it is named. -/
  tag : Option String
  /-- The content member, if it is named. -/
  content : Option String
  /-- How values are said to cross the boundary. -/
  layout : Encoding
  /-- Documentation. -/
  docs : Option String
  deriving DecidableEq, Repr

/-- The three forms of a type declaration. -/
inductive Body where
  | struct (body : StructBody)
  | union (body : UnionBody)
  /-- Fields alone. -/
  | bare (fields : Entries Ref)
  deriving DecidableEq, Repr

end Metadata

/-- The metadata of a library. -/
structure Metadata where
  /-- The package name of the library. -/
  name : String
  /-- Whether packed values have the lowest byte first. -/
  littleEndian : Bool
  /-- The functions by name. -/
  symbols : Entries Metadata.Function
  /-- The type declarations by name. -/
  typeDefs : Entries Metadata.Body
  /-- Precomputed declarations by type name. -/
  hostTypes : Entries String
  deriving DecidableEq, Repr

end ForeignBindings
