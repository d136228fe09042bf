import ForeignBindings.Entries
import ForeignBindings.TypeRef

/-!
# Declared types

The data types that a library declares: structs with ordered fields and tagged unions whose
variants may carry a payload of fields.
-/

namespace ForeignBindings

/-- Ordered fields with their types. -/
abbrev Fields := Entries TypeRef

/-- How a struct crosses the boundary. -/
inductive Encoding where
  /-- Self-describing structured text. -/
  | structured
  /-- Packed bytes at natural alignment, for structs of scalars only. -/
  | fixed
  deriving DecidableEq, Repr, Inhabited

/-- A struct: its fields and its encoding. -/
structure StructDecl where
  /-- The fields in declaration order. -/
  fields : Fields
  /-- How values cross the boundary. -/
  encoding : Encoding
  deriving DecidableEq, Repr, Inhabited

/-- One variant of a tagged union. -/
structure Variant where
  /-- The value of the tag member that selects the variant. -/
  name : String
  /-- The fields of the payload; a unit variant has none, which differs from an empty payload. -/
  payload : Option Fields
  /-- Documentation. -/
  docs : Option String
  deriving DecidableEq, Repr, Inhabited

/-- A tagged union: the tag member names a variant and the content member holds its payload. -/
structure UnionDecl where
  /-- The name of the tag member. -/
  tag : String
  /-- The name of the content member. -/
  content : String
  /-- The variants in declaration order. -/
  variants : List Variant
  deriving DecidableEq, Repr, Inhabited

/-- The tag member of a union that names none. -/
def UnionDecl.defaultTag : String := "$tag"

/-- The content member of a union that names none. -/
def UnionDecl.defaultContent : String := "$data"

/-- The first variant with a given name. -/
def UnionDecl.variant? (union : UnionDecl) (name : String) : Option Variant :=
  union.variants.find? fun variant => variant.name == name

/-- The two kinds of declared types. -/
inductive DeclKind where
  | struct (decl : StructDecl)
  | union (decl : UnionDecl)
  deriving DecidableEq, Repr, Inhabited

/-- A declared type. -/
structure TypeDecl where
  /-- The name of the type. -/
  name : String
  /-- What is declared. -/
  kind : DeclKind
  /-- Documentation. -/
  docs : Option String
  /-- A precomputed declaration in the host language that takes the place of the rendered one. -/
  hostText : Option String
  deriving DecidableEq, Repr, Inhabited

namespace TypeDecl

/-- Whether values of the type cross the boundary as packed bytes. -/
def isFixedLayout (decl : TypeDecl) : Bool :=
  match decl.kind with
  | .struct ⟨_, .fixed⟩ => true
  | _ => false

/-- The field paths and references of one variant's payload. -/
def variantReferences (variant : Variant) : List (String × TypeRef) :=
  match variant.payload with
  | some fields => fields.toList.map fun entry => (variant.name ++ "." ++ entry.1, entry.2)
  | none => []

/-- Every reference that a declaration makes, with the path of the field that makes it. -/
def references (decl : TypeDecl) : List (String × TypeRef) :=
  match decl.kind with
  | .struct struct => struct.fields.toList
  | .union union => union.variants.flatMap variantReferences

/-- The variants of a tagged union; a struct has none. -/
def variants (decl : TypeDecl) : List Variant :=
  match decl.kind with
  | .struct _ => []
  | .union union => union.variants

end TypeDecl
end ForeignBindings
