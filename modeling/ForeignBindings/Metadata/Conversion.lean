import ForeignBindings.Metadata
import ForeignBindings.Module

/-!
# From metadata to modules

The module that metadata describes.  References are classified, precomputed declarations go to the
types of their names, and the result is built and checked.  Precomputed declarations of undeclared
types are ignored.
-/

namespace ForeignBindings
namespace Metadata

/-- The reference to a type. -/
def Ref.toTypeRef : Ref → TypeRef
  | .bare name => .ofName name
  | .structEnum ident => .declared ident

/-- A variant with its references classified. -/
def VariantBody.toVariant (body : VariantBody) : Variant :=
  ⟨body.name, body.fields.map (·.map Ref.toTypeRef), body.docs⟩

/-- A union; it cannot have a fixed layout. -/
def UnionBody.toDecl (name : String) (body : UnionBody) : Except ModuleError UnionDecl :=
  match body.layout with
  | .fixed => .error (.fixedLayoutUnion name)
  | .structured =>
      .ok
        { tag := body.tag.getD UnionDecl.defaultTag
          content := body.content.getD UnionDecl.defaultContent
          variants := body.variants.map VariantBody.toVariant }

/-- A declared type without its precomputed declaration. -/
def Body.toDecl (name : String) : Body → Except ModuleError TypeDecl
  | .bare fields => .ok ⟨name, .struct ⟨fields.map Ref.toTypeRef, .structured⟩, none, none⟩
  | .struct body =>
      .ok ⟨name, .struct ⟨body.fields.map Ref.toTypeRef, body.layout⟩, body.docs, none⟩
  | .union body => do
      let decl ← body.toDecl name
      return ⟨name, .union decl, body.docs, none⟩

/-- A function with its references classified. -/
def Function.toSignature (name : String) (function : Function) : Signature :=
  { name
    params := function.parameters.map Ref.toTypeRef
    result := function.result.toTypeRef
    nonBlocking := function.nonBlocking
    docs := function.docs }

/-- The declared types in the order of the document, with their precomputed declarations. -/
def toDecls (metadata : Metadata) : Except ModuleError (List TypeDecl) :=
  metadata.typeDefs.toList.mapM fun entry => do
    let decl ← entry.2.toDecl entry.1
    return { decl with hostText := metadata.hostTypes.find? entry.1 }

/-- The module that metadata describes, for a profile and a location. -/
def toModule (metadata : Metadata) (profile : Profile) (location : LibraryLocation) :
    Except ModuleError BindingModule := do
  let types ← metadata.toDecls
  ModuleDraft.build
    { name := metadata.name
      options := ⟨if metadata.littleEndian then .little else .big, profile, location⟩
      types
      signatures := metadata.symbols.toList.map fun entry => entry.2.toSignature entry.1 }

end Metadata
end ForeignBindings
