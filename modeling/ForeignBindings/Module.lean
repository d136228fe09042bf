import ForeignBindings.ByteOrder
import ForeignBindings.DeclSet
import ForeignBindings.Layout
import ForeignBindings.Library
import ForeignBindings.Name

/-!
# Binding modules

A binding module holds everything that one emitted module is made from: declared types and
function signatures, both in name order, and the options of the library.  A draft collects
declarations and signatures in any order; building it checks that every name can be emitted, that
unions and fixed layouts are well formed, and that packed values never lie inside structured text.
-/

namespace ForeignBindings

/-- The options of a library. -/
structure ModuleOptions where
  /-- The byte order of packed values. -/
  byteOrder : ByteOrder
  /-- How the library is built. -/
  profile : Profile
  /-- Where the library is loaded from. -/
  location : LibraryLocation
  deriving DecidableEq, Repr, Inhabited

/-- A function of the library. -/
structure Signature where
  /-- The name of the function. -/
  name : String
  /-- The types of the parameters in order. -/
  params : List TypeRef
  /-- The type of the result. -/
  result : TypeRef
  /-- Whether a call yields a promise. -/
  nonBlocking : Bool
  /-- Documentation. -/
  docs : Option String
  deriving DecidableEq, Repr, Inhabited

/-- A checked module. -/
structure BindingModule where
  /-- The package name of the library, from which its file names are made. -/
  name : String
  /-- The options of the library. -/
  options : ModuleOptions
  /-- The declared types. -/
  types : DeclSet
  /-- The functions in name order. -/
  signatures : List Signature
  deriving DecidableEq, Repr, Inhabited

/-- A module under construction. -/
structure ModuleDraft where
  /-- The package name of the library. -/
  name : String
  /-- The options of the library. -/
  options : ModuleOptions
  /-- The declarations in any order. -/
  types : List TypeDecl
  /-- The functions in any order. -/
  signatures : List Signature
  deriving DecidableEq, Repr, Inhabited

namespace ModuleDraft

/-- The draft of a module without types and functions, with default options. -/
def empty (name : String) : ModuleDraft :=
  ⟨name, ⟨.little, .debug, .targetDirectory .debug⟩, [], []⟩

/-- Adds a declaration. -/
def addType (draft : ModuleDraft) (decl : TypeDecl) : ModuleDraft :=
  { draft with types := draft.types ++ [decl] }

/-- Adds a function. -/
def addSignature (draft : ModuleDraft) (signature : Signature) : ModuleDraft :=
  { draft with signatures := draft.signatures ++ [signature] }

/-- Sets the byte order. -/
def setByteOrder (draft : ModuleDraft) (byteOrder : ByteOrder) : ModuleDraft :=
  { draft with options := { draft.options with byteOrder } }

/-- Sets the profile. -/
def setProfile (draft : ModuleDraft) (profile : Profile) : ModuleDraft :=
  { draft with options := { draft.options with profile } }

/-- Sets the location. -/
def setLocation (draft : ModuleDraft) (location : LibraryLocation) : ModuleDraft :=
  { draft with options := { draft.options with location } }

/-- Checks that a name can be used unquoted in the emitted module. -/
def checkName (role : NameRole) (name : String) : Except ModuleError Unit :=
  if !Name.isIdentifier name then .error (.invalidIdentifier role name)
  else if Name.isReservedWord name then .error (.reservedName role name)
  else .ok ()

/-- Checks that the name of a type is free for an interface or an alias. -/
def checkTypeName (name : String) : Except ModuleError Unit := do
  if (Primitive.ofToken? name).isSome then throw (.shadowsPrimitive name)
  checkName .type name
  if Name.isBuiltinTypeName name then throw (.reservedName .type name)

/-- Checks that one reference of a declaration names no packed type. -/
def checkReference (types : DeclSet) (typeName : String) (reference : String × TypeRef) :
    Except ModuleError Unit :=
  match reference with
  | (_, .primitive _) => .ok ()
  | (field, .declared name) =>
      if (types.find? name).any TypeDecl.isFixedLayout then
        .error (.fixedLayoutInStructured typeName field name)
      else .ok ()

/-- Checks that a struct has a layout if its values are packed. -/
def checkStruct (typeName : String) (struct : StructDecl) : Except ModuleError Unit :=
  match struct.encoding with
  | .structured => .ok ()
  | .fixed => do
      let _ ← Layout.ofFields typeName struct.fields
      return ()

/-- Checks that a union has variants with distinct names, and distinct tag and content members. -/
def checkUnion (typeName : String) (union : UnionDecl) : Except ModuleError Unit :=
  if union.variants.isEmpty then .error (.emptyUnion typeName)
  else if union.tag = union.content then .error (.tagContentClash typeName)
  else
    match NameOrder.firstRepeated? [] (union.variants.map Variant.name) with
    | some variant => .error (.duplicateVariant typeName variant)
    | none => .ok ()

/-- Checks one declaration within its set. -/
def checkDecl (types : DeclSet) (decl : TypeDecl) : Except ModuleError Unit := do
  checkTypeName decl.name
  decl.references.forM (checkReference types decl.name)
  match decl.kind with
  | .struct struct => checkStruct decl.name struct
  | .union union => checkUnion decl.name union

/-- Checks the interface names of variants, given as pairs of union and variant: each is an
identifier, no declared type and none of the `emitted` names before it. -/
def checkVariantNames (types : DeclSet) :
    List String → List (String × String) → Except ModuleError Unit
  | _, [] => .ok ()
  | emitted, (union, variant) :: rest =>
      let name := Name.variantTypeName union variant
      if !Name.isIdentifier name then .error (.invalidIdentifier .variantType name)
      else if types.contains name || emitted.contains name then
        .error (.variantNameClash union variant name)
      else checkVariantNames types (name :: emitted) rest

/-- The pairs of union and variant names of a set, in order. -/
def variantNames (types : DeclSet) : List (String × String) :=
  types.toList.flatMap fun decl => decl.variants.map fun variant => (decl.name, variant.name)

/-- The functions in name order, or the least name that two functions share. -/
def sortSignatures (signatures : List Signature) : Except ModuleError (List Signature) :=
  match NameOrder.sortDistinct Signature.name signatures with
  | .ok sorted => .ok sorted
  | .error repeated => .error (.duplicateFunction repeated)

/-- The module of a draft, or the first fault: repeated names, then the declarations in name
order, then the function names, then the interface names of variants. -/
def build (draft : ModuleDraft) : Except ModuleError BindingModule := do
  let types ← DeclSet.ofList draft.types
  let signatures ← sortSignatures draft.signatures
  types.toList.forM (checkDecl types)
  signatures.forM fun signature => checkName .function signature.name
  checkVariantNames types [] (variantNames types)
  return ⟨draft.name, draft.options, types, signatures⟩

end ModuleDraft
end ForeignBindings
