import ForeignBindings.DeclSet
import ForeignBindings.HostType

/-!
# Resolution of type references

A reference resolves within a declaration set to its host type, its native kind and the class that
decides how its values are marshalled.  A primitive reference always resolves; a declared one does
if its name is declared.
-/

namespace ForeignBindings

/-- The place of a type reference in a module. -/
inductive Site where
  | param (function : String) (index : Nat)
  | result (function : String)
  | field (typeName field : String)
  deriving DecidableEq, Repr

/-- The words for a place. -/
def Site.text : Site → String
  | .param function index => "parameter " ++ toString index ++ " of `" ++ function ++ "`"
  | .result function => "result of `" ++ function ++ "`"
  | .field typeName fieldName => "field `" ++ fieldName ++ "` of `" ++ typeName ++ "`"

/-- Why no module is emitted. -/
inductive GlueError where
  | unsupportedType (name : String) (site : Site)
  | voidParameter (site : Site)
  | shadowsBinding (name : String)
  /-- A declaration that no checked module holds. -/
  | invalidModule (cause : ModuleError)
  deriving DecidableEq, Repr

/-- The wording of a cause. -/
def GlueError.message : GlueError → String
  | .unsupportedType name site => "unsupported type `" ++ name ++ "` in " ++ site.text
  | .voidParameter site => "`void` is not a valid type for " ++ site.text
  | .shadowsBinding name =>
      "`" ++ name ++ "` would shadow a binding the generated module relies on"
  | .invalidModule cause => cause.message

/-- What a reference stands for. -/
inductive TypeClass where
  | scalar (primitive : Primitive)
  | text
  | bytes
  | declared (decl : TypeDecl)
  deriving DecidableEq, Repr

/-- A resolved reference. -/
structure Resolved where
  /-- The type on the host's side. -/
  host : HostType
  /-- How values cross a native call. -/
  native : NativeKind
  /-- How values are marshalled. -/
  typeClass : TypeClass
  deriving DecidableEq, Repr

namespace Resolved

/-- The resolution of a primitive type. -/
def ofPrimitive (primitive : Primitive) : Resolved :=
  let host := HostType.ofPrimitive primitive
  { host
    native := NativeKind.ofPrimitive primitive
    typeClass :=
      match host with
      | .text => .text
      | .bytes => .bytes
      | _ => .scalar primitive }

/-- The resolution of a declared type. -/
def ofDecl (decl : TypeDecl) : Resolved :=
  ⟨.declared decl.name, .buffer, .declared decl⟩

end Resolved

namespace DeclSet

/-- Resolves a reference at a place. -/
def resolve (types : DeclSet) (type : TypeRef) (site : Site) : Except GlueError Resolved :=
  match type with
  | .primitive primitive => .ok (.ofPrimitive primitive)
  | .declared name =>
      match types.find? name with
      | some decl => .ok (.ofDecl decl)
      | none => .error (.unsupportedType name site)

/-- The host type of a field.  Structured text carries every number as a double and bytes as an
array; a fixed layout reads wide integers back as they are. -/
def fieldType (types : DeclSet) (type : TypeRef) (encoding : Encoding) (site : Site) :
    Except GlueError HostType := do
  let resolved ← types.resolve type site
  return match resolved.typeClass, encoding with
    | .scalar .void, .structured => .null
    | .scalar _, .structured => .number
    | .bytes, .structured => .numbers
    | _, _ => resolved.host

/-- Checks that every reference of one declaration resolves. -/
def checkDeclReferences (types : DeclSet) (decl : TypeDecl) : Except GlueError Unit :=
  decl.references.forM fun reference => do
    let _ ← types.resolve reference.2 (.field decl.name reference.1)
    return ()

/-- Checks that every reference of every declaration resolves, whether it is used or not. -/
def checkReferences (types : DeclSet) : Except GlueError Unit :=
  types.toList.forM (checkDeclReferences types)

end DeclSet
end ForeignBindings
