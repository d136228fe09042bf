import ForeignBindings.Call.Param
import ForeignBindings.Call.Result
import ForeignBindings.Glue.Printer

/-!
# Emission

The emitted module of a binding module.  Before anything is emitted, every emitted name is checked
against the names that the module itself relies on, and every reference is resolved.  A formatter
may change the text; if it fails, the text is kept as it is.
-/

namespace ForeignBindings
namespace Glue

/-- How modules are emitted. -/
structure Config where
  /-- Whether types and wrappers are exported. -/
  exported : Bool
  /-- Whether the library is loaded by an exported function instead of at import time. -/
  lazyInit : Bool
  /-- Where the loader is imported from. -/
  loaderUrl : String
  /-- The text of the first line. -/
  banner : String
  /-- The naming scheme of library files. -/
  platforms : List Platform
  deriving DecidableEq, Repr

namespace Config

/-- The loader that provides `prepare` and `CachePolicy`. -/
def defaultLoaderUrl : String := "https://deno.land/x/plug@0.5.2/plug.ts"

/-- The usual first line. -/
def defaultBanner : String := "// Auto-generated with ffiglue"

/-- Exported declarations and a library that is loaded at import time. -/
def default : Config :=
  ⟨true, false, defaultLoaderUrl, defaultBanner, Platform.known⟩

instance : Inhabited Config := ⟨default⟩

end Config

/-- The names at module scope that the emitted code declares or refers to. -/
def preambleBindings : List String :=
  ["CachePolicy", "DataView", "Deno", "JSON", "Promise", "TextDecoder", "TextEncoder", "URL",
    "Uint8Array", "_lib", "decode", "decoder", "encode", "encoder", "load", "opts", "prepare",
    "readPointer", "symbols", "uri", "url"]

/-- What the names of the functions that pack and unpack values start with. -/
def codecNameStarts : List String := ["__pack_", "__unpack_"]

/-- Whether a name would shadow one that the emitted code relies on. -/
def shadowsBinding (name : String) : Bool :=
  preambleBindings.contains name ||
    codecNameStarts.any fun start => start.toList.isPrefixOf name.toList

/-- The names of the interfaces and aliases that a declaration is emitted as. -/
def typeNames (decl : TypeDecl) : List String :=
  decl.name :: decl.variants.map fun variant => Name.variantTypeName decl.name variant.name

/-- The names that a module emits: functions first, then types. -/
def emittedNames (module : BindingModule) : List String :=
  module.signatures.map Signature.name ++ module.types.toList.flatMap typeNames

/-- Checks that no emitted name shadows a name that the emitted code relies on. -/
def checkShadowing (module : BindingModule) : Except GlueError Unit :=
  match (emittedNames module).find? shadowsBinding with
  | some name => .error (.shadowsBinding name)
  | none => .ok ()

/-- A function with its parameters and its result resolved. -/
structure Plan where
  /-- The function. -/
  signature : Signature
  /-- Its parameters. -/
  params : List Call.Param
  /-- Its result. -/
  result : Call.Result
  deriving DecidableEq, Repr

namespace Plan

/-- Resolves the parameters of a function, then its result. -/
def ofSignature (types : DeclSet) (signature : Signature) : Except GlueError Plan := do
  let params ← Call.planParams types signature
  let result ← Call.planResult types signature
  return ⟨signature, params, result⟩

/-- The helpers that the wrapper of a function needs. -/
def helpers (plan : Plan) : HelperSet :=
  (HelperSet.unions (plan.params.map Call.Param.helpers)).union plan.result.helpers

/-- The row of a function in the symbol table. -/
def symbol (plan : Plan) : SymbolEntry :=
  { name := plan.signature.name
    parameters := plan.params.flatMap Call.Param.native
    result := plan.result.native
    nonBlocking := plan.signature.nonBlocking }

/-- The wrapper of a function. -/
def wrapper (plan : Plan) : Wrapper :=
  { docs := plan.signature.docs
    name := plan.signature.name
    params := plan.params.map fun param => (param.ident, param.host)
    annotation := plan.result.annotation
    setup := plan.params.filterMap Call.Param.setup?
    arguments := plan.params.flatMap Call.Param.arguments
    rawResult := Call.rawResult
    returned := plan.result.returned }

end Plan

/-- The members of fields under an encoding; `path` makes the path of a field in a message. -/
def memberTypes (types : DeclSet) (typeName : String) (path : String → String)
    (encoding : Encoding) (fields : Fields) : Except GlueError (List (String × HostType)) :=
  fields.toList.mapM fun entry => do
    let type ← types.fieldType entry.2 encoding (.field typeName (path entry.1))
    return (entry.1, type)

/-- The interface of a struct. -/
def structInterface (types : DeclSet) (decl : TypeDecl) (struct : StructDecl) :
    Except GlueError Interface := do
  let members ← memberTypes types decl.name id struct.encoding struct.fields
  return ⟨decl.name, decl.docs, members.map fun member => (member.1, .host member.2)⟩

/-- The interface of one variant of a union. -/
def variantInterface (types : DeclSet) (typeName : String) (union : UnionDecl)
    (variant : Variant) : Except GlueError Interface := do
  let tag := (union.tag, MemberType.literal variant.name)
  let content ←
    match variant.payload with
    | none => pure []
    | some fields => do
        let members ← memberTypes types typeName (fun field => variant.name ++ "." ++ field)
          .structured fields
        pure [(union.content, MemberType.payload members)]
  return ⟨Name.variantTypeName typeName variant.name, variant.docs, tag :: content⟩

/-- The declarations of a union: an interface for each variant, then the name for all of them. -/
def unionDeclarations (types : DeclSet) (decl : TypeDecl) (union : UnionDecl) :
    Except GlueError (List Declaration) := do
  let interfaces ← union.variants.mapM (variantInterface types decl.name union)
  return interfaces.map .interface ++ [.oneOf decl.name decl.docs (interfaces.map (·.name))]

/-- The declarations that describe the values of a declared type. -/
def typeDeclarations (types : DeclSet) (decl : TypeDecl) :
    Except GlueError (List Declaration) :=
  match decl.hostText, decl.kind with
  | some text, _ => .ok [.verbatim decl.docs text]
  | none, .struct struct => do return [.interface (← structInterface types decl struct)]
  | none, .union union => unionDeclarations types decl union

/-- The access to a slot in a given byte order. -/
def slotAccess (order : ByteOrder) (slot : FieldSlot) : Access :=
  ⟨slot.name, .ofPrimitive slot.primitive, slot.offset, endianArgument slot.primitive order⟩

/-- The functions that pack and unpack a declared type with a fixed layout. -/
def codecDeclarations (order : ByteOrder) (decl : TypeDecl) :
    Except GlueError (List Declaration) :=
  match decl.kind with
  | .struct ⟨fields, .fixed⟩ =>
      match Layout.ofFields decl.name fields with
      | .ok layout =>
          .ok [.codec ⟨decl.name, layout.size, layout.slots.map (slotAccess order)⟩]
      | .error cause => .error (.invalidModule cause)
  | _ => .ok []

/-- Everything that is declared for a declared type. -/
def declarations (types : DeclSet) (order : ByteOrder) (decl : TypeDecl) :
    Except GlueError (List Declaration) := do
  return (← typeDeclarations types decl) ++ (← codecDeclarations order decl)

/-- The emitted module of a binding module. -/
def emit (module : BindingModule) (config : Config) : Except GlueError Module := do
  checkShadowing module
  module.types.checkReferences
  let plans ← module.signatures.mapM (Plan.ofSignature module.types)
  let declared ← module.types.toList.mapM
    (declarations module.types module.options.byteOrder)
  return {
    banner := config.banner
    loaderUrl := config.loaderUrl
    exported := config.exported
    lazyInit := config.lazyInit
    helpers := HelperSet.unions (plans.map Plan.helpers)
    package := module.name
    library :=
      locate config.platforms module.name module.options.location module.options.profile
    symbols := plans.map Plan.symbol
    declarations := declared.flatten
    wrappers := plans.map Plan.wrapper }

/-- Formats the text of a module, or fails. -/
abbrev Formatter (ε : Type) := String → Except ε String

/-- The text that a formatter makes of a text, or the text itself if it fails or there is none. -/
def applyFormatter {ε : Type} (formatter : Option (Formatter ε)) (text : String) : String :=
  match formatter with
  | none => text
  | some format =>
      match format text with
      | .ok formatted => formatted
      | .error _ => text

/-- The text that is generated for a binding module. -/
def generate {ε : Type} (module : BindingModule) (config : Config)
    (formatter : Option (Formatter ε)) : Except GlueError String := do
  let glue ← emit module config
  return applyFormatter formatter glue.text

end Glue
end ForeignBindings
