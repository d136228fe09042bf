import ForeignBindings.Glue.Expr
import ForeignBindings.Glue.HelperSet
import ForeignBindings.Module
import ForeignBindings.Resolution

/-!
# Parameters of wrappers

How a wrapper turns each of its parameters into native arguments.  A scalar is passed as it is,
bytes as a buffer with its length, and everything else is first encoded into a buffer of its own.
-/

namespace ForeignBindings
namespace Call

open Glue (Expr HelperSet)

/-- How a parameter is encoded. -/
inductive ParamEncoding where
  /-- A scalar by value. -/
  | direct
  /-- Text in UTF-8. -/
  | text
  /-- Bytes as they are. -/
  | bytes
  /-- A declared type as structured text. -/
  | structured
  /-- A declared type with a fixed layout as packed bytes. -/
  | fixed (typeName : String)
  deriving DecidableEq, Repr

/-- A parameter of a wrapper. -/
structure Param where
  /-- The name of the parameter. -/
  ident : String
  /-- The type of the parameter. -/
  host : HostType
  /-- How the parameter is encoded. -/
  encoding : ParamEncoding
  /-- The tokens of the native arguments. -/
  native : List String
  deriving DecidableEq, Repr

/-- The name of the parameter at an index. -/
def paramIdent (index : Nat) : String :=
  "a" ++ toString index

/-- The function that packs values of a type. -/
def packName (typeName : String) : String :=
  "__pack_" ++ typeName

namespace Param

/-- The name of the buffer that holds an encoded parameter. -/
def bufferIdent (param : Param) : String :=
  param.ident ++ "Buf"

/-- The definition of the buffer of a parameter that is encoded. -/
def setup? (param : Param) : Option (String × Expr) :=
  let value := Expr.name param.ident
  match param.encoding with
  | .direct | .bytes => none
  | .text => some (param.bufferIdent, .call (.name "encode") value)
  | .structured =>
      some (param.bufferIdent,
        .call (.name "encode") (.call (.property (.name "JSON") "stringify") value))
  | .fixed typeName => some (param.bufferIdent, .call (.name (packName typeName)) value)

/-- A buffer as two native arguments. -/
def bufferArguments (ident : String) : List Expr :=
  [.name ident, .property (.name ident) "byteLength"]

/-- The native arguments of a parameter. -/
def arguments (param : Param) : List Expr :=
  match param.encoding with
  | .direct => [.name param.ident]
  | .bytes => bufferArguments param.ident
  | .text | .structured | .fixed _ => bufferArguments param.bufferIdent

/-- The helpers that the encoding of a parameter calls. -/
def helpers (param : Param) : HelperSet :=
  match param.encoding with
  | .text | .structured => { HelperSet.none with encode := true }
  | .direct | .bytes | .fixed _ => HelperSet.none

end Param

/-- The encoding of values of a resolved type as parameters. -/
def paramEncoding (resolved : Resolved) (site : Site) : Except GlueError ParamEncoding :=
  match resolved.typeClass with
  | .scalar .void => .error (.voidParameter site)
  | .scalar _ => .ok .direct
  | .text => .ok .text
  | .bytes => .ok .bytes
  | .declared decl => .ok (if decl.isFixedLayout then .fixed decl.name else .structured)

/-- The parameter of a function at an index. -/
def planParam (types : DeclSet) (function : String) (index : Nat) (type : TypeRef) :
    Except GlueError Param := do
  let site := Site.param function index
  let resolved ← types.resolve type site
  let encoding ← paramEncoding resolved site
  return ⟨paramIdent index, resolved.host, encoding, resolved.native.paramTokens⟩

/-- The parameters of a function from an index on. -/
def planParamsFrom (types : DeclSet) (function : String) :
    Nat → List TypeRef → Except GlueError (List Param)
  | _, [] => .ok []
  | index, type :: rest => do
      let param ← planParam types function index type
      let params ← planParamsFrom types function (index + 1) rest
      return param :: params

/-- The parameters of a function. -/
def planParams (types : DeclSet) (signature : Signature) : Except GlueError (List Param) :=
  planParamsFrom types signature.name 0 signature.params

end Call
end ForeignBindings
