import ForeignBindings.Glue.Expr
import ForeignBindings.Glue.HelperSet
import ForeignBindings.Module
import ForeignBindings.Resolution

/-!
# Results of wrappers

How a wrapper turns the native result of a call into the value that it returns.  A scalar is
returned as it is; everything else is read from a frame behind a pointer and decoded.  The result
of a non-blocking call is a promise, and decoding runs in its continuation.
-/

namespace ForeignBindings
namespace Call

open Glue (Expr HelperSet)

/-- How a result is decoded. -/
inductive ResultDecoding where
  /-- A scalar as it is. -/
  | direct
  /-- Framed bytes. -/
  | bytes
  /-- Framed text. -/
  | text
  /-- Framed structured text of a declared type. -/
  | structured (typeName : String)
  /-- Framed packed bytes of a declared type. -/
  | fixed (typeName : String)
  deriving DecidableEq, Repr

/-- The function that unpacks values of a type. -/
def unpackName (typeName : String) : String :=
  "__unpack_" ++ typeName

/-- The name of the native result in a wrapper. -/
def rawResult : String := "rawResult"

/-- The expression that decodes a native value. -/
def ResultDecoding.decode (decoding : ResultDecoding) (raw : Expr) : Expr :=
  let framed := Expr.call (.name "readPointer") raw
  let text := Expr.call (.name "decode") framed
  match decoding with
  | .direct => raw
  | .bytes => framed
  | .text => text
  | .structured typeName =>
      .cast (.call (.property (.name "JSON") "parse") text) (.declared typeName)
  | .fixed typeName => .call (.name (unpackName typeName)) framed

/-- The result of a wrapper. -/
structure Result where
  /-- The type of the decoded value. -/
  host : HostType
  /-- How the result is decoded. -/
  decoding : ResultDecoding
  /-- The token of the native result. -/
  native : String
  /-- Whether the call yields a promise. -/
  nonBlocking : Bool
  deriving DecidableEq, Repr

namespace Result

/-- The type that the wrapper returns. -/
def annotation (result : Result) : HostType :=
  if result.nonBlocking then .promise result.host else result.host

/-- The expression that the wrapper returns. -/
def returned (result : Result) : Expr :=
  match result.decoding, result.nonBlocking with
  | .direct, _ => .name rawResult
  | decoding, false => decoding.decode (.name rawResult)
  | decoding, true =>
      .call (.property (.name rawResult) "then") (.arrow "ptr" (decoding.decode (.name "ptr")))

/-- The helpers that decoding calls. -/
def helpers (result : Result) : HelperSet :=
  match result.decoding with
  | .direct => HelperSet.none
  | .bytes | .fixed _ => { HelperSet.none with readPointer := true }
  | .text | .structured _ => { HelperSet.none with decode := true, readPointer := true }

end Result

/-- The decoding of values of a resolved type as results. -/
def resultDecoding (resolved : Resolved) : ResultDecoding :=
  match resolved.typeClass with
  | .scalar _ => .direct
  | .text => .text
  | .bytes => .bytes
  | .declared decl => if decl.isFixedLayout then .fixed decl.name else .structured decl.name

/-- The result of a function. -/
def planResult (types : DeclSet) (signature : Signature) : Except GlueError Result := do
  let resolved ← types.resolve signature.result (.result signature.name)
  return ⟨resolved.host, resultDecoding resolved, resolved.native.resultToken,
    signature.nonBlocking⟩

end Call
end ForeignBindings
