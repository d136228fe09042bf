import ForeignBindings.Json.Record
import ForeignBindings.Metadata.Shape

/-!
# Reading metadata

Metadata is a JSON document, read in one pass so that the first fault in reading order is the one
that is reported.  Type references and declarations, whose form is not known before their end, are
first read as values.
-/

namespace ForeignBindings
namespace Metadata

open Json (Input Limits RecordField Fault)

/-- Reads a type reference. -/
def readRef (limits : Limits) (input : Input) : Except Fault (Ref × Input) := do
  let (value, rest) ← Json.readValue limits.steps limits.nesting input
  match Ref.ofJson? value with
  | some reference => return (reference, rest)
  | none => throw (.noAlternative "RawTypeRef")

/-- Reads a type declaration. -/
def readBody (limits : Limits) (input : Input) : Except Fault (Body × Input) := do
  let (value, rest) ← Json.readValue limits.steps limits.nesting input
  match Body.ofJson? value with
  | some body => return (body, rest)
  | none => throw (.noAlternative "RawTypeDecl")

/-- The fields of a function that are read so far. -/
structure FunctionDraft where
  /-- The types of the parameters. -/
  parameters : Option (List Ref)
  /-- The type of the result. -/
  result : Option Ref
  /-- Whether a call yields a promise. -/
  nonBlocking : Option Bool
  /-- Documentation, which may be `null`. -/
  docs : Option (Option String)
  deriving Repr

/-- The fields of a function in order. -/
def functionFields : List (RecordField FunctionDraft) :=
  [{ name := "parameters", required := false
     isRead := fun draft => draft.parameters.isSome
     read := fun limits draft input => do
       let (parameters, rest) ← Json.readList limits readRef input
       return ({ draft with parameters := some parameters }, rest) },
    { name := "result", required := false
      isRead := fun draft => draft.result.isSome
      read := fun limits draft input => do
        let (result, rest) ← readRef limits input
        return ({ draft with result := some result }, rest) },
    { name := "nonBlocking", required := false
      isRead := fun draft => draft.nonBlocking.isSome
      read := fun _ draft input => do
        let (nonBlocking, rest) ← Json.readBool input
        return ({ draft with nonBlocking := some nonBlocking }, rest) },
    { name := "docs", required := false
      isRead := fun draft => draft.docs.isSome
      read := fun _ draft input => do
        let (docs, rest) ← Json.readOptionalText input
        return ({ draft with docs := some docs }, rest) }]

/-- A function with the defaults of the fields that were not given. -/
def FunctionDraft.finish (draft : FunctionDraft) : Function :=
  { parameters := draft.parameters.getD []
    result := draft.result.getD (.bare Primitive.void.token)
    nonBlocking := draft.nonBlocking.getD false
    docs := draft.docs.getD none }

/-- Reads a function. -/
def readFunction (limits : Limits) (input : Input) : Except Fault (Function × Input) := do
  let (draft, rest) ←
    Json.readRecord "RawSignature" functionFields limits ⟨none, none, none, none⟩ input
  return (draft.finish, rest)

/-- The fields of a library's metadata that are read so far. -/
structure Draft where
  /-- The package name. -/
  name : Option String
  /-- Whether packed values have the lowest byte first. -/
  littleEndian : Option Bool
  /-- The functions. -/
  symbols : Option (List (String × Function))
  /-- The type declarations. -/
  typeDefs : Option (List (String × Body))
  /-- Precomputed declarations. -/
  hostTypes : Option (List (String × String))
  deriving Repr

/-- The fields of a library's metadata in order. -/
def fields : List (RecordField Draft) :=
  [{ name := "name", required := true
     isRead := fun draft => draft.name.isSome
     read := fun _ draft input => do
       let (name, rest) ← Json.readText input
       return ({ draft with name := some name }, rest) },
    { name := "littleEndian", required := false
      isRead := fun draft => draft.littleEndian.isSome
      read := fun _ draft input => do
        let (littleEndian, rest) ← Json.readBool input
        return ({ draft with littleEndian := some littleEndian }, rest) },
    { name := "symbols", required := false
      isRead := fun draft => draft.symbols.isSome
      read := fun limits draft input => do
        let (symbols, rest) ← Json.readMap limits readFunction input
        return ({ draft with symbols := some symbols }, rest) },
    { name := "typeDefs", required := false
      isRead := fun draft => draft.typeDefs.isSome
      read := fun limits draft input => do
        let (typeDefs, rest) ← Json.readMap limits readBody input
        return ({ draft with typeDefs := some typeDefs }, rest) },
    { name := "tsTypes", required := false
      isRead := fun draft => draft.hostTypes.isSome
      read := fun limits draft input => do
        let (hostTypes, rest) ← Json.readMap limits (fun _ => Json.readText) input
        return ({ draft with hostTypes := some hostTypes }, rest) }]

/-- Metadata with the defaults of the fields that were not given. -/
def Draft.finish (draft : Draft) : Metadata :=
  { name := draft.name.getD ""
    littleEndian := draft.littleEndian.getD true
    symbols := .ofList (draft.symbols.getD [])
    typeDefs := .ofList (draft.typeDefs.getD [])
    hostTypes := .ofList (draft.hostTypes.getD []) }

/-- The metadata that a text writes. -/
def read (text : String) : Except Fault Metadata := do
  let input := Text.Piece.ofText text
  let limits : Limits := ⟨Json.maxNesting, input.length + 1⟩
  let (draft, rest) ←
    Json.readRecord "RawMetadata" fields limits ⟨none, none, none, none, none⟩ input
  Json.expectEnd rest
  return draft.finish

end Metadata
end ForeignBindings
