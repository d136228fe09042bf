import ForeignBindings.Json.Reader

/-!
# Typed readers

Readers of values whose type is known: texts, truth values, lists, maps and records.  A value of
another type is reported with what was found and what was expected.  A record is written as an
object, whose unknown keys are passed over, or as an array of its fields in order, whose missing
last fields take their defaults.
-/

namespace ForeignBindings
namespace Json

/-- How far a reader may go. -/
structure Limits where
  /-- How many more arrays and objects may lie within each other. -/
  nesting : Nat
  /-- A bound on the steps of loops. -/
  steps : Nat
  deriving Repr

/-- The limits within an array or object. -/
def Limits.enter (limits : Limits) : Except Fault Limits :=
  match limits.nesting with
  | 0 => .error .nestingLimit
  | nesting + 1 => .ok { limits with nesting }

/-- The fault that the value at the start of the input is not what was expected; a fault within a
scalar comes first. -/
def mismatch (expected : String) (input : Input) : Fault :=
  match input with
  | some '[' :: _ => .wrongType .sequence expected
  | some '\x7b' :: _ => .wrongType .map expected
  | _ =>
      match readScalar input with
      | .error fault => fault
      | .ok (value, _) => .wrongType (.ofJson value) expected

/-- Reads a text. -/
def readText (input : Input) : Except Fault (String × Input) :=
  match skipBlank input with
  | some '"' :: rest => readString rest
  | other => .error (mismatch "a string" other)

/-- Reads a text or `null`. -/
def readOptionalText (input : Input) : Except Fault (Option String × Input) :=
  match skipBlank input with
  | some 'n' :: rest => do return (none, ← expectWord ['u', 'l', 'l'] rest)
  | other => do
      let (text, rest) ← readText other
      return (some text, rest)

/-- Reads a truth value. -/
def readBool (input : Input) : Except Fault (Bool × Input) :=
  match skipBlank input with
  | some 't' :: rest => do return (true, ← expectWord ['r', 'u', 'e'] rest)
  | some 'f' :: rest => do return (false, ← expectWord ['a', 'l', 's', 'e'] rest)
  | other => .error (mismatch "a boolean" other)

/-- Reads a list. -/
def readList {α : Type} (limits : Limits) (item : Limits → Input → Except Fault (α × Input))
    (input : Input) : Except Fault (List α × Input) :=
  match skipBlank input with
  | some '[' :: rest => do
      let inner ← limits.enter
      readArray (item inner) inner.steps rest
  | other => .error (mismatch "a sequence" other)

/-- Reads a map as the list of its entries in the order of the text. -/
def readMap {α : Type} (limits : Limits) (value : Limits → Input → Except Fault (α × Input))
    (input : Input) : Except Fault (List (String × α) × Input) :=
  match skipBlank input with
  | some '\x7b' :: rest => do
      let inner ← limits.enter
      let (entries, after) ← readObject (readMember (value inner)) inner.steps [] rest
      return (entries.reverse, after)
  | other => .error (mismatch "a map" other)

/-- A field of a record that is read into a state. -/
structure RecordField (σ : Type) where
  /-- The key of the field. -/
  name : String
  /-- Whether the field has no default. -/
  required : Bool
  /-- Whether a state already holds the field. -/
  isRead : σ → Bool
  /-- Reads the value of the field into a state. -/
  read : Limits → σ → Input → Except Fault (σ × Input)

/-- Reads an entry of a record that is written as an object. -/
def readField {σ : Type} (fields : List (RecordField σ)) (limits : Limits) (state : σ)
    (key : String) (input : Input) : Except Fault (σ × Input) :=
  match fields.find? fun field => field.name == key with
  | none => do return (state, ← skipValue limits.steps limits.steps (← expectColon input))
  | some field => do
      if field.isRead state then throw (.duplicateField key)
      field.read limits state (← expectColon input)

/-- Passes over the mark before an element of a record that is written as an array; `none` stands
for the end of the array. -/
def nextElement (first : Bool) (input : Input) : Except Fault (Option Input) :=
  match skipBlank input with
  | [] => .error .endInList
  | some ']' :: _ => .ok none
  | some ',' :: rest =>
      if first then .ok (some (some ',' :: rest))
      else
        match skipBlank rest with
        | [] => .error .endInValue
        | some ']' :: _ => .error .trailingComma
        | element => .ok (some element)
  | element => if first then .ok (some element) else .error .expectedListEnd

/-- Reads the elements of a record that is written as an array; `count` elements are read. -/
def readElements {σ : Type} (title : String) (limits : Limits) :
    Nat → List (RecordField σ) → σ → Input → Except Fault (σ × Input)
  | _, [], state, input => .ok (state, input)
  | count, field :: fields, state, input => do
      match ← nextElement (count == 0) input with
      | some element =>
          let (state, rest) ← field.read limits state element
          readElements title limits (count + 1) fields state rest
      | none =>
          if (field :: fields).any RecordField.required then throw (.tooFewElements count title)
          return (state, input)

/-- Takes the end of an array all of whose expected elements are read. -/
def expectArrayEnd (input : Input) : Except Fault Input :=
  match skipBlank input with
  | [] => .error .endInList
  | some ']' :: rest => .ok rest
  | some ',' :: rest =>
      match skipBlank rest with
      | some ']' :: _ => .error .trailingComma
      | _ => .error .trailingCharacters
  | _ => .error .trailingCharacters

/-- Reads a record of the given fields into a state. -/
def readRecord {σ : Type} (type : String) (fields : List (RecordField σ)) (limits : Limits)
    (start : σ) (input : Input) : Except Fault (σ × Input) :=
  let title := "struct " ++ type
  match skipBlank input with
  | some '[' :: rest => do
      let inner ← limits.enter
      let (state, rest) ← readElements
        (title ++ " with " ++ toString fields.length ++ " elements") inner 0 fields start rest
      return (state, ← expectArrayEnd rest)
  | some '\x7b' :: rest => do
      let inner ← limits.enter
      let (state, rest) ← readObject (readField fields inner) inner.steps start rest
      match fields.find? fun field => field.required && !field.isRead state with
      | some field => throw (.missingField field.name)
      | none => return (state, rest)
  | other => .error (mismatch title other)

end Json
end ForeignBindings
