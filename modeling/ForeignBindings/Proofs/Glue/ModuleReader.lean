import ForeignBindings.Proofs.Glue.Comments
import ForeignBindings.Proofs.Glue.HelperText

/-!
# Reading what a module declares

The text of a module read line by line, without regard to how it was printed: the names that stand at
module scope, the interfaces with their members, and the names for one of several types.  Only what
can stand in an emitted module is read, and a line of any other kind is refused.  A comment ends at
the first `*/` behind its start, wherever that stands, and what follows on the line is read as code.
-/

namespace ForeignBindings
namespace Glue

/-- A declaration at module scope. -/
inductive Declared where
  /-- An imported name, a constant, a variable or a function. -/
  | value (name : String)
  /-- An interface with its members in order. -/
  | interface (name : String) (members : List (String × MemberType))
  /-- A name for one of several types. -/
  | oneOf (name : String) (alternatives : List String)
  deriving DecidableEq, Repr

/-- The name of a declared value. -/
def Declared.valueName? : Declared → Option String
  | .value name => some name
  | .interface _ _ | .oneOf _ _ => none

/-- The name of a declared type. -/
def Declared.typeName? : Declared → Option String
  | .value _ => none
  | .interface name _ | .oneOf name _ => some name

/-- The names of declared values, in order. -/
def valueNames (found : List Declared) : List String :=
  found.filterMap Declared.valueName?

/-- The names of declared types, in order. -/
def declaredTypeNames (found : List Declared) : List String :=
  found.filterMap Declared.typeName?

/-- Where a line stands. -/
inductive Scope where
  /-- At module scope. -/
  | module
  /-- Within a comment. -/
  | comment
  /-- Within a function or an object. -/
  | body
  /-- Within an interface, behind some of its members. -/
  | interface (name : String) (members : List (String × MemberType))
  deriving DecidableEq, Repr

/-- Items up to a number with a separator between each two, and what follows. -/
def readSeparatedUpTo? {α : Type} (item? : List Char → Option (α × List Char))
    (separator : String) : Nat → List Char → Option (List α × List Char)
  | 0, _ => none
  | count + 1, text => do
      let (item, rest) ← item? text
      match behind? separator rest with
      | none => return ([item], rest)
      | some rest =>
          let (items, rest) ← readSeparatedUpTo? item? separator count rest
          return (item :: items, rest)

/-- Items with a separator between each two, and what follows. -/
def readSeparated? {α : Type} (item? : List Char → Option (α × List Char)) (separator : String)
    (text : List Char) : Option (List α × List Char) :=
  readSeparatedUpTo? item? separator (text.length + 1) text

/-- The host types that have a word of their own. -/
def wordedTypes : List HostType :=
  [.number, .bigint, .void, .text, .bytes, .null]

/-- The type that a word stands for. -/
def typeOfWord (word : String) : HostType :=
  (wordedTypes.find? fun type => type.spelling == word).getD (.declared word)

/-- The type that a text starts with, and what follows. -/
def readType? (text : List Char) : Option (HostType × List Char) := do
  let (word, rest) ← readIdentifier? text
  match behind? "[]" rest with
  | none => return (typeOfWord word, rest)
  | some rest => if word = "number" then some (.numbers, rest) else none

/-- The key with its type that a text starts with, and what follows. -/
def readEntry? (text : List Char) : Option ((String × HostType) × List Char) := do
  let (key, rest) ← readKey? text
  let (type, rest) ← readType? (← behind? ": " rest)
  return ((key, type), rest)

/-- The members of the object type that a text starts with, and what follows. -/
def readPayload? (text : List Char) : Option (List (String × HostType) × List Char) := do
  let rest ← behind? "\x7b" text
  match behind? "\x7d" rest with
  | some rest => some ([], rest)
  | none =>
      let rest ← behind? " " rest
      let (members, rest) ← readSeparated? readEntry? "; " rest
      return (members, ← behind? " \x7d" rest)

/-- The type of a member that a text starts with, and what follows. -/
def readMemberType? (text : List Char) : Option (MemberType × List Char) :=
  let type := (readType? text).map fun read => (.host read.1, read.2)
  let literal := (readLiteral? text).map fun read => (.literal read.1, read.2)
  let payload := (readPayload? text).map fun read => (.payload read.1, read.2)
  type.or (literal.or payload)

/-- The member of an interface that a line declares. -/
def readMemberLine? (line : List Char) : Option (String × MemberType) := do
  let (key, rest) ← readKey? (← behind? "  " line)
  let (type, rest) ← readMemberType? (← behind? ": " rest)
  if rest = [';'] then some (key, type) else none

/-- Where the next line stands behind one that ends a statement or opens a body. -/
def scopeBehind? (line : List Char) : Option Scope :=
  match line.getLast? with
  | some ';' => some .module
  | some '\x7b' => some .body
  | _ => none

/-- A line that declares nothing: a blank one, a remark or a condition. -/
def readIdle? (line : List Char) : Option (List Declared × Scope) :=
  if line = [] ∨ "//".toList.isPrefixOf line then some ([], .module)
  else do
    let rest ← behind? "if (" line
    return ([], ← scopeBehind? rest)

/-- A line that imports names. -/
def readImport? (line : List Char) : Option (List Declared × Scope) := do
  let rest ← behind? "import \x7b " line
  let (names, rest) ← readSeparated? readIdentifier? ", " rest
  let (_, rest) ← readLiteral? (← behind? " \x7d from " rest)
  if rest = [';'] then some (names.map .value, .module) else none

/-- What follows the first of some starts. -/
def behindAny? (starts : List String) (text : List Char) : Option (List Char) :=
  starts.findSome? fun start => behind? start text

/-- What may stand before the name of a value. -/
def valueKeywords : List String :=
  ["const ", "let ", "function ", "async function "]

/-- A line that declares a constant, a variable or a function. -/
def readValue? (line : List Char) : Option (List Declared × Scope) := do
  let rest ← behindAny? valueKeywords line
  let (name, rest) ← readIdentifier? rest
  return ([.value name], ← scopeBehind? rest)

/-- A line that declares an interface without members or opens one. -/
def readInterface? (line : List Char) : Option (List Declared × Scope) := do
  let (name, rest) ← readIdentifier? (← behind? "interface " line)
  if rest = " \x7b\x7d".toList then some ([.interface name []], .module)
  else if rest = " \x7b".toList then some ([], .interface name [])
  else none

/-- A line that declares a name for one of several types. -/
def readOneOf? (line : List Char) : Option (List Declared × Scope) := do
  let (name, rest) ← readIdentifier? (← behind? "type " line)
  let rest ← behind? " = " rest
  let (alternatives, rest) ← readSeparated? readIdentifier? " | " rest
  if rest = [';'] then some ([.oneOf name alternatives], .module) else none

/-- A line that declares something, exported or not. -/
def readDeclaring? (line : List Char) : Option (List Declared × Scope) :=
  let bare := (behind? "export " line).getD line
  (readValue? bare).or ((readInterface? bare).or (readOneOf? bare))

/-- What a line of code at module scope declares, and where the next line stands. -/
def readCode? (line : List Char) : Option (List Declared × Scope) :=
  (readIdle? line).or ((readImport? line).or (readDeclaring? line))

/-- What the rest of a line declares at module scope behind the end of a comment.  Another comment may
start at its end. -/
def readBehindComment? (rest : List Char) : Option (List Declared × Scope) :=
  let code := rest.dropWhile (· == ' ')
  match " /*".toList.isSuffixOf? code with
  | none => readCode? code
  | some code => do
      let (found, scope) ← readCode? code
      if scope = .module then some (found, .comment) else none

/-- What a line declares that stands in a comment from its start, up to the first end of a comment in
it, if there is one. -/
def readComment? (line : List Char) : Option (List Declared × Scope) :=
  match behindCommentEnd? line with
  | none => some ([], .comment)
  | some rest => readBehindComment? rest

/-- What a line declares where it stands, and where the next line stands.  The lines of a body are
indented, up to the one that closes it. -/
def step (scope : Scope) (line : List Char) : Option (List Declared × Scope) :=
  match scope with
  | .module =>
      match behind? "/*" line with
      | none => readCode? line
      | some rest => readComment? rest
  | .comment => readComment? line
  | .body =>
      match line with
      | ' ' :: _ => some ([], .body)
      | '\x7d' :: _ => some ([], .module)
      | _ => none
  | .interface name members =>
      if line = ['\x7d'] then some ([.interface name members], .module)
      else do
        let member ← readMemberLine? line
        return ([], .interface name (members ++ [member]))

theorem step_of_behind?_eq_none {line : List Char} (notComment : behind? "/*" line = none) :
    step .module line = readCode? line := by
  rw [step, notComment]

/-- What lines declare from a scope on, and the scope behind them. -/
def walk : Scope → List (List Char) → Option (List Declared × Scope)
  | scope, [] => some ([], scope)
  | scope, line :: rest => do
      let (found, next) ← step scope line
      let (more, last) ← walk next rest
      return (found ++ more, last)

/-- What the text of a module declares, in order. -/
def declared? (text : String) : Option (List Declared) :=
  match walk .module (Text.lines text.toList) with
  | some (found, .module) => some found
  | _ => none

/-- Whether a text leads from one scope to another and declares what is given, whatever follows. -/
def Leads (before : Scope) (text : List Char) (found : List Declared) (after : Scope) : Prop :=
  ∀ rest, walk before (Text.lines (text ++ rest)) =
    (walk after (Text.lines rest)).map fun read => (found ++ read.1, read.2)

namespace Leads

variable {before between after : Scope} {text other letters : List Char}
  {found more : List Declared}

theorem nil (scope : Scope) : Leads scope [] [] scope := by
  intro rest
  simp

/-- A text behind another goes on where that one has led to. -/
theorem append (first : Leads before text found between) (second : Leads between other more after) :
    Leads before (text ++ other) (found ++ more) after := by
  intro rest
  rw [List.append_assoc, first, second, Option.map_map]
  simp only [Function.comp_def, List.append_assoc]

/-- A line leads as far as one step does. -/
theorem ofLine (isLine : Text.IsLine letters)
    (stepped : step before letters = some (found, after)) :
    Leads before (letters ++ ['\n']) found after := by
  intro rest
  rw [List.append_assoc, List.singleton_append, Text.lines_append_of_isLine isLine, walk, stepped]
  simp only [Option.bind_eq_bind, Option.bind_some]
  cases walk after (Text.lines rest) <;> rfl

/-- Texts that all stay in one scope do so one behind the other. -/
theorem flatMap {α : Type} {items : List α} {print : α → List Char} {read : α → List Declared}
    {scope : Scope} (each : ∀ item ∈ items, Leads scope (print item) (read item) scope) :
    Leads scope (items.flatMap print) (items.flatMap read) scope := by
  induction items with
  | nil => exact nil scope
  | cons item items induction =>
      obtain ⟨first, others⟩ := List.forall_mem_cons.mp each
      exact first.append (induction others)

/-- Texts that declare nothing and all stay in one scope do so one behind the other. -/
theorem flatMap_nothing {α : Type} {items : List α} {print : α → List Char} {scope : Scope}
    (each : ∀ item ∈ items, Leads scope (print item) [] scope) :
    Leads scope (items.flatMap print) [] scope := by
  have nothing : items.flatMap (fun _ => ([] : List Declared)) = [] := by simp
  rw [← nothing]
  exact flatMap each

/-- Lines lead as far as walking through them does. -/
theorem ofLines {lines : List (List Char)} (areLines : ∀ line ∈ lines, Text.StaysOnLine line)
    (walked : walk before lines = some (found, after)) :
    Leads before (lines.flatMap (· ++ ['\n'])) found after := by
  induction lines generalizing before found with
  | nil =>
      cases walked
      exact nil after
  | cons first lines induction =>
      obtain ⟨isLine, areLines⟩ := List.forall_mem_cons.mp areLines
      obtain ⟨⟨own, between⟩, stepped, walked⟩ := Option.bind_eq_some_iff.mp walked
      obtain ⟨⟨others, last⟩, walked, together⟩ := Option.bind_eq_some_iff.mp walked
      cases together
      exact (ofLine isLine.isLine stepped).append (induction areLines walked)

end Leads

/-- What a text declares that leads through a module. -/
theorem Leads.declared?_eq {text : String} {found : List Declared}
    (leads : Leads .module text.toList found .module) : declared? text = some found := by
  have walked := leads []
  rw [List.append_nil, Text.lines_nil, walk, Option.map_some, List.append_nil] at walked
  rw [declared?, walked]

end Glue
end ForeignBindings
