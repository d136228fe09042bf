import ForeignBindings.Proofs.Glue.ExprText
import ForeignBindings.Proofs.Glue.ModuleText
import ForeignBindings.Proofs.Glue.SymbolText

/-!
# Reading wrappers

The text of a wrapper read line by line, without regard to how it was printed: the parameters with
their types, the constants that are defined before the native call, the arguments of the call and the
value that is returned.  What was printed is read back.
-/

namespace ForeignBindings
namespace Glue

/-- The parameter with its type that a text starts with, and what follows. -/
def readParam? (text : List Char) : Option ((String × HostType) × List Char) := do
  let (name, rest) ← readIdentifier? text
  let (type, rest) ← readType? (← behind? ": " rest)
  return ((name, type), rest)

/-- The type or the promise of a type that a text starts with, and what follows. -/
def readAnnotation? (text : List Char) : Option (HostType × List Char) := do
  let (type, rest) ← readType? text
  match behind? "<" rest with
  | none => return (type, rest)
  | some rest =>
      if type = .declared "Promise" then
        let (inner, rest) ← readType? rest
        return (.promise inner, ← behind? ">" rest)
      else none

/-- A call of a native function. -/
structure NativeCall where
  /-- The constant that gets the native result. -/
  result : String
  /-- The symbol that is called. -/
  symbol : String
  /-- The arguments. -/
  arguments : List Expr
  deriving DecidableEq, Repr

/-- What the text of a wrapper says, but for its documentation. -/
structure WrapperCode where
  /-- The name of the function. -/
  name : String
  /-- The parameters with their types. -/
  params : List (String × HostType)
  /-- The type of the returned value. -/
  annotation : HostType
  /-- The constants that are defined before the call. -/
  setup : List (String × Expr)
  /-- The native call. -/
  call : NativeCall
  /-- The value that is returned. -/
  returned : Expr
  deriving DecidableEq, Repr

/-- What the text of a wrapper is to say. -/
def Wrapper.code (wrapper : Wrapper) : WrapperCode :=
  { name := wrapper.name
    params := wrapper.params
    annotation := wrapper.annotation
    setup := wrapper.setup
    call := ⟨wrapper.rawResult, wrapper.name, wrapper.arguments⟩
    returned := wrapper.returned }

/-- The name, the parameters and the type of a function, exported or not, that a line opens. -/
def readHead? (line : List Char) : Option (String × List (String × HostType) × HostType) := do
  let bare := (behind? "export " line).getD line
  let (name, rest) ← readIdentifier? (← behind? "function " bare)
  let (params, rest) ← readClosed? readParam? "): " (← behind? "(" rest)
  let (type, rest) ← readAnnotation? rest
  if rest = " \x7b".toList then some (name, params, type) else none

/-- The constant that a line defines. -/
def readConstant? (line : List Char) : Option (String × Expr) := do
  let (name, rest) ← readIdentifier? (← behind? "  const " line)
  let (value, rest) ← readExpr? (← behind? " = " rest)
  if rest = [';'] then some (name, value) else none

/-- The native call of a line. -/
def readCall? (line : List Char) : Option NativeCall := do
  let (result, rest) ← readIdentifier? (← behind? "  const " line)
  let (symbol, rest) ← readMember? (← behind? " = _lib.symbols" rest)
  let (arguments, rest) ← readClosed? readExpr? ");" (← behind? "(" rest)
  if rest = [] then some ⟨result, symbol, arguments⟩ else none

/-- The value that a line returns. -/
def readReturn? (line : List Char) : Option Expr := do
  let (value, rest) ← readExpr? (← behind? "  return " line)
  if rest = [';'] then some value else none

/-- The native call and the returned value of the last lines of a wrapper. -/
def readEnding? : List (List Char) → Option (NativeCall × Expr)
  | [call, returned, ['\x7d'], []] => do return (← readCall? call, ← readReturn? returned)
  | _ => none

/-- The constants, the native call and the returned value of the lines up to the end of a wrapper. -/
def readBody? : List (List Char) → Option (List (String × Expr) × NativeCall × Expr)
  | [] => none
  | line :: rest =>
      match readConstant? line with
      | some constant => do
          let (setup, ending) ← readBody? rest
          return (constant :: setup, ending)
      | none => do return ([], ← readEnding? (line :: rest))

/-- Whether a line opens a function, exported or not. -/
def opensFunction (line : List Char) : Bool :=
  (behind? "function " ((behind? "export " line).getD line)).isSome

/-- What the text of a wrapper says from the first line on that opens a function.  What stands before
that line is left aside, whatever it holds. -/
def readWrapper? (text : List Char) : Option WrapperCode :=
  match (Text.lines text).dropWhile fun line => !opensFunction line with
  | [] => none
  | head :: body => do
      let (name, params, annotation) ← readHead? head
      let (setup, call, returned) ← readBody? body
      return ⟨name, params, annotation, setup, call, returned⟩

/-- Whether the spelling of an annotation is that of no other. -/
def IsLegibleAnnotation : HostType → Prop
  | .promise inner => IsLegibleType inner
  | type => IsLegibleType type

theorem IsLegibleType.annotation {type : HostType} (legible : IsLegibleType type) :
    IsLegibleAnnotation type := by
  cases type with
  | promise inner => exact legible.elim
  | _ => exact legible

/-- Whether every part of a wrapper can be told from the others. -/
structure Wrapper.IsReadable (wrapper : Wrapper) : Prop extends wrapper.IsLegible where
  /-- The parameters are named by identifiers and have types that can be told apart. -/
  known_params : ∀ param ∈ wrapper.params,
    Name.isIdentifier param.1 = true ∧ IsLegibleType param.2
  /-- So has the result, or it is a promise of a value of such a type. -/
  legible_annotation : IsLegibleAnnotation wrapper.annotation
  /-- The constants are named by identifiers and have values that can be told apart. -/
  known_setup : ∀ constant ∈ wrapper.setup,
    Name.isIdentifier constant.1 = true ∧ constant.2.IsLegible
  /-- The native result is named by an identifier. -/
  known_rawResult : Name.isIdentifier wrapper.rawResult = true
  /-- The arguments can be told apart. -/
  legible_arguments : ∀ argument ∈ wrapper.arguments, argument.IsLegible
  /-- So can the returned value. -/
  legible_returned : wrapper.returned.IsLegible

/-- An indented line opens no function. -/
theorem opensFunction_indented (line : List Char) : opensFunction (' ' :: line) = false := rfl

/-- No line of documentation opens a function. -/
theorem dropWhile_docLines {contents : List (List Char)}
    (whole : ∀ content ∈ contents, '\n' ∉ content) (rest : List Char) :
    (Text.lines (contents.flatMap docLine ++ rest)).dropWhile (fun line => !opensFunction line) =
      (Text.lines rest).dropWhile fun line => !opensFunction line := by
  induction contents with
  | nil => rfl
  | cons content contents induction =>
      obtain ⟨first_whole, others_whole⟩ := List.forall_mem_cons.mp whole
      obtain ⟨line, printed, isLine⟩ := exists_docLine first_whole
      rw [List.flatMap_cons, printed, List.append_assoc, List.append_assoc, List.singleton_append,
        Text.lines_append_of_isLine isLine, List.dropWhile_cons, opensFunction_indented,
        induction others_whole]
      rfl

theorem dropWhile_docComment (docs : Option String) (rest : List Char) :
    (Text.lines ((docComment docs).toList ++ rest)).dropWhile (fun line => !opensFunction line) =
      (Text.lines rest).dropWhile fun line => !opensFunction line := by
  cases docs with
  | none => rfl
  | some text =>
      rw [docComment, String.toList_ofList, docChars]
      split
      case isTrue => rfl
      case isFalse =>
        have opening : Text.StaysOnLine "/**".toList := by decide
        have closing : Text.StaysOnLine " */".toList := by decide
        have printed : ['/', '*', '*', '\n'] ++
            (Text.lines (Text.trim text.toList)).flatMap docLine ++ [' ', '*', '/', '\n'] ++ rest =
              "/**".toList ++ '\n' :: ((Text.lines (Text.trim text.toList)).flatMap docLine ++
                (" */".toList ++ '\n' :: rest)) := by
          simp only [List.append_assoc]
          rfl
        have notFunction : ∀ line ∈ ["/**".toList, " */".toList], opensFunction line = false := by
          decide
        rw [printed, Text.lines_append opening, List.dropWhile_cons,
          notFunction _ List.mem_cons_self, Bool.not_false, if_pos rfl,
          dropWhile_docLines fun _ inside => Text.lineFeed_not_mem_of_mem_lines inside,
          Text.lines_append closing, List.dropWhile_cons,
          notFunction _ (List.mem_cons_of_mem _ List.mem_cons_self), Bool.not_false, if_pos rfl]

theorem readAnnotation?_append {type : HostType} (legible : IsLegibleAnnotation type)
    (rest : List Char) :
    readAnnotation? (type.spelling.toList ++ (" \x7b".toList ++ rest)) =
      some (type, " \x7b".toList ++ rest) := by
  have brace (rest : List Char) : EndsWord (" \x7b".toList ++ rest) :=
    endsWord_append (by decide) (by decide) rest
  have bare {type : HostType} (legible : IsLegibleType type) :
      readAnnotation? (type.spelling.toList ++ (" \x7b".toList ++ rest)) =
        some (type, " \x7b".toList ++ rest) := by
    have noPromise : behind? "<" (" \x7b".toList ++ rest) = none := rfl
    rw [readAnnotation?, readType?_append legible (brace rest)]
    simp only [Option.bind_eq_bind, Option.bind_some, noPromise]
    rfl
  cases type with
  | promise inner =>
      have opens (rest : List Char) : EndsWord ("<".toList ++ rest) :=
        endsWord_append (by decide) (by decide) rest
      have closes (rest : List Char) : EndsWord (">".toList ++ rest) :=
        endsWord_append (by decide) (by decide) rest
      have promise : IsLegibleType (.declared "Promise") := by
        refine ⟨by decide, ?_⟩
        simp only [wordedTypes, List.forall_mem_cons]
        decide
      have spelled : (HostType.promise inner).spelling.toList =
          (HostType.declared "Promise").spelling.toList ++
            ("<".toList ++ (inner.spelling.toList ++ ">".toList)) := by
        simp only [HostType.spelling, String.toList_append, List.append_assoc]
        rfl
      rw [spelled, List.append_assoc, List.append_assoc, List.append_assoc, readAnnotation?,
        readType?_append promise (opens _)]
      simp only [Option.bind_eq_bind, Option.bind_some, behind?_append, if_true,
        readType?_append legible (closes _)]
      rfl
  | _ => exact bare legible

section Wrappers

variable {wrapper : Wrapper}

theorem opensFunction_headLine (exported : Bool) : opensFunction (wrapper.headLine exported).toList := by
  unfold Wrapper.headLine opensFunction
  simp only [String.toList_append, List.append_assoc]
  cases exported <;> rfl

/-- The lines of a wrapper from the one on that opens it. -/
theorem dropWhile_wrapperText (legible : wrapper.IsLegible) (exported : Bool) :
    (Text.lines (wrapperText exported wrapper).toList).dropWhile (fun line => !opensFunction line) =
      (wrapper.headLine exported).toList ::
        (wrapper.setup.map (fun constant => (constantLine constant).toList) ++
          [wrapper.callLine.toList, (returnLine wrapper.returned).toList, ['\x7d'], []]) := by
  have lines := Text.lines_append (staysOnLine_headLine legible exported)
    (wrapper.setup.flatMap (fun constant => (constantLine constant).toList ++ ['\n']) ++
      (wrapper.callLine.toList ++ '\n' :: ((returnLine wrapper.returned).toList ++ '\n' ::
        ['\x7d', '\n', '\n'])))
  rw [Text.lines_flatMap fun _ inside => staysOnLine_constantLine legible inside,
    Text.lines_append (staysOnLine_callLine legible),
    Text.lines_append (staysOnLine_returnLine legible)] at lines
  rw [toList_wrapperText, dropWhile_docComment, lines, List.dropWhile_cons,
    opensFunction_headLine exported]
  rfl

theorem readHead?_headLine (readable : wrapper.IsReadable) (exported : Bool) :
    readHead? (wrapper.headLine exported).toList =
      some (wrapper.name, wrapper.params, wrapper.annotation) := by
  have separates (rest : List Char) : EndsWord (", ".toList ++ rest) :=
    endsWord_append (by decide) (by decide) rest
  have closes (rest : List Char) : EndsWord ("): ".toList ++ rest) :=
    endsWord_append (by decide) (by decide) rest
  have param (entry : String × HostType) (inside : entry ∈ wrapper.params) (rest : List Char)
      (ends : EndsWord rest) :
      readParam? ((entry.1 ++ ": " ++ entry.2.spelling).toList ++ rest) = some (entry, rest) := by
    obtain ⟨known, legible⟩ := readable.known_params entry inside
    simp only [String.toList_append, List.append_assoc, readParam?,
      readIdentifier?_append known (stops_append ": " (by decide) _), behind?_append,
      readType?_append legible ends,
      Option.bind_eq_bind, Option.bind_some]
    rfl
  have unlike (entry : String × HostType) (inside : entry ∈ wrapper.params) (rest : List Char) :
      behind? "): " ((entry.1 ++ ": " ++ entry.2.spelling).toList ++ rest) = none := by
    simp only [String.toList_append, List.append_assoc]
    exact behind?_identifier (readable.known_params entry inside).1 ⟨_, _, rfl, by decide⟩ _
  have params (rest : List Char) := readClosed?_append
    (fun entry : String × HostType => entry.1 ++ ": " ++ entry.2.spelling) param unlike separates
    closes (fun _ => rfl) rest
  have bare : (behind? "export " (wrapper.headLine exported).toList).getD
      (wrapper.headLine exported).toList =
        (wrapper.headLine false).toList := by
    simp only [Wrapper.headLine, String.toList_append, List.append_assoc]
    cases exported <;> rfl
  have annotation := readAnnotation?_append readable.legible_annotation []
  rw [List.append_nil] at annotation
  have unexported : exportText false = "" := rfl
  rw [readHead?, bare]
  simp only [Wrapper.headLine, unexported, String.empty_append, String.toList_append,
    List.append_assoc, behind?_append,
    readIdentifier?_append readable.name (stops_append "(" (by decide) _), params,
    annotation, Option.bind_eq_bind, Option.bind_some, if_true]

theorem readConstant?_constantLine {constant : String × Expr}
    (known : Name.isIdentifier constant.1 = true) (legible : constant.2.IsLegible) :
    readConstant? (constantLine constant).toList = some constant := by
  have semicolon : EndsExpr ";".toList := by decide
  simp only [readConstant?, constantLine, String.toList_append, List.append_assoc, behind?_append,
    readIdentifier?_append known (stops_append " = " (by decide) _),
    readExpr?_append legible semicolon, Option.bind_eq_bind, Option.bind_some]
  rfl

/-- The native call is not read as a constant: only a part of it is an expression. -/
theorem readConstant?_callLine (readable : wrapper.IsReadable) :
    readConstant? wrapper.callLine.toList = none := by
  have member : memberAccess wrapper.name = "." ++ wrapper.name := if_pos readable.name
  have split : " = _lib.symbols".toList =
      " = ".toList ++ (Expr.property (.name "_lib") "symbols").spelling.toList := rfl
  have partly (rest : List Char) : readExpr?
      ((Expr.property (.name "_lib") "symbols").spelling.toList ++ (".".toList ++ rest)) =
        some (.property (.name "_lib") "symbols", ".".toList ++ rest) := rfl
  simp only [readConstant?, Wrapper.callLine, member, split, String.toList_append,
    List.append_assoc, behind?_append,
    readIdentifier?_append readable.known_rawResult (stops_append " = " (by decide) _),
    partly, Option.bind_eq_bind, Option.bind_some]
  rfl

theorem readCall?_callLine (readable : wrapper.IsReadable) :
    readCall? wrapper.callLine.toList =
      some ⟨wrapper.rawResult, wrapper.name, wrapper.arguments⟩ := by
  have separates (rest : List Char) : EndsExpr (", ".toList ++ rest) := by
    rintro _ ⟨⟩
    exact .inr (.inr rfl)
  have closes (rest : List Char) : EndsExpr (");".toList ++ rest) := by
    rintro _ ⟨⟩
    exact .inr (.inl rfl)
  have arguments := readClosed?_append Expr.spelling
    (fun argument inside rest ends =>
      readExpr?_append (readable.legible_arguments argument inside) ends)
    (fun argument inside => (readable.legible_arguments argument inside).behind?_close)
    separates closes (fun _ => rfl) []
  rw [List.append_nil] at arguments
  simp only [readCall?, Wrapper.callLine, String.toList_append, List.append_assoc, behind?_append,
    readIdentifier?_append readable.known_rawResult (stops_append " = _lib.symbols" (by decide) _),
    readMember?_append wrapper.name (stops_append "(" (by decide) _), arguments,
    Option.bind_eq_bind, Option.bind_some, if_true]

theorem readReturn?_returnLine {value : Expr} (legible : value.IsLegible) :
    readReturn? (returnLine value).toList = some value := by
  have semicolon : EndsExpr ";".toList := by decide
  simp only [readReturn?, returnLine, String.toList_append, List.append_assoc, behind?_append,
    readExpr?_append legible semicolon, Option.bind_eq_bind, Option.bind_some]
  rfl

theorem readBody?_lines (readable : wrapper.IsReadable) {setup : List (String × Expr)}
    (known : ∀ constant ∈ setup, Name.isIdentifier constant.1 = true ∧ constant.2.IsLegible) :
    readBody? (setup.map (fun constant => (constantLine constant).toList) ++
        [wrapper.callLine.toList, (returnLine wrapper.returned).toList, ['\x7d'], []]) =
      some (setup, ⟨wrapper.rawResult, wrapper.name, wrapper.arguments⟩, wrapper.returned) := by
  induction setup with
  | nil =>
      rw [List.map_nil, List.nil_append, readBody?, readConstant?_callLine readable]
      simp only [readEnding?, readCall?_callLine readable,
        readReturn?_returnLine readable.legible_returned, Option.bind_eq_bind, Option.bind_some]
      rfl
  | cons constant setup induction =>
      obtain ⟨⟨first, legible⟩, others⟩ := List.forall_mem_cons.mp known
      rw [List.map_cons, List.cons_append, readBody?, readConstant?_constantLine first legible]
      simp only [induction others, Option.bind_eq_bind, Option.bind_some]
      rfl

/-- The text of a wrapper is read as what it was printed from. -/
theorem readWrapper?_wrapperText (readable : wrapper.IsReadable) (exported : Bool) :
    readWrapper? (wrapperText exported wrapper).toList = some wrapper.code := by
  rw [readWrapper?, dropWhile_wrapperText readable.toIsLegible]
  simp only [readHead?_headLine readable, readBody?_lines readable readable.known_setup,
    Option.bind_eq_bind, Option.bind_some]
  rfl

end Wrappers

end Glue
end ForeignBindings
