import ForeignBindings.Proofs.Glue.ModuleReader

/-!
# Printed lines are read back

What the printer writes for a member, for the start of a declaration and for a documentation comment
is what the reader finds in it.  A printed part is followed by a letter that is no part of it, so each
part is stated for whatever stands behind it, and a line is taken apart from the left.
-/

namespace ForeignBindings
namespace Glue

/-- Whether what follows a word is no part of it and makes no array of it. -/
def EndsWord (rest : List Char) : Prop :=
  ∀ letter ∈ rest.head?, Name.isIdentifierPart letter = false ∧ letter ≠ '['

theorem EndsWord.stops {rest : List Char} (ends : EndsWord rest) :
    ∀ letter ∈ rest.head?, Name.isIdentifierPart letter = false :=
  fun letter first => (ends letter first).1

instance (rest : List Char) : Decidable (EndsWord rest) :=
  match rest with
  | [] => .isTrue nofun
  | letter :: _ =>
      decidable_of_iff (Name.isIdentifierPart letter = false ∧ letter ≠ '[')
        ⟨fun apart _ first => Option.some.inj first ▸ apart, fun ends => ends letter rfl⟩

theorem endsWord_append {start : List Char} (some : start ≠ []) (ends : EndsWord start)
    (rest : List Char) : EndsWord (start ++ rest) := by
  obtain ⟨letter, others, rfl⟩ := List.exists_cons_of_ne_nil some
  exact ends

theorem EndsWord.behind?_brackets {rest : List Char} (ends : EndsWord rest) :
    behind? "[]" rest = none := by
  cases rest with
  | nil => rfl
  | cons letter rest =>
      have other : ('[' == letter) = false := beq_false_of_ne (ends letter rfl).2.symm
      have bracket : "[]".toList = ['[', ']'] := rfl
      rw [behind?, bracket, List.isPrefixOf?, other]
      rfl

theorem joinWith_cons_cons (separator first second : String) (texts : List String) :
    (joinWith separator (first :: second :: texts)).toList =
      first.toList ++ (separator.toList ++ (joinWith separator (second :: texts)).toList) := by
  rw [joinWith, joinWith, String.toList_intercalate, String.toList_intercalate, List.map_cons,
    List.map_cons, List.intercalate_cons_cons, List.append_assoc]

theorem joinWith_singleton (separator text : String) :
    (joinWith separator [text]).toList = text.toList := by
  rw [joinWith, String.toList_intercalate, List.map_singleton, List.intercalate_singleton]

theorem staysOnLine_joinWith {separator : String} (separates : Text.StaysOnLine separator.toList)
    {texts : List String} (stay : ∀ text ∈ texts, Text.StaysOnLine text.toList) :
    Text.StaysOnLine (joinWith separator texts).toList := by
  induction texts with
  | nil => exact List.forall_mem_nil _
  | cons first texts induction =>
      obtain ⟨first_stays, others⟩ := List.forall_mem_cons.mp stay
      cases texts with
      | nil =>
          rw [joinWith_singleton]
          exact first_stays
      | cons second texts =>
          rw [joinWith_cons_cons, Text.staysOnLine_append, Text.staysOnLine_append]
          exact ⟨first_stays, separates, induction others⟩

section Separated

variable {α : Type} {item? : List Char → Option (α × List Char)} (print : α → String)
  {separator : String} {Ends : List Char → Prop}

theorem length_le_length_joinWith (some : separator.toList ≠ []) (items : List α) :
    items.length ≤ (joinWith separator (items.map print)).toList.length + 1 := by
  induction items with
  | nil => exact Nat.zero_le _
  | cons first items induction =>
      cases items with
      | nil => exact Nat.le_add_left _ _
      | cons second items =>
          have longer := List.length_pos_iff.mpr some
          rw [List.map_cons, List.map_cons, joinWith_cons_cons, List.length_append,
            List.length_append, List.length_cons]
          rw [List.map_cons] at induction
          omega

theorem readSeparatedUpTo?_append {items : List α}
    (each : ∀ item ∈ items, ∀ rest, Ends rest →
      item? ((print item).toList ++ rest) = some (item, rest))
    (separates : ∀ rest, Ends (separator.toList ++ rest)) {rest : List Char}
    (ends : Ends rest) (last : behind? separator rest = none) {count : Nat}
    (enough : items.length ≤ count) (some : items ≠ []) :
    readSeparatedUpTo? item? separator count
        ((joinWith separator (items.map print)).toList ++ rest) = .some (items, rest) := by
  induction items generalizing count with
  | nil => exact absurd rfl some
  | cons first items induction =>
      obtain ⟨readFirst, others⟩ := List.forall_mem_cons.mp each
      obtain ⟨count, rfl⟩ := Nat.exists_eq_add_of_le' (Nat.le_trans (Nat.le_add_left 1 _) enough)
      cases items with
      | nil =>
          rw [List.map_singleton, joinWith_singleton, readSeparatedUpTo?, readFirst _ ends]
          simp only [Option.bind_eq_bind, Option.bind_some, last]
          rfl
      | cons second items =>
          have readOthers := induction others (Nat.le_of_succ_le_succ enough) (List.cons_ne_nil _ _)
          rw [List.map_cons] at readOthers
          rw [List.map_cons, List.map_cons, joinWith_cons_cons, List.append_assoc,
            List.append_assoc, readSeparatedUpTo?, readFirst _ (separates _)]
          simp only [Option.bind_eq_bind, Option.bind_some, behind?_append, readOthers]
          rfl

/-- Printed items are read back. -/
theorem readSeparated?_append {items : List α} (some : items ≠ [])
    (each : ∀ item ∈ items, ∀ rest, Ends rest →
      item? ((print item).toList ++ rest) = .some (item, rest))
    (separates : ∀ rest, Ends (separator.toList ++ rest)) {rest : List Char}
    (ends : Ends rest) (last : behind? separator rest = none) :
    readSeparated? item? separator ((joinWith separator (items.map print)).toList ++ rest) =
      .some (items, rest) := by
  have separator_some : separator.toList ≠ [] := by
    intro empty
    rw [behind?, empty] at last
    cases last
  have short := length_le_length_joinWith print separator_some items
  refine readSeparatedUpTo?_append print each separates ends last ?_ some
  rw [List.length_append]
  omega

end Separated

/-- Whether the spelling of a type is that of no other type. -/
def IsLegibleType : HostType → Prop
  | .declared name => Name.isIdentifier name = true ∧ ∀ type ∈ wordedTypes, type.spelling ≠ name
  | .promise _ => False
  | _ => True

theorem typeOfWord_declared {name : String} (other : ∀ type ∈ wordedTypes, type.spelling ≠ name) :
    typeOfWord name = .declared name := by
  have none : (wordedTypes.find? fun type => type.spelling == name) = none :=
    List.find?_eq_none.mpr fun type inside => by simpa using other type inside
  rw [typeOfWord, none, Option.getD_none]

theorem readType?_word {word : String} (identifier : Name.isIdentifier word) {rest : List Char}
    (ends : EndsWord rest) : readType? (word.toList ++ rest) = some (typeOfWord word, rest) := by
  rw [readType?, readIdentifier?_append identifier ends.stops]
  simp only [Option.bind_eq_bind, Option.bind_some, ends.behind?_brackets]
  rfl

/-- A printed type is read back. -/
theorem readType?_append {type : HostType} (legible : IsLegibleType type) {rest : List Char}
    (ends : EndsWord rest) : readType? (type.spelling.toList ++ rest) = some (type, rest) := by
  cases type with
  | declared name =>
      rw [HostType.spelling, readType?_word legible.1 ends, typeOfWord_declared legible.2]
  | promise inner => exact legible.elim
  | numbers =>
      have brackets : "number[]".toList ++ rest = "number".toList ++ ("[]".toList ++ rest) := rfl
      rw [HostType.spelling, brackets, readType?,
        readIdentifier?_append (by decide) (stops_append "[]" (by decide) rest)]
      simp only [Option.bind_eq_bind, Option.bind_some, behind?_append, if_true]
  | number | bigint | void | text | bytes | null => exact readType?_word (by decide) ends

theorem staysOnLine_hostType {type : HostType} (legible : IsLegibleType type) :
    Text.StaysOnLine type.spelling.toList := by
  cases type with
  | declared name => exact staysOnLine_identifier legible.1
  | promise inner => exact legible.elim
  | _ => decide

/-- A key with its type as it stands in an object type. -/
def entryText (member : String × HostType) : String :=
  Name.propertyKey member.1 ++ ": " ++ member.2.spelling

theorem readEntry?_append {member : String × HostType} (legible : IsLegibleType member.2)
    {rest : List Char} (ends : EndsWord rest) :
    readEntry? ((entryText member).toList ++ rest) = some (member, rest) := by
  have colon (rest : List Char) : EndsWord (": ".toList ++ rest) :=
    endsWord_append (by decide) (by decide) _
  rw [entryText, String.toList_append, String.toList_append, List.append_assoc, List.append_assoc,
    readEntry?, readKey?_append _ (colon _).stops]
  simp only [Option.bind_eq_bind, Option.bind_some, behind?_append, readType?_append legible ends]
  rfl

theorem readPayload?_append {members : List (String × HostType)}
    (legible : ∀ member ∈ members, IsLegibleType member.2) (rest : List Char) :
    readPayload? ((memberTypeText (.payload members)).toList ++ rest) = some (members, rest) := by
  cases members with
  | nil => rfl
  | cons first others =>
      have printed : (memberTypeText (.payload (first :: others))).toList ++ rest =
          "\x7b".toList ++ (" ".toList ++ ((joinWith "; " ((first :: others).map entryText)).toList ++
            (" \x7d".toList ++ rest))) := by
        unfold memberTypeText
        simp only [String.toList_append, List.append_assoc]
        rfl
      have inside (rest : List Char) : behind? "\x7d" (" ".toList ++ rest) = none := rfl
      have separates (rest : List Char) : EndsWord ("; ".toList ++ rest) :=
        endsWord_append (by decide) (by decide) _
      have closes : EndsWord (" \x7d".toList ++ rest) :=
        endsWord_append (by decide) (by decide) _
      have last : behind? "; " (" \x7d".toList ++ rest) = none := rfl
      have read := readSeparated?_append entryText (List.cons_ne_nil first others)
        (fun member held rest ends => readEntry?_append (legible member held) ends)
        separates closes last
      rw [printed, readPayload?]
      simp only [Option.bind_eq_bind, Option.bind_some, behind?_append, inside, read]
      rfl

/-- Whether the type of a member is spelled so that it can be told from others. -/
def MemberType.IsLegible : MemberType → Prop
  | .host type => IsLegibleType type
  | .literal _ => True
  | .payload members => ∀ member ∈ members, IsLegibleType member.2

theorem readIdentifier?_quote (text : String) (rest : List Char) :
    readIdentifier? ((Text.quote text).toList ++ rest) = none := by
  simp [readIdentifier?, readWhile?, Text.quote, Text.Quoted.encode, Name.isIdentifierPart]

theorem readMemberType?_append {type : MemberType} (legible : type.IsLegible) {rest : List Char}
    (ends : EndsWord rest) :
    readMemberType? ((memberTypeText type).toList ++ rest) = some (type, rest) := by
  cases type with
  | host type =>
      rw [memberTypeText, readMemberType?, readType?_append legible ends]
      rfl
  | literal value =>
      have noType : readType? ((Text.quote value).toList ++ rest) = none := by
        rw [readType?, readIdentifier?_quote]
        rfl
      rw [memberTypeText, readMemberType?, noType, readLiteral?_append]
      rfl
  | payload members =>
      obtain ⟨printed, opens⟩ : ∃ printed,
          (memberTypeText (.payload members)).toList ++ rest = '\x7b' :: printed := by
        cases members with
        | nil => exact ⟨_, rfl⟩
        | cons first others =>
            unfold memberTypeText
            simp only [String.toList_append, List.append_assoc]
            exact ⟨_, rfl⟩
      have noType : readType? ('\x7b' :: printed) = none := rfl
      have noLiteral : readLiteral? ('\x7b' :: printed) = none := rfl
      rw [opens, readMemberType?, noType, noLiteral, ← opens, readPayload?_append legible]
      rfl

theorem staysOnLine_memberTypeText {type : MemberType} (legible : type.IsLegible) :
    Text.StaysOnLine (memberTypeText type).toList := by
  cases type with
  | host type => exact staysOnLine_hostType legible
  | literal value => exact staysOnLine_quote value
  | payload members =>
      cases members with
      | nil => decide
      | cons first others =>
          unfold memberTypeText
          simp only [String.toList_append, Text.staysOnLine_append]
          refine ⟨⟨by decide, staysOnLine_joinWith (by decide) ?_⟩, by decide⟩
          intro text inside
          obtain ⟨member, held, rfl⟩ := List.mem_map.mp inside
          simp only [String.toList_append, Text.staysOnLine_append]
          exact ⟨⟨staysOnLine_propertyKey _, by decide⟩, staysOnLine_hostType (legible member held)⟩

/-- A member of an interface is one line, which is read as the member. -/
theorem leads_memberText {member : String × MemberType} (legible : member.2.IsLegible)
    (name : String) (members : List (String × MemberType)) :
    Leads (.interface name members) (memberText member).toList []
      (.interface name (members ++ [member])) := by
  let line := "  ".toList ++ ((Name.propertyKey member.1).toList ++ (": ".toList ++
    ((memberTypeText member.2).toList ++ [';'])))
  have printed : (memberText member).toList = line ++ ['\n'] := by
    unfold memberText
    simp only [line, String.toList_append, List.append_assoc]
    rfl
  have stays : Text.StaysOnLine line := by
    simp only [line, Text.staysOnLine_append]
    exact ⟨by decide, staysOnLine_propertyKey _, by decide, staysOnLine_memberTypeText legible,
      by decide⟩
  have colon (rest : List Char) : EndsWord (": ".toList ++ rest) :=
    endsWord_append (by decide) (by decide) _
  have semicolon : EndsWord [';'] := by decide
  have read : readMemberLine? line = some member := by
    simp only [line, readMemberLine?, behind?_append, readKey?_append _ (colon _).stops,
      readMemberType?_append legible semicolon, Option.bind_eq_bind, Option.bind_some, if_true]
  have opened : line ≠ ['\x7d'] := by
    rintro same
    cases congrArg List.head? same
  rw [printed]
  refine .ofLine stays.isLine ?_
  rw [step, if_neg opened, read]
  rfl

/-- Whether a line can only declare something, and is not exported yet. -/
structure IsBare (line : List Char) : Prop where
  /-- The line starts with no comment. -/
  notComment : behind? "/*" line = none
  /-- The line is not idle. -/
  notIdle : readIdle? line = none
  /-- The line imports nothing. -/
  notImport : readImport? line = none
  /-- The line exports nothing. -/
  notExport : behind? "export " line = none

theorem step_module {line : List Char} (bare : IsBare line) (exported : Bool) :
    step .module ((exportText exported).toList ++ line) = readDeclaring? line := by
  cases exported with
  | false =>
      have same : (exportText false).toList ++ line = line := rfl
      rw [same, step_of_behind?_eq_none bare.notComment, readCode?, bare.notIdle, bare.notImport]
      rfl
  | true =>
      have notComment : behind? "/*" ("export ".toList ++ line) = none := rfl
      have notIdle : readIdle? ("export ".toList ++ line) = none := rfl
      have notImport : readImport? ("export ".toList ++ line) = none := rfl
      have export_ : (exportText true).toList ++ line = "export ".toList ++ line := rfl
      rw [export_, step_of_behind?_eq_none notComment, readCode?, notIdle, notImport, readDeclaring?,
        readDeclaring?, behind?_append, bare.notExport]
      rfl

theorem scopeBehind?_semicolon (text : List Char) : scopeBehind? (text ++ [';']) = some .module := by
  rw [scopeBehind?, List.getLast?_concat]
  rfl

theorem scopeBehind?_brace (text : List Char) : scopeBehind? (text ++ ['\x7b']) = some .body := by
  rw [scopeBehind?, List.getLast?_concat]
  rfl

theorem readDeclaring?_value {keyword : String} (known : keyword ∈ valueKeywords) {name : String}
    (identifier : Name.isIdentifier name) {rest : List Char} (ends : EndsWord rest) {scope : Scope}
    (behind : scopeBehind? rest = some scope) :
    IsBare (keyword.toList ++ (name.toList ++ rest)) ∧
      readDeclaring? (keyword.toList ++ (name.toList ++ rest)) = some ([.value name], scope) := by
  have opened : IsBare (keyword.toList ++ (name.toList ++ rest)) ∧
      behindAny? valueKeywords (keyword.toList ++ (name.toList ++ rest)) =
        some (name.toList ++ rest) := by
    simp only [valueKeywords, List.mem_cons, List.not_mem_nil, or_false] at known
    rcases known with rfl | rfl | rfl | rfl <;> exact ⟨⟨rfl, rfl, rfl, rfl⟩, rfl⟩
  obtain ⟨bare, opened⟩ := opened
  refine ⟨bare, ?_⟩
  rw [readDeclaring?, bare.notExport, Option.getD_none, readValue?, opened]
  simp only [Option.bind_eq_bind, Option.bind_some, readIdentifier?_append identifier ends.stops,
    behind]
  rfl

theorem isBare_interface (rest : List Char) : IsBare ("interface ".toList ++ rest) :=
  ⟨rfl, rfl, rfl, rfl⟩

theorem isBare_type (rest : List Char) : IsBare ("type ".toList ++ rest) :=
  ⟨rfl, rfl, rfl, rfl⟩

theorem readDeclaring?_interface {name : String} (identifier : Name.isIdentifier name)
    {rest : List Char} (ends : EndsWord rest) :
    readDeclaring? ("interface ".toList ++ (name.toList ++ rest)) =
      if rest = " \x7b\x7d".toList then some ([.interface name []], .module)
      else if rest = " \x7b".toList then some ([], .interface name [])
      else none := by
  have noValue : readValue? ("interface ".toList ++ (name.toList ++ rest)) = none := rfl
  have noOneOf : readOneOf? ("interface ".toList ++ (name.toList ++ rest)) = none := rfl
  rw [readDeclaring?, (isBare_interface _).notExport, Option.getD_none, noValue, noOneOf,
    Option.none_or, Option.or_none, readInterface?]
  simp only [Option.bind_eq_bind, Option.bind_some, behind?_append,
    readIdentifier?_append identifier ends.stops]

theorem readDeclaring?_oneOf {name : String} (identifier : Name.isIdentifier name)
    {alternatives : List String} (some : alternatives ≠ [])
    (identifiers : ∀ alternative ∈ alternatives, Name.isIdentifier alternative) :
    readDeclaring? ("type ".toList ++ (name.toList ++ (" = ".toList ++
        ((joinWith " | " alternatives).toList ++ [';'])))) =
      .some ([.oneOf name alternatives], .module) := by
  generalize line_eq : "type ".toList ++ (name.toList ++ (" = ".toList ++
    ((joinWith " | " alternatives).toList ++ [';']))) = line
  have noValue : readValue? line = none := line_eq ▸ rfl
  have noInterface : readInterface? line = none := line_eq ▸ rfl
  have notExport : behind? "export " line = none := line_eq ▸ rfl
  have equals (rest : List Char) : EndsWord (" = ".toList ++ rest) :=
    endsWord_append (by decide) (by decide) _
  have separates (rest : List Char) : EndsWord (" | ".toList ++ rest) :=
    endsWord_append (by decide) (by decide) _
  have semicolon : EndsWord [';'] := by decide
  have read := readSeparated?_append id some
    (fun alternative inside rest ends =>
      readIdentifier?_append (identifiers alternative inside) ends.stops)
    separates semicolon rfl
  rw [List.map_id] at read
  rw [readDeclaring?, notExport, Option.getD_none, noValue, noInterface, Option.none_or,
    Option.none_or, ← line_eq, readOneOf?]
  simp only [Option.bind_eq_bind, Option.bind_some, behind?_append,
    readIdentifier?_append identifier (equals _).stops, read, if_true]

/-- A line of documentation is indented. -/
theorem exists_docLine {content : List Char} (whole : '\n' ∉ content) :
    ∃ line, docLine content = ' ' :: line ++ ['\n'] ∧ Text.IsLine (' ' :: line) := by
  rw [docLine]
  split
  case isTrue => exact ⟨['*'], rfl, (by decide : Text.StaysOnLine [' ', '*']).isLine⟩
  case isFalse some =>
    have some : Text.trimEnd content ≠ [] := by simpa using some
    refine ⟨'*' :: ' ' :: Text.trimEnd content, rfl, ?_, ?_⟩
    · have unbroken : '\n' ∉ Text.trimEnd content := fun inside =>
        whole (Text.mem_of_mem_trimEnd inside)
      simpa using unbroken
    · have blank : Text.isBlank '\r' = true := by decide
      have end_ : (' ' :: '*' :: ' ' :: Text.trimEnd content).getLast? =
          (Text.trimEnd content).getLast? := List.getLast?_append_of_ne_nil [' ', '*', ' '] some
      rw [end_]
      intro carriageReturn
      have visible := Text.isBlank_of_getLast?_trimEnd carriageReturn
      rw [blank] at visible
      cases visible

/-- A line of documentation that holds no end of a comment stays in the comment. -/
theorem leads_docLine {content : List Char} (whole : '\n' ∉ content)
    (stays : ¬ HoldsCommentEnd content) : Leads .comment (docLine content) [] .comment := by
  obtain ⟨line, printed, isLine⟩ := exists_docLine whole
  have all_stays : (docLine content ++ []).IsChain KeepsOpen :=
    isChain_docLine_append.mpr ⟨isChain_keepsOpen_iff.mpr stays, .nil⟩
  rw [List.append_nil, printed, isChain_append_cons_blank (by decide)] at all_stays
  rw [printed]
  refine .ofLine isLine ?_
  rw [step, readComment?, behindCommentEnd?_eq_none_iff.mpr (isChain_keepsOpen_iff.mp all_stays.1)]

/-- Whether an optional documentation text holds no end of a comment. -/
def StaysInComment (docs : Option String) : Prop :=
  ∀ text ∈ docs, ¬ HoldsCommentEnd text.toList

theorem staysInComment_none : StaysInComment none := nofun

/-- A documentation comment that ends with its own last line declares nothing. -/
theorem leads_docComment {docs : Option String} (stays : StaysInComment docs) :
    Leads .module (docComment docs).toList [] .module := by
  cases docs with
  | none => exact .nil .module
  | some text =>
      rw [docComment, String.toList_ofList, docChars]
      split
      case isTrue => exact .nil .module
      case isFalse =>
        have opening : Text.StaysOnLine ['/', '*', '*'] := by decide
        have closing : Text.StaysOnLine [' ', '*', '/'] := by decide
        have opens : Leads .module ['/', '*', '*', '\n'] [] .comment := .ofLine opening.isLine rfl
        have closes : Leads .comment [' ', '*', '/', '\n'] [] .module := .ofLine closing.isLine rfl
        have lines_stay := isChain_lines_iff.mpr
          (isChain_trim_iff.mpr (isChain_keepsOpen_iff.mpr (stays text rfl)))
        have body : Leads .comment
            ((Text.lines (Text.trim text.toList)).flatMap docLine) [] .comment := by
          exact .flatMap_nothing fun content inside =>
            leads_docLine (Text.lineFeed_not_mem_of_mem_lines inside)
              (isChain_keepsOpen_iff.mp (lines_stay content inside))
        exact (opens.append body).append closes

end Glue
end ForeignBindings
