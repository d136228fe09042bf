import ForeignBindings.Proofs.Text.IdentifierName
import ForeignBindings.Proofs.Text.StringValue
import Mathlib.Algebra.Order.BigOperators.Group.List
import Mathlib.Data.List.Dedup

/-!
# Members of object literals

The object initializers of a strict-mode module whose definitions have a plain key, an identifier
name or a string literal, with the members that they create.  What is read of the values is up to the
caller; a value can also be passed over up to the comma or the brace behind it, with its brackets
matched and its string literals read.  The key `__proto__`
sets the prototype of the object and creates no member, quoted or not, and it may stand there only
once; of two definitions with any other key the second replaces the first.
-/

namespace ForeignBindings
namespace Text

/-- No code point of a character is a surrogate, so the first code unit tells how many there are. -/
theorem codeUnits_append_inj {letter other : Char} {units more : List Nat}
    (same : codeUnits letter.toNat ++ units = codeUnits other.toNat ++ more) :
    letter = other ∧ units = more := by
  have apart (letter : Char) : letter.toNat < 0xD800 ∨ 0xDFFF < letter.toNat ∧
      letter.toNat < 0x110000 := letter.valid
  have known := apart letter
  have other_known := apart other
  rw [← Char.toNat_inj]
  unfold codeUnits at same
  split at same <;> split at same <;>
    simp only [List.cons_append, List.nil_append, List.cons.injEq] at same
  case isTrue.isTrue => exact same
  case isFalse.isFalse => exact ⟨by omega, same.2.2⟩
  all_goals omega

/-- A text is known by its code units. -/
theorem utf16_injective {letters others : List Char} (same : utf16 letters = utf16 others) :
    letters = others := by
  have nothing (letter : Char) (units : List Nat) : [] ≠ codeUnits letter.toNat ++ units := by
    rw [codeUnits]
    split <;> exact (List.cons_ne_nil _ _).symm
  induction letters generalizing others with
  | nil =>
      cases others with
      | nil => rfl
      | cons other others => exact absurd same (nothing other _)
  | cons letter letters induction =>
      cases others with
      | nil => exact absurd same.symm (nothing letter _)
      | cons other others =>
          rw [utf16, utf16, List.flatMap_cons, List.flatMap_cons] at same
          obtain ⟨rfl, rest⟩ := codeUnits_append_inj same
          rw [induction rest]

theorem StringLiteral.length_le_of_body? {text : List Char} {read : List Nat × List Char}
    (known : StringLiteral.body? text = some read) : read.2.length ≤ text.length := by
  fun_induction StringLiteral.body? text generalizing read with
  | case1 => cases known
  | case2 rest =>
      cases known
      exact Nat.le_succ _
  | case3 => cases known
  | case4 rest units after escaped induction =>
      obtain ⟨body, body_read, rfl⟩ := Option.map_eq_some_iff.mp known
      have shorter := induction body_read
      have escape := length_le_of_escape? escaped
      simp only [List.length_cons] at escape ⊢
      omega
  | case5 => cases known
  | case6 letter rest notQuote notEscape notEnd induction =>
      obtain ⟨body, body_read, rfl⟩ := Option.map_eq_some_iff.mp known
      have shorter := induction body_read
      exact Nat.le_succ_of_le shorter

namespace ObjectLiteral

/-- The bracket that closes what a bracket opens. -/
def closer? : Char → Option Char
  | '(' => some ')'
  | '[' => some ']'
  | '\x7b' => some '\x7d'
  | _ => none

/-- Whether a character may only stand in values that are not read: a bracket that closes nothing,
or the start of a literal of another kind or of a comment. -/
def isRefused (letter : Char) : Bool :=
  [')', ']', '\x7d', '\x27', '\x60', '/', '\\'].contains letter

/-- The brackets that are to be closed behind a character of a value. -/
def within? (closers : List Char) (letter : Char) : Option (List Char) :=
  if closers.head? = some letter then some closers.tail
  else
    match closer? letter with
    | some closer => some (closer :: closers)
    | none => if isRefused letter then none else some closers

/-- Whether a character stands behind a value. -/
def endsValue (closers : List Char) (letter : Char) : Bool :=
  closers.isEmpty && (letter == ',' || letter == '\x7d')

/-- What follows a value, from the comma or the brace behind it on, with some brackets still to be
closed. -/
def behindValue? (closers : List Char) (text : List Char) : Option (List Char) :=
  match text with
  | [] => none
  | '"' :: rest =>
      match _read : StringLiteral.body? rest with
      | none => none
      | some read => behindValue? closers read.2
  | letter :: rest =>
      if endsValue closers letter then some (letter :: rest)
      else
        match within? closers letter with
        | none => none
        | some closers => behindValue? closers rest
termination_by text.length
decreasing_by
  · exact Nat.lt_succ_of_le (StringLiteral.length_le_of_body? _read)
  · exact Nat.lt_succ_self _

/-- Whether a character may stand between the parts of a definition. -/
def isSpace (letter : Char) : Bool :=
  letter == ' ' || letter == '\t' || letter == '\n' || letter == '\r'

/-- The code units of the plain key that a text starts with, and what follows it. -/
def key? (wide : WideLetters) (text : List Char) : Option (List Nat × List Char) :=
  match text with
  | [] => none
  | '"' :: rest => StringLiteral.body? rest
  | first :: rest =>
      if wide.opens first then
        some (utf16 (first :: rest.takeWhile wide.follows), rest.dropWhile wide.follows)
      else none

section Reader

variable {α : Type} (wide : WideLetters) (value? : List Char → Option (α × List Char))

/-- The key of the definition that a text starts with, with what is read of the value behind the
colon, and what follows. -/
def definition? (text : List Char) : Option ((List Nat × α) × List Char) := do
  let (key, rest) ← key? wide text
  match rest.dropWhile isSpace with
  | ':' :: rest =>
      let (value, rest) ← value? rest
      return ((key, value), rest)
  | _ => none

/-- The definitions up to the brace that closes an object initializer, and what follows the brace.
There are fewer of them than the given number. -/
def entriesUpTo? : Nat → List Char → Option (List (List Nat × α) × List Char)
  | 0, _ => none
  | count + 1, text =>
      match text.dropWhile isSpace with
      | '\x7d' :: rest => some ([], rest)
      | text => do
          let (entry, rest) ← definition? wide value? text
          match rest with
          | ',' :: rest =>
              let (entries, rest) ← entriesUpTo? count rest
              return (entry :: entries, rest)
          | '\x7d' :: rest => return ([entry], rest)
          | _ => none

/-- The definitions of the object initializer that a text starts with, and what follows it. -/
def entries? : List Char → Option (List (List Nat × α) × List Char)
  | '\x7b' :: rest => entriesUpTo? wide value? (rest.length + 1) rest
  | _ => none

/-- The key that sets the prototype of an object. -/
def protoKey : List Nat :=
  utf16 "__proto__".toList

/-- The members that definitions create. -/
def created? (entries : List (List Nat × α)) : Option (List (List Nat × α)) :=
  if 1 < (entries.map Prod.fst).count protoKey then none
  else some ((entries.filter fun entry => entry.1 ≠ protoKey).pwFilter fun one other =>
    one.1 ≠ other.1)

/-- The members that the object initializer at the start of a text creates, with what is read of
their values, and what follows it. -/
def object? (text : List Char) : Option (List (List Nat × α) × List Char) := do
  let (entries, rest) ← entries? wide value? text
  return (← created? entries, rest)

end Reader

/-- A value that is passed over. -/
def anyValue? (text : List Char) : Option (Unit × List Char) :=
  (behindValue? [] text).map fun rest => ((), rest)

/-- The keys of the members that the object initializer at the start of a text creates. -/
def members? (wide : WideLetters) (text : List Char) : Option (List (List Nat)) :=
  (object? wide anyValue? text).map fun read => read.1.map Prod.fst

theorem toList_quote_append (text : String) (rest : List Char) :
    (quote text).toList ++ rest = '"' :: (text.toList.flatMap Quoted.escape ++ '"' :: rest) := by
  rw [quote, String.toList_ofList, Quoted.encode, List.append_assoc, List.cons_append,
    List.singleton_append]

/-- Whether a part of a value is passed over whatever follows it, with the brackets that are to be
closed before the part and behind it. -/
def Skips (closers text after : List Char) : Prop :=
  ∀ rest, behindValue? closers (text ++ rest) = behindValue? after rest

variable {closers after : List Char}

theorem Skips.append {text more last : List Char} (first : Skips closers text after)
    (second : Skips after more last) : Skips closers (text ++ more) last := by
  intro rest
  rw [List.append_assoc, first, second]

/-- The brackets that are to be closed behind a part of a value without string literals. -/
def passes? : List Char → List Char → Option (List Char)
  | closers, [] => some closers
  | closers, letter :: rest =>
      if letter = '"' ∨ endsValue closers letter then none
      else (within? closers letter).bind fun closers => passes? closers rest

theorem skips_of_passes? {text : List Char} (passes : passes? closers text = some after) :
    Skips closers text after := by
  induction text generalizing closers with
  | nil =>
      cases passes
      exact fun rest => rfl
  | cons letter text induction =>
      obtain ⟨inside, passes⟩ := Option.ite_none_left_eq_some.mp passes
      obtain ⟨open_closers, known, passes⟩ := Option.bind_eq_some_iff.mp passes
      obtain ⟨plain, inside⟩ := not_or.mp inside
      intro rest
      rw [List.cons_append, behindValue?, if_neg inside, known]
      · exact induction passes rest
      · exact plain

/-- Characters that neither open nor close anything are passed over. -/
theorem passes?_of_forall {text : List Char}
    (all : ∀ letter ∈ text, letter ≠ '"' ∧ endsValue closers letter = false ∧
      within? closers letter = some closers) : passes? closers text = some closers := by
  induction text with
  | nil => rfl
  | cons letter text induction =>
      obtain ⟨⟨plain, inside, known⟩, others⟩ := List.forall_mem_cons.mp all
      rw [passes?, if_neg (not_or.mpr ⟨plain, Bool.eq_false_iff.mp inside⟩), known,
        Option.bind_some, induction others]

/-- A quoted text is passed over, unless a null character stands before a digit in it. -/
theorem skips_quote {text : String} (apart : ¬ StringLiteral.HasNullBeforeDigit text.toList)
    (closers : List Char) : Skips closers (quote text).toList closers := by
  intro rest
  have read := StringLiteral.body?_of_not_hasNullBeforeDigit apart rest
  rw [toList_quote_append, behindValue?]
  split
  case h_1 none => cases read.symm.trans none
  case h_2 found =>
    cases read.symm.trans found
    rfl

theorem behindValue?_comma (rest : List Char) :
    behindValue? [] (',' :: rest) = some (',' :: rest) := by
  have ends : endsValue [] ',' = true := by decide
  rw [behindValue?, if_pos ends]
  decide

/-- The code units of a name. -/
def nameUnits (name : String) : List Nat :=
  utf16 name.toList

theorem nameUnits_injective : Function.Injective nameUnits :=
  fun _ _ same => String.toList_inj.mp (utf16_injective same)

/-- The code units of a name, unless the literal that it is quoted as is malformed. -/
def quotedUnits? (name : String) : Option (List Nat) :=
  if StringLiteral.HasNullBeforeDigit name.toList then none else some (nameUnits name)

variable {wide : WideLetters} {names : List String}

theorem mapM_quotedUnits?
    (apart : ∀ name ∈ names, ¬ StringLiteral.HasNullBeforeDigit name.toList) :
    names.mapM quotedUnits? = some (names.map nameUnits) := by
  induction names with
  | nil => rfl
  | cons name names induction =>
      obtain ⟨first, others⟩ := List.forall_mem_cons.mp apart
      rw [List.mapM_cons, quotedUnits?, if_neg first, induction others]
      rfl

theorem mapM_quotedUnits?_eq_none {name : String} (inside : name ∈ names)
    (null : StringLiteral.HasNullBeforeDigit name.toList) : names.mapM quotedUnits? = none := by
  induction names with
  | nil => cases inside
  | cons other names induction =>
      rw [List.mapM_cons]
      obtain rfl | inside := List.mem_cons.mp inside
      · rw [quotedUnits?, if_pos null]
        rfl
      · rw [induction inside]
        cases quotedUnits? other <;> rfl

/-- Definitions with distinct keys create a member each, but for the one that sets the prototype. -/
theorem created?_of_nodup {α : Type} {entries : List (List Nat × α)}
    (distinct : (entries.map Prod.fst).Nodup) :
    created? entries = some (entries.filter fun entry => entry.1 ≠ protoKey) := by
  have apart : (entries.filter fun entry => entry.1 ≠ protoKey).Pairwise
      fun one other => one.1 ≠ other.1 := (List.pairwise_map.mp distinct).filter _
  rw [created?, if_neg (Nat.not_lt.mpr (List.nodup_iff_count_le_one.mp distinct _)),
    List.pwFilter_eq_self.mpr apart]

/-- What an object initializer creates that defines names of its own by their plain keys. -/
structure Defines (wide : WideLetters) (text : List Char) (names : List String) : Prop where
  /-- It is malformed exactly if a null character stands before a digit in a name. -/
  malformed : members? wide text = none ↔
    ∃ name ∈ names, StringLiteral.HasNullBeforeDigit name.toList
  /-- Otherwise it creates a member for each name but the name of the prototype. -/
  creates : ∀ members, members? wide text = some members →
    members = (names.filter (· ≠ "__proto__")).map nameUnits
  /-- So it creates a member for each name exactly if no name is one of those. -/
  keeps : members? wide text = some (names.map nameUnits) ↔
    ∀ name ∈ names, name ≠ "__proto__" ∧ ¬ StringLiteral.HasNullBeforeDigit name.toList

theorem map_nameUnits_filter (names : List String) :
    (names.map nameUnits).filter (· ≠ protoKey) =
      (names.filter (· ≠ "__proto__")).map nameUnits := by
  rw [List.filter_map]
  refine congrArg (List.map nameUnits) (List.filter_congr fun name _ => ?_)
  exact decide_eq_decide.mpr nameUnits_injective.ne_iff

/-- The keys of definitions whose values are passed over. -/
theorem members?_of_entries? {text rest : List Char} (distinct : names.Nodup)
    (apart : ∀ name ∈ names, ¬ StringLiteral.HasNullBeforeDigit name.toList)
    (read : entries? wide anyValue? text =
      (names.mapM quotedUnits?).map fun keys => (keys.map (·, ()), rest)) :
    members? wide text = some ((names.filter (· ≠ "__proto__")).map nameUnits) := by
  have keys : ((names.map nameUnits).map (·, ())).map Prod.fst = names.map nameUnits := by
    rw [List.map_map]
    exact List.map_id _
  have once : (((names.map nameUnits).map (·, ())).map Prod.fst).Nodup := by
    rw [keys]
    exact distinct.map nameUnits_injective
  rw [members?, object?, read, mapM_quotedUnits? apart]
  simp only [Option.map_some, Option.bind_eq_bind, Option.bind_some, created?_of_nodup once,
    Option.pure_def]
  rw [← map_nameUnits_filter, List.filter_map, List.map_map]
  exact congrArg some (List.map_id _)

/-- An object initializer is known by its keys. -/
theorem defines_of_entries? {text rest : List Char} (distinct : names.Nodup)
    (read : entries? wide anyValue? text =
      (names.mapM quotedUnits?).map fun keys => (keys.map (·, ()), rest)) :
    Defines wide text names := by
  by_cases malformed : ∃ name ∈ names, StringLiteral.HasNullBeforeDigit name.toList
  · obtain ⟨name, inside, null⟩ := malformed
    have created : members? wide text = none := by
      rw [members?, object?, read, mapM_quotedUnits?_eq_none inside null]
      rfl
    refine ⟨iff_of_true created ⟨name, inside, null⟩, fun members found => ?_, ?_⟩
    · cases created.symm.trans found
    · rw [created]
      exact iff_of_false nofun fun all => (all name inside).2 null
  · have apart : ∀ name ∈ names, ¬ StringLiteral.HasNullBeforeDigit name.toList :=
      fun name inside null => malformed ⟨name, inside, null⟩
    have created := members?_of_entries? distinct apart read
    refine ⟨?_, fun members found => Option.some.inj (found.symm.trans created), ?_⟩
    · rw [created]
      exact iff_of_false nofun malformed
    · rw [created, Option.some_inj, nameUnits_injective.list_map.eq_iff, List.filter_eq_self]
      exact forall₂_congr fun name inside => by
        rw [decide_eq_true_iff, and_iff_left (apart name inside)]

/-- Whether a text is read as a definition in front of every comma. -/
structure IsEntry {α : Type} (wide : WideLetters) (value? : List Char → Option (α × List Char))
    (text : List Char) (entry : Option (List Nat × α)) : Prop where
  /-- The text starts neither with a space nor with the end of an initializer. -/
  starts : ∃ first others, text = first :: others ∧ isSpace first = false ∧ first ≠ '\x7d'
  /-- The definition goes up to the comma. -/
  read : ∀ rest, definition? wide value? (text ++ ',' :: rest) = entry.map (·, ',' :: rest)

section Entries

variable {α ι : Type} {value? : List Char → Option (α × List Char)}

theorem definition?_of_key? {text rest value : List Char} {key : Option (List Nat)}
    {read : Option α} (known : key? wide (text ++ ':' :: (value ++ rest)) =
      key.map (·, ':' :: (value ++ rest)))
    (value_read : value? (value ++ rest) = read.map (·, rest)) :
    definition? wide value? (text ++ ':' :: (value ++ rest)) =
      (key.bind fun key => read.map (key, ·)).map (·, rest) := by
  have behind : (':' :: (value ++ rest)).dropWhile isSpace = ':' :: (value ++ rest) := rfl
  rw [definition?, known]
  cases key with
  | none => rfl
  | some units =>
      simp only [Option.map_some, Option.bind_eq_bind, Option.bind_some, behind, value_read]
      cases read <;> rfl

/-- A definition is read if its key and its value are. -/
theorem isEntry_of_key? {key value : List Char} {units : Option (List Nat)} {read : Option α}
    (starts : ∃ first others, key = first :: others ∧ isSpace first = false ∧ first ≠ '\x7d')
    (known : ∀ rest, key? wide (key ++ ':' :: rest) = units.map (·, ':' :: rest))
    (value_read : ∀ rest, value? (value ++ ',' :: rest) = read.map (·, ',' :: rest)) :
    IsEntry wide value? (key ++ ':' :: value) (units.bind fun units => read.map (units, ·)) := by
  constructor
  · obtain ⟨first, others, rfl, visible⟩ := starts
    exact ⟨first, _, List.cons_append, visible⟩
  · intro rest
    have read := definition?_of_key? (known _) (value_read rest)
    rwa [← List.cons_append, ← List.append_assoc] at read

/-- A letter that opens an identifier neither is a space nor ends an initializer. -/
theorem starts_of_isIdentifierName {name : String} (identifier : IsIdentifierName wide name) :
    ∃ first others, name.toList = first :: others ∧ isSpace first = false ∧ first ≠ '\x7d' := by
  obtain ⟨first, others, spelled, opens, -⟩ := identifier
  refine ⟨first, others, spelled, Bool.eq_false_iff.mpr fun space => ?_, ?_⟩
  · simp only [isSpace, Bool.or_eq_true, beq_iff_eq] at space
    obtain ((rfl | rfl) | rfl) | rfl := space <;> cases opens
  · rintro rfl
    cases opens

/-- The name of an identifier is a key up to the first character that cannot follow in it. -/
theorem key?_of_isIdentifierName {name : String} (identifier : IsIdentifierName wide name)
    {letter : Char} (stops : wide.follows letter = false) (rest : List Char) :
    key? wide (name.toList ++ letter :: rest) = some (nameUnits name, letter :: rest) := by
  obtain ⟨first, others, spelled, opens, follow⟩ := identifier
  have stop : ∀ next ∈ (letter :: rest).head?, wide.follows next = false := by
    rintro _ ⟨⟩
    exact stops
  have unquoted : first ≠ '"' := by
    rintro rfl
    cases opens
  rw [nameUnits, spelled, List.cons_append, key?, if_pos opens,
    takeWhile_append_of_stops follow stop, dropWhile_append_of_stops follow stop]
  exact unquoted

/-- An identifier in front of a colon is the key of a definition. -/
theorem isEntry_of_isIdentifierName {name : String} (identifier : IsIdentifierName wide name)
    {value : List Char} {read : Option α}
    (value_read : ∀ rest, value? (value ++ ',' :: rest) = read.map (·, ',' :: rest)) :
    IsEntry wide value? (name.toList ++ ':' :: value) (read.map (nameUnits name, ·)) := by
  have key (rest : List Char) : key? wide (name.toList ++ ':' :: rest) =
      (some (nameUnits name)).map (·, ':' :: rest) :=
    key?_of_isIdentifierName identifier (rfl : wide.follows ':' = false) rest
  exact isEntry_of_key? (starts_of_isIdentifierName identifier) key value_read

/-- Where something else than a colon stands behind the name of an identifier, there is no
definition. -/
theorem isEntry_none_of_isIdentifierName {name : String} (identifier : IsIdentifierName wide name)
    {letter : Char} (stops : wide.follows letter = false) (visible : isSpace letter = false)
    (other : letter ≠ ':') (more : List Char) :
    IsEntry wide value? (name.toList ++ letter :: more) none := by
  constructor
  · obtain ⟨first, others, spelled, starts⟩ := starts_of_isIdentifierName identifier
    exact ⟨first, others ++ letter :: more, by rw [spelled, List.cons_append], starts⟩
  · intro rest
    have kept : (letter :: (more ++ ',' :: rest)).dropWhile isSpace =
        letter :: (more ++ ',' :: rest) := by
      rw [List.dropWhile_cons, visible, if_neg Bool.false_ne_true]
    rw [List.append_assoc, List.cons_append, definition?, key?_of_isIdentifierName identifier stops]
    simp only [Option.bind_eq_bind, Option.bind_some, kept]
    split
    case h_1 same => exact absurd (List.cons.inj same).1 other
    case h_2 => rfl

variable {blank indent closing : List Char} {items : List ι} {print : ι → List Char}
  {entry : ι → Option (List Nat × α)}

theorem entriesUpTo?_close (spaces : ∀ letter ∈ blank, isSpace letter = true) (count : Nat)
    (rest : List Char) :
    entriesUpTo? wide value? (count + 1) (blank ++ '\x7d' :: rest) = some ([], rest) := by
  have closing : ∀ letter ∈ ('\x7d' :: rest).head?, isSpace letter = false := by
    rintro _ ⟨⟩
    decide
  rw [entriesUpTo?, dropWhile_append_of_stops spaces closing]
  rfl

theorem entriesUpTo?_entry (spaces : ∀ letter ∈ blank, isSpace letter = true) {text : List Char}
    {entry : Option (List Nat × α)} (isEntry : IsEntry wide value? text entry) (count : Nat)
    (rest : List Char) :
    entriesUpTo? wide value? (count + 1) (blank ++ (text ++ ',' :: rest)) = (do
      let entry ← entry
      let (entries, rest) ← entriesUpTo? wide value? count rest
      return (entry :: entries, rest)) := by
  obtain ⟨first, others, spelled, visible, opens⟩ := isEntry.starts
  have read := isEntry.read rest
  rw [spelled] at read ⊢
  rw [entriesUpTo?, dropWhile_append_of_stops spaces (by rintro _ ⟨⟩; exact visible)]
  split
  case h_1 closing => cases closing; exact absurd rfl opens
  case h_2 =>
    rw [read]
    cases entry <;> rfl

theorem isSpace_lineFeed : ∀ letter ∈ ['\n'], isSpace letter = true :=
  List.all_eq_true.mp (by decide)

/-- The line of a definition. -/
def entryLine (indent text : List Char) : List Char :=
  indent ++ (text ++ [',', '\n'])

/-- The lines of definitions up to a closing brace are read as these. -/
theorem entriesUpTo?_entryLines (each : ∀ item ∈ items, IsEntry wide value? (print item) (entry item))
    (indents : ∀ letter ∈ indent, isSpace letter = true)
    (closes : ∀ letter ∈ closing, isSpace letter = true)
    (spaces : ∀ letter ∈ blank, isSpace letter = true) {count : Nat}
    (enough : items.length < count) (rest : List Char) :
    entriesUpTo? wide value? count (blank ++
      (items.flatMap (fun item => entryLine indent (print item)) ++ (closing ++ '\x7d' :: rest))) =
        (items.mapM entry).map (·, rest) := by
  obtain ⟨count, rfl⟩ := Nat.exists_eq_add_one_of_ne_zero (Nat.ne_zero_of_lt enough)
  induction items generalizing blank count with
  | nil =>
      rw [List.flatMap_nil, List.nil_append, ← List.append_assoc]
      exact entriesUpTo?_close (List.forall_mem_append.mpr ⟨spaces, closes⟩) count rest
  | cons item items induction =>
      obtain ⟨first, others⟩ := List.forall_mem_cons.mp each
      have more : items.length < count := Nat.lt_of_succ_lt_succ enough
      obtain ⟨count, rfl⟩ := Nat.exists_eq_add_one_of_ne_zero (Nat.ne_zero_of_lt more)
      have read := entriesUpTo?_entry (List.forall_mem_append.mpr ⟨spaces, indents⟩) first (count + 1)
        ('\n' :: (items.flatMap (fun item => entryLine indent (print item)) ++
          (closing ++ '\x7d' :: rest)))
      -- The line feed behind a definition is the blank before the next one.
      have later := induction others isSpace_lineFeed count more
      rw [List.singleton_append] at later
      rw [later] at read
      have printed : blank ++ ((item :: items).flatMap (fun item => entryLine indent (print item)) ++
          (closing ++ '\x7d' :: rest)) = blank ++ indent ++ (print item ++ ',' :: '\n' ::
            (items.flatMap (fun item => entryLine indent (print item)) ++
              (closing ++ '\x7d' :: rest))) := by
        simp only [entryLine, List.flatMap_cons, List.append_assoc, List.cons_append,
          List.nil_append]
      rw [printed, read, List.mapM_cons]
      cases entry item with
      | none => rfl
      | some first => cases items.mapM entry <;> rfl

/-- An object initializer with one definition on each line is read as these. -/
theorem entries?_entryLines (each : ∀ item ∈ items, IsEntry wide value? (print item) (entry item))
    (indents : ∀ letter ∈ indent, isSpace letter = true)
    (closes : ∀ letter ∈ closing, isSpace letter = true) (rest : List Char) :
    entries? wide value? ('\x7b' :: '\n' :: (items.flatMap
      (fun item => entryLine indent (print item)) ++ (closing ++ '\x7d' :: rest))) =
        (items.mapM entry).map (·, rest) := by
  have long : items.length ≤ (items.flatMap fun item => entryLine indent (print item)).length := by
    rw [List.length_flatMap, ← List.length_map (fun item => (entryLine indent (print item)).length)]
    refine List.length_le_sum_of_one_le _ fun length inside => ?_
    obtain ⟨item, -, rfl⟩ := List.mem_map.mp inside
    simp [entryLine]
    omega
  refine entriesUpTo?_entryLines each indents closes isSpace_lineFeed ?_ rest
  simp only [List.length_cons, List.length_append]
  omega

end Entries

end ObjectLiteral
end Text
end ForeignBindings
