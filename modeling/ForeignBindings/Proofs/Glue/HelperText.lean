import ForeignBindings.Proofs.Glue.Parts
import ForeignBindings.Proofs.Glue.DataView
import ForeignBindings.Proofs.Text.IdentifierName
import ForeignBindings.Proofs.Text.Quoted
import Mathlib.Data.List.Basic

/-!
# Reading the lines of helper functions

The lines of the functions that pack and unpack values, read by themselves: a line is taken apart
into the accessor that it calls, the offset, the member and the byte order, without regard to how it
was printed.  The printed lines are read as the accesses that they were printed from, and the
printed functions are made of such lines.
-/

namespace ForeignBindings
namespace Glue

open Text (takeWhile_append_of_stops dropWhile_append_of_stops)

/-- What follows a given start. -/
def behind? (start : String) (text : List Char) : Option (List Char) :=
  start.toList.isPrefixOf? text

/-- The characters of a kind that a text starts with, at least one, and what follows. -/
def readWhile? (kind : Char → Bool) (text : List Char) : Option (List Char × List Char) :=
  if text.takeWhile kind = [] then none else some (text.takeWhile kind, text.dropWhile kind)

/-- The decimal number that a text starts with, and what follows. -/
def readNumber? (text : List Char) : Option (Nat × List Char) :=
  (readWhile? Char.isDigit text).map fun read => (Nat.ofDigitChars 10 read.1 0, read.2)

/-- The identifier that a text starts with, and what follows. -/
def readIdentifier? (text : List Char) : Option (String × List Char) :=
  (readWhile? Name.isIdentifierPart text).map fun read => (String.ofList read.1, read.2)

/-- The text of the quoted literal that a text starts with, and what follows. -/
def readLiteral? (text : List Char) : Option (String × List Char) :=
  (Text.Quoted.read? text).map fun read => (String.ofList read.1, read.2)

/-- The member that is named behind a point or in brackets, and what follows. -/
def readMember? (text : List Char) : Option (String × List Char) :=
  match text with
  | '.' :: rest => readIdentifier? rest
  | '[' :: rest => do
      let (member, rest) ← readLiteral? rest
      return (member, ← behind? "]" rest)
  | _ => none

/-- The key of a member, quoted or not, and what follows. -/
def readKey? (text : List Char) : Option (String × List Char) :=
  (readIdentifier? text).or (readLiteral? text)

/-- The flag for the lowest byte first, which need not be there, and what follows. -/
def readFlag (text : List Char) : Bool × List Char :=
  match behind? ", true" text, behind? ", false" text with
  | some rest, _ => (true, rest)
  | none, some rest => (false, rest)
  | none, none => (false, text)

/-- An access to a member through a view. -/
structure ViewAccess where
  /-- The member. -/
  member : String
  /-- The integers of the accessor. -/
  type : IntegerType
  /-- The offset of the first byte. -/
  offset : Nat
  /-- Whether the lowest byte comes first. -/
  littleEndian : Bool
  deriving DecidableEq, Repr

/-- The accessor and the offset behind `get` or `set`, and what follows. -/
def readAccessor? (text : List Char) : Option (IntegerType × Nat × List Char) := do
  let (accessor, text) ← readWhile? Char.isAlphanum text
  let type ← IntegerType.ofAccessor? (String.ofList accessor)
  let (offset, text) ← readNumber? (← behind? "(" text)
  return (type, offset, text)

/-- The access of a line that writes a member. -/
def readSet? (line : List Char) : Option ViewAccess := do
  let (type, offset, text) ← readAccessor? (← behind? "  view.set" line)
  let (member, text) ← readMember? (← behind? ", v" text)
  let flag := readFlag text
  if flag.2 = ");".toList then some ⟨member, type, offset, flag.1⟩ else none

/-- The access of a line that reads a member. -/
def readGet? (line : List Char) : Option ViewAccess := do
  let (member, text) ← readKey? (← behind? "    " line)
  let (type, offset, text) ← readAccessor? (← behind? ": view.get" text)
  let flag := readFlag text
  if flag.2 = "),".toList then some ⟨member, type, offset, flag.1⟩ else none

/-- The size of the buffer that a line makes. -/
def readAllocation? (line : List Char) : Option Nat := do
  let (size, text) ← readNumber? (← behind? "  const buf = new Uint8Array(" line)
  if text = ");".toList then some size else none

@[simp]
theorem behind?_append (start : String) (rest : List Char) :
    behind? start (start.toList ++ rest) = some rest :=
  List.isPrefixOf?_eq_some_iff_append_eq.mpr rfl

section Stops

variable {kind : Char → Bool} {letters rest : List Char}

/-- A text that starts with a character of another kind stops characters of a kind. -/
theorem stops_append (start : String)
    (other : start.toList.head?.any (fun letter => !kind letter) = true) (rest : List Char) :
    ∀ letter ∈ (start.toList ++ rest).head?, kind letter = false := by
  cases spelled : start.toList with
  | nil =>
      rw [spelled] at other
      cases other
  | cons first letters =>
      rw [spelled] at other
      rintro _ ⟨⟩
      simpa using other

theorem readWhile?_append (some : letters ≠ []) (all : ∀ letter ∈ letters, kind letter)
    (stops : ∀ letter ∈ rest.head?, kind letter = false) :
    readWhile? kind (letters ++ rest) = .some (letters, rest) := by
  rw [readWhile?, takeWhile_append_of_stops all stops, dropWhile_append_of_stops all stops,
    if_neg some]

end Stops

theorem readNumber?_append (number : Nat) {rest : List Char}
    (stops : ∀ letter ∈ rest.head?, letter.isDigit = false) :
    readNumber? ((toString number).toList ++ rest) = some (number, rest) := by
  have digits : (toString number).toList = Nat.toDigits 10 number := Nat.toList_repr
  have some : Nat.toDigits 10 number ≠ [] := by simp
  have all : ∀ letter ∈ Nat.toDigits 10 number, letter.isDigit = true := fun letter inside =>
    Nat.isDigit_of_mem_toDigits (by decide) (by decide) inside
  rw [readNumber?, digits, readWhile?_append some all stops, Option.map_some,
    Nat.ofDigitChars_ten_toDigits]

theorem isIdentifierPart_of_isIdentifier {name : String} (identifier : Name.isIdentifier name) :
    name.toList ≠ [] ∧ ∀ letter ∈ name.toList, Name.isIdentifierPart letter = true := by
  rw [Name.isIdentifier] at identifier
  split at identifier
  case h_1 => cases identifier
  case h_2 first rest spelled =>
    obtain ⟨start, part⟩ := Bool.and_eq_true_iff.mp identifier
    rw [spelled]
    refine ⟨List.cons_ne_nil _ _, List.forall_mem_cons.mpr ⟨?_, List.all_eq_true.mp part⟩⟩
    have alphanumeric : first.isAlpha → first.isAlphanum := fun alpha => by
      rw [Char.isAlphanum, alpha, Bool.true_or]
    simp only [Name.isIdentifierStart, Name.isIdentifierPart, Bool.or_eq_true] at start ⊢
    exact start.imp_left (Or.imp_left alphanumeric)

theorem readIdentifier?_append {name : String} (identifier : Name.isIdentifier name)
    {rest : List Char} (stops : ∀ letter ∈ rest.head?, Name.isIdentifierPart letter = false) :
    readIdentifier? (name.toList ++ rest) = some (name, rest) := by
  obtain ⟨some, parts⟩ := isIdentifierPart_of_isIdentifier identifier
  rw [readIdentifier?, readWhile?_append some parts stops, Option.map_some, String.ofList_toList]

theorem readLiteral?_append (text : String) (rest : List Char) :
    readLiteral? ((Text.quote text).toList ++ rest) = some (text, rest) := by
  rw [readLiteral?, Text.quote, String.toList_ofList, Text.Quoted.read?_encode, Option.map_some,
    String.ofList_toList]

/-- A printed member access names its member. -/
theorem readMember?_append (name : String) {rest : List Char}
    (stops : ∀ letter ∈ rest.head?, Name.isIdentifierPart letter = false) :
    readMember? ((memberAccess name).toList ++ rest) = some (name, rest) := by
  rw [memberAccess]
  split
  case isTrue identifier =>
    have spelled : ("." ++ name).toList ++ rest = '.' :: (name.toList ++ rest) := by simp
    rw [spelled, readMember?, readIdentifier?_append identifier stops]
  case isFalse =>
    have spelled : ("[" ++ Text.quote name ++ "]").toList ++ rest =
        '[' :: ((Text.quote name).toList ++ ("]".toList ++ rest)) := by simp
    rw [spelled, readMember?]
    simp only [readLiteral?_append, behind?_append, Option.bind_eq_bind, Option.bind_some]
    rfl

/-- A printed key names its member. -/
theorem readKey?_append (name : String) {rest : List Char}
    (stops : ∀ letter ∈ rest.head?, Name.isIdentifierPart letter = false) :
    readKey? ((Name.propertyKey name).toList ++ rest) = some (name, rest) := by
  rw [Name.propertyKey, readKey?]
  split
  case isTrue identifier => rw [readIdentifier?_append identifier stops, Option.some_or]
  case isFalse =>
    have unread : readIdentifier? ((Text.quote name).toList ++ rest) = none := by
      simp [readIdentifier?, readWhile?, Text.quote, Text.Quoted.encode, Name.isIdentifierPart]
    rw [unread, Option.none_or, readLiteral?_append]

theorem readFlag_append (flag : Option Bool) (rest : List Char) :
    readFlag ((endianText flag).toList ++ ')' :: rest) = (flag.getD false, ')' :: rest) := by
  cases flag with
  | none => rfl
  | some littleEndian => cases littleEndian <;> rfl

theorem eq_of_mem_head?_endianText {flag : Option Bool} {rest : List Char} {letter : Char}
    (first : letter ∈ ((endianText flag).toList ++ ')' :: rest).head?) :
    letter = ',' ∨ letter = ')' := by
  cases flag with
  | none => exact .inr (Option.some.inj first).symm
  | some littleEndian =>
      cases littleEndian <;> exact .inl (Option.some.inj first).symm

theorem readAccessor?_append {method : ViewMethod} {type : IntegerType}
    (known : IntegerType.ofAccessor? method.spelling = some type) (offset : Nat) {rest : List Char}
    (stops : ∀ letter ∈ rest.head?, letter.isDigit = false) :
    readAccessor? (method.spelling.toList ++ ("(".toList ++ ((toString offset).toList ++ rest))) =
      some (type, offset, rest) := by
  have some : method.spelling.toList ≠ [] := by cases method <;> decide
  have spelled : method.spelling.toList.all Char.isAlphanum = true := by cases method <;> decide
  have opens : ∀ letter ∈ ("(".toList ++ ((toString offset).toList ++ rest)).head?,
      letter.isAlphanum = false := by
    rintro letter ⟨⟩
    decide
  rw [readAccessor?, readWhile?_append some (List.all_eq_true.mp spelled) opens]
  simp only [Option.bind_eq_bind, Option.bind_some, String.ofList_toList, known, behind?_append,
    readNumber?_append offset stops, Option.pure_def]

theorem staysOnLine_identifier {name : String} (identifier : Name.isIdentifier name) :
    Text.StaysOnLine name.toList := by
  intro letter inside
  have part := (isIdentifierPart_of_isIdentifier identifier).2 letter inside
  constructor
  · rintro rfl
    cases part
  · rintro rfl
    cases part

theorem staysOnLine_toString (number : Nat) : Text.StaysOnLine (toString number).toList := by
  intro letter inside
  have digits : (toString number).toList = Nat.toDigits 10 number := Nat.toList_repr
  have digit := Nat.isDigit_of_mem_toDigits (by decide) (by decide) (digits ▸ inside)
  constructor
  · rintro rfl
    cases digit
  · rintro rfl
    cases digit

theorem staysOnLine_quote (text : String) : Text.StaysOnLine (Text.quote text).toList := by
  rw [Text.quote, String.toList_ofList]
  exact Text.Quoted.staysOnLine_encode _

theorem staysOnLine_memberAccess (name : String) :
    Text.StaysOnLine (memberAccess name).toList := by
  rw [memberAccess]
  split
  case isTrue identifier =>
    rw [String.toList_append, Text.staysOnLine_append]
    exact ⟨by decide, staysOnLine_identifier identifier⟩
  case isFalse =>
    rw [String.toList_append, String.toList_append, Text.staysOnLine_append,
      Text.staysOnLine_append]
    exact ⟨⟨by decide, staysOnLine_quote name⟩, by decide⟩

theorem staysOnLine_propertyKey (name : String) :
    Text.StaysOnLine (Name.propertyKey name).toList := by
  rw [Name.propertyKey]
  split
  case isTrue identifier => exact staysOnLine_identifier identifier
  case isFalse => exact staysOnLine_quote name

theorem staysOnLine_spelling (method : ViewMethod) :
    Text.StaysOnLine method.spelling.toList := by
  cases method <;> decide

theorem staysOnLine_endianText (flag : Option Bool) :
    Text.StaysOnLine (endianText flag).toList := by
  cases flag with
  | none => decide
  | some littleEndian => cases littleEndian <;> decide

section Accesses

variable (access : Access) {type : IntegerType}

/-- The line of the statement that writes a field. -/
def setLine : List Char :=
  "  view.set".toList ++ (access.method.spelling.toList ++ ("(".toList ++
    ((toString access.offset).toList ++ (", v".toList ++ ((memberAccess access.field).toList ++
    ((endianText access.littleEndian).toList ++ ");".toList))))))

theorem toList_setText : (setText access).toList = setLine access ++ ['\n'] := by
  unfold setText setLine
  simp only [String.toList_append, List.append_assoc]
  rfl

theorem staysOnLine_setLine : Text.StaysOnLine (setLine access) := by
  unfold setLine
  simp only [Text.staysOnLine_append]
  exact ⟨by decide, staysOnLine_spelling _, by decide, staysOnLine_toString _, by decide,
    staysOnLine_memberAccess _, staysOnLine_endianText _, by decide⟩

/-- A statement that writes a field is read as the access. -/
theorem readSet?_setLine (known : IntegerType.ofAccessor? access.method.spelling = some type) :
    readSet? (setLine access) =
      some ⟨access.field, type, access.offset, access.littleEndian.getD false⟩ := by
  have comma (rest : List Char) :
      ∀ letter ∈ (", v".toList ++ rest).head?, letter.isDigit = false := by
    rintro letter ⟨⟩
    decide
  have ends : ∀ letter ∈ ((endianText access.littleEndian).toList ++ ");".toList).head?,
      Name.isIdentifierPart letter = false := by
    intro letter first
    rcases eq_of_mem_head?_endianText first with rfl | rfl <;> decide
  have flag : readFlag ((endianText access.littleEndian).toList ++ ");".toList) =
      (access.littleEndian.getD false, ");".toList) := readFlag_append _ [';']
  unfold setLine
  simp only [readSet?, behind?_append, readAccessor?_append known _ (comma _),
    readMember?_append _ ends, Option.bind_eq_bind, Option.bind_some]
  rw [flag]
  exact if_pos rfl

/-- The line of the member that reads a field. -/
def getLine : List Char :=
  "    ".toList ++ ((Name.propertyKey access.field).toList ++ (": view.get".toList ++
    (access.method.spelling.toList ++ ("(".toList ++ ((toString access.offset).toList ++
    ((endianText access.littleEndian).toList ++ "),".toList))))))

theorem toList_getText : (getText access).toList = getLine access ++ ['\n'] := by
  unfold getText getLine
  simp only [String.toList_append, List.append_assoc]
  rfl

theorem staysOnLine_getLine : Text.StaysOnLine (getLine access) := by
  unfold getLine
  simp only [Text.staysOnLine_append]
  exact ⟨by decide, staysOnLine_propertyKey _, by decide, staysOnLine_spelling _, by decide,
    staysOnLine_toString _, staysOnLine_endianText _, by decide⟩

/-- A member that reads a field is read as the access. -/
theorem readGet?_getLine (known : IntegerType.ofAccessor? access.method.spelling = some type) :
    readGet? (getLine access) =
      some ⟨access.field, type, access.offset, access.littleEndian.getD false⟩ := by
  have colon (rest : List Char) :
      ∀ letter ∈ (": view.get".toList ++ rest).head?, Name.isIdentifierPart letter = false := by
    rintro letter ⟨⟩
    decide
  have ends : ∀ letter ∈ ((endianText access.littleEndian).toList ++ "),".toList).head?,
      letter.isDigit = false := by
    intro letter first
    rcases eq_of_mem_head?_endianText first with rfl | rfl <;> decide
  have flag : readFlag ((endianText access.littleEndian).toList ++ "),".toList) =
      (access.littleEndian.getD false, "),".toList) := readFlag_append _ [',']
  unfold getLine
  simp only [readGet?, behind?_append, readKey?_append _ (colon _),
    readAccessor?_append known _ ends, Option.bind_eq_bind, Option.bind_some]
  rw [flag]
  exact if_pos rfl

end Accesses

/-- The line that makes a buffer. -/
def allocationLine (size : Nat) : List Char :=
  "  const buf = new Uint8Array(".toList ++ ((toString size).toList ++ ");".toList)

theorem staysOnLine_allocationLine (size : Nat) : Text.StaysOnLine (allocationLine size) := by
  unfold allocationLine
  rw [Text.staysOnLine_append, Text.staysOnLine_append]
  exact ⟨by decide, staysOnLine_toString size, by decide⟩

/-- A statement that makes a buffer is read as the size of the buffer. -/
theorem readAllocation?_allocationLine (size : Nat) :
    readAllocation? (allocationLine size) = some size := by
  have ends : ∀ letter ∈ (");".toList : List Char).head?, letter.isDigit = false := by
    rintro letter ⟨⟩
    decide
  unfold allocationLine
  simp only [readAllocation?, behind?_append, readNumber?_append _ ends, Option.bind_eq_bind,
    Option.bind_some, if_true]

/-- The line that declares the function that packs values of a type. -/
def packHead (typeName : String) : String :=
  "function __pack_" ++ typeName ++ "(v: " ++ typeName ++ "): Uint8Array \x7b"

/-- The line that declares the function that unpacks values of a type. -/
def unpackHead (typeName : String) : String :=
  "function __unpack_" ++ typeName ++ "(buf: Uint8Array): " ++ typeName ++ " \x7b"

theorem staysOnLine_declaration {typeName start middle finish : String}
    (identifier : Name.isIdentifier typeName) (start_stays : Text.StaysOnLine start.toList)
    (middle_stays : Text.StaysOnLine middle.toList)
    (finish_stays : Text.StaysOnLine finish.toList) :
    Text.StaysOnLine (start ++ typeName ++ middle ++ typeName ++ finish).toList := by
  have name := staysOnLine_identifier identifier
  simp only [String.toList_append, Text.staysOnLine_append]
  exact ⟨⟨⟨⟨start_stays, name⟩, middle_stays⟩, name⟩, finish_stays⟩

theorem staysOnLine_packHead {typeName : String} (identifier : Name.isIdentifier typeName) :
    Text.StaysOnLine (packHead typeName).toList :=
  staysOnLine_declaration identifier (by decide) (by decide) (by decide)

theorem staysOnLine_unpackHead {typeName : String} (identifier : Name.isIdentifier typeName) :
    Text.StaysOnLine (unpackHead typeName).toList :=
  staysOnLine_declaration identifier (by decide) (by decide) (by decide)

theorem toList_lineFeed : "\n".toList = ['\n'] := rfl

variable (codec : Codec)

theorem toList_packText :
    (packText codec).toList =
      (packHead codec.typeName).toList ++ '\n' :: (allocationLine codec.size ++ '\n' ::
        ((if codec.accesses.isEmpty then []
            else "  const view = new DataView(buf.buffer);".toList ++ ['\n']) ++
          (codec.accesses.flatMap (fun access => (setText access).toList) ++
            ("  return buf;".toList ++ '\n' :: "\x7d\n\n".toList)))) := by
  have head : "): Uint8Array \x7b\n" = "): Uint8Array \x7b" ++ "\n" := by
    simp only [String.reduceAppend]
  have allocation : ");\n" = ");" ++ "\n" := by simp only [String.reduceAppend]
  have view : "  const view = new DataView(buf.buffer);\n" =
      "  const view = new DataView(buf.buffer);" ++ "\n" := by simp only [String.reduceAppend]
  have returns : "  return buf;\n\x7d\n\n" = "  return buf;" ++ "\n" ++ "\x7d\n\n" := by
    simp only [String.reduceAppend]
  unfold packText packHead allocationLine
  rw [head, allocation, view, returns]
  simp only [-String.reduceAppend, apply_ite String.toList, String.toList_empty, toList_lineFeed,
    String.toList_append, List.append_assoc, String.toList_join, List.flatMap_map,
    List.cons_append, List.nil_append]

variable {codec}

theorem toList_unpackText_of_isEmpty (empty : codec.accesses.isEmpty = true) :
    (unpackText codec).toList =
      (unpackHead codec.typeName).toList ++ '\n' ::
        ("  return \x7b\x7d;".toList ++ '\n' :: "\x7d\n\n".toList) := by
  unfold unpackText unpackHead
  simp only [empty, if_true, String.toList_append, List.append_assoc]
  rfl

theorem toList_unpackText (some : codec.accesses.isEmpty = false) :
    (unpackText codec).toList =
      (unpackHead codec.typeName).toList ++ '\n' ::
        ("  const view = new DataView(buf.buffer, buf.byteOffset, buf.byteLength);".toList ++
          '\n' :: ("  return \x7b".toList ++ '\n' ::
        (codec.accesses.flatMap (fun access => (getText access).toList) ++
          ("  \x7d;".toList ++ '\n' :: "\x7d\n\n".toList)))) := by
  have head : " \x7b\n" = " \x7b" ++ "\n" := by simp only [String.reduceAppend]
  have view : "  const view = new DataView(buf.buffer, buf.byteOffset, buf.byteLength);\n" =
      "  const view = new DataView(buf.buffer, buf.byteOffset, buf.byteLength);" ++ "\n" := by
    simp only [String.reduceAppend]
  have opens : "  return \x7b\n" = "  return \x7b" ++ "\n" := by simp only [String.reduceAppend]
  have closes : "  \x7d;\n\x7d\n\n" = "  \x7d;" ++ "\n" ++ "\x7d\n\n" := by
    simp only [String.reduceAppend]
  unfold unpackText unpackHead
  rw [head, view, opens, closes]
  simp only [-String.reduceAppend, some, Bool.false_eq_true, if_false, toList_lineFeed,
    String.toList_append, List.append_assoc, String.toList_join, List.flatMap_map,
    List.cons_append, List.nil_append]

end Glue
end ForeignBindings
