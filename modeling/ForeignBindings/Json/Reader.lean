import ForeignBindings.Json.Fault
import ForeignBindings.Text.Utf8

/-!
# Reading JSON

Readers take the pieces of a text and return a value with the pieces after it, or the first fault
in reading order.  Arrays and objects are read by loops over readers of their elements, so that
documents and typed records share them.  A loop gets a number of steps that no text can exhaust,
because each step takes at least one piece; nesting is limited by a number of levels.
-/

namespace ForeignBindings
namespace Json

/-- What is left of a text. -/
abbrev Input := List Text.Piece

/-- Whether a character may stand between the tokens of a document. -/
def isBlank (letter : Char) : Bool :=
  letter == ' ' || letter == '\t' || letter == '\n' || letter == '\r'

/-- The input after the blanks at its start. -/
def skipBlank : Input → Input
  | some letter :: rest => if isBlank letter then skipBlank rest else some letter :: rest
  | input => input

/-- Takes the rest of a word whose first letter has been taken. -/
def expectWord : List Char → Input → Except Fault Input
  | [], input => .ok input
  | _ :: _, [] => .error .endInValue
  | letter :: letters, piece :: rest =>
      if piece = some letter then expectWord letters rest else .error .expectedWord

/-- The value of a hexadecimal digit of either case. -/
def hexDigit? (letter : Char) : Option Nat :=
  if '0' ≤ letter ∧ letter ≤ '9' then some (letter.toNat - '0'.toNat)
  else if 'a' ≤ letter ∧ letter ≤ 'f' then some (letter.toNat - 'a'.toNat + 10)
  else if 'A' ≤ letter ∧ letter ≤ 'F' then some (letter.toNat - 'A'.toNat + 10)
  else none

/-- Whether four bytes are left. -/
def hasFourBytes (input : Input) : Bool :=
  4 ≤ (input.take 4).foldr (fun piece count => piece.byteCount + count) 0

/-- The character of an escape of two characters. -/
def shortEscape? : Char → Option Char
  | '"' => some '"'
  | '\\' => some '\\'
  | '/' => some '/'
  | 'b' => some '\x08'
  | 'f' => some '\x0c'
  | 'n' => some '\n'
  | 'r' => some '\r'
  | 't' => some '\t'
  | _ => none

/-- The character of a pair of surrogates. -/
def pairedSurrogates (high low : Nat) : Char :=
  Char.ofNat (0x10000 + (high - 0xD800) * 0x400 + (low - 0xDC00))

/-- Where a reader of a string stands. -/
inductive StringState where
  /-- Between characters. -/
  | plain
  /-- After a backslash. -/
  | escape
  /-- Within the four digits of an escape, after a high surrogate if there is one. -/
  | digits (high : Option Nat) (left value : Nat)
  /-- After a high surrogate, where a backslash has to follow. -/
  | afterHigh (high : Nat)
  /-- After a high surrogate and a backslash. -/
  | afterHighBackslash (high : Nat)
  deriving DecidableEq, Repr

/-- The state after the last digit of an escape, and the character that is complete, if one is. -/
def finishEscape (high : Option Nat) (value : Nat) : Except Fault (StringState × Option Char) :=
  match high with
  | some high =>
      if 0xDC00 ≤ value ∧ value ≤ 0xDFFF then .ok (.plain, some (pairedSurrogates high value))
      else .error .loneSurrogate
  | none =>
      if 0xDC00 ≤ value ∧ value ≤ 0xDFFF then .error .loneSurrogate
      else if 0xD800 ≤ value ∧ value ≤ 0xDBFF then .ok (.afterHigh value, none)
      else .ok (.plain, some (Char.ofNat value))

/-- Reads the characters of a string up to its closing quote.  `taken` holds the characters so far
in reverse, and `wellFormed` whether every piece so far was a character. -/
def readChars : StringState → Bool → List Char → Input → Except Fault (String × Input)
  | _, _, _, [] => .error .endInString
  | .plain, wellFormed, taken, piece :: rest =>
      match piece with
      | none => readChars .plain false taken rest
      | some '"' =>
          if wellFormed then .ok (String.ofList taken.reverse, rest) else .error .invalidCodePoint
      | some '\\' => readChars .escape wellFormed taken rest
      | some letter =>
          if letter.toNat < 0x20 then .error .controlCharacter
          else readChars .plain wellFormed (letter :: taken) rest
  | .escape, wellFormed, taken, piece :: rest =>
      if piece = some 'u' then
        if hasFourBytes rest then readChars (.digits none 4 0) wellFormed taken rest
        else .error .endInString
      else
        match piece.bind shortEscape? with
        | some letter => readChars .plain wellFormed (letter :: taken) rest
        | none => .error .invalidEscape
  | .digits high left value, wellFormed, taken, piece :: rest =>
      match piece.bind hexDigit? with
      | none => .error .invalidEscape
      | some digit =>
          if 1 < left then
            readChars (.digits high (left - 1) (value * 16 + digit)) wellFormed taken rest
          else
            match finishEscape high (value * 16 + digit) with
            | .error fault => .error fault
            | .ok (state, some letter) => readChars state wellFormed (letter :: taken) rest
            | .ok (state, none) => readChars state wellFormed taken rest
  | .afterHigh high, wellFormed, taken, piece :: rest =>
      if piece = some '\\' then readChars (.afterHighBackslash high) wellFormed taken rest
      else .error .unfinishedSurrogatePair
  | .afterHighBackslash high, wellFormed, taken, piece :: rest =>
      if piece = some 'u' then
        if hasFourBytes rest then readChars (.digits (some high) 4 0) wellFormed taken rest
        else .error .endInString
      else .error .unfinishedSurrogatePair

/-- Reads a string whose opening quote has been taken. -/
def readString (input : Input) : Except Fault (String × Input) :=
  readChars .plain true [] input

/-- The digits at the start of the input and what follows them. -/
def digitRun : Input → List Nat × Input
  | some letter :: rest =>
      if letter.isDigit then
        let (digits, after) := digitRun rest
        ((letter.toNat - '0'.toNat) :: digits, after)
      else ([], some letter :: rest)
  | input => ([], input)

/-- The number that decimal digits write. -/
def digitsValue (digits : List Nat) : Nat :=
  digits.foldl (fun value digit => value * 10 + digit) 0

/-- The digits that have to follow at a place within a number. -/
def expectDigits (input : Input) : Except Fault (List Nat × Input) :=
  match digitRun input with
  | ([], []) => .error .endInValue
  | ([], _) => .error .invalidNumber
  | (digits, rest) => .ok (digits, rest)

/-- The exponent whose mark has been taken. -/
def readExponent (input : Input) : Except Fault (Int × Input) :=
  let (negative, rest) : Bool × Input :=
    match input with
    | some '+' :: rest => (false, rest)
    | some '-' :: rest => (true, rest)
    | _ => (false, input)
  match expectDigits rest with
  | .error fault => .error fault
  | .ok (digits, after) =>
      .ok (if negative then -(digitsValue digits : Int) else digitsValue digits, after)

/-- The number nearest to a decimal, which must not be infinite. -/
def floatNumber (negative : Bool) (significand : Nat) (exponent : Int) : Except Fault Number :=
  match Number.ofBits? (Decimal.read .double negative significand exponent) with
  | some value => .ok value
  | none => .error .numberOutOfRange

/-- The number of an integer literal; one outside 64 bits, and a negative zero, is a float. -/
def integerNumber (negative : Bool) (value : Nat) : Except Fault Number :=
  if negative && value == 0 then floatNumber true 0 0
  else
    match Number.ofInt? (if negative then -(value : Int) else value) with
    | some found => .ok found
    | none => floatNumber negative value 0

/-- Reads what may follow the digits before the point of a number. -/
def readFraction (negative : Bool) (whole : List Nat) (input : Input) :
    Except Fault (Number × Input) := do
  match input with
  | some '.' :: afterPoint =>
      let (fraction, rest) ← expectDigits afterPoint
      let significand := digitsValue (whole ++ fraction)
      match rest with
      | some 'e' :: afterMark | some 'E' :: afterMark =>
          let (exponent, rest) ← readExponent afterMark
          return (← floatNumber negative significand (exponent - fraction.length), rest)
      | _ => return (← floatNumber negative significand (-(fraction.length : Int)), rest)
  | some 'e' :: afterMark | some 'E' :: afterMark =>
      let (exponent, rest) ← readExponent afterMark
      return (← floatNumber negative (digitsValue whole) exponent, rest)
  | _ => return (← integerNumber negative (digitsValue whole), input)

/-- Reads a number whose sign has been taken. -/
def readNumber (negative : Bool) (input : Input) : Except Fault (Number × Input) := do
  let (whole, rest) ← expectDigits input
  match whole with
  | 0 :: _ :: _ => throw .invalidNumber
  | _ => readFraction negative whole rest

/-- Reads the items of an array that has at least one more. -/
def readItems {α : Type} (item : Input → Except Fault (α × Input)) :
    Nat → Input → Except Fault (List α × Input)
  | 0, _ => .error .endInList
  | steps + 1, input => do
      let (value, rest) ← item input
      match skipBlank rest with
      | [] => throw .endInList
      | some ']' :: after => return ([value], after)
      | some ',' :: after =>
          match skipBlank after with
          | [] => throw .endInValue
          | some ']' :: _ => throw .trailingComma
          | next =>
              let (values, final) ← readItems item steps next
              return (value :: values, final)
      | _ => throw .expectedListEnd

/-- Reads an array whose opening bracket has been taken. -/
def readArray {α : Type} (item : Input → Except Fault (α × Input)) (steps : Nat) (input : Input) :
    Except Fault (List α × Input) :=
  match skipBlank input with
  | [] => .error .endInList
  | some ']' :: after => .ok ([], after)
  | next => readItems item steps next

/-- Reads the entries of an object from within the quotes of a key on.  The reader of an entry gets
the state so far, the key, and the input after the key. -/
def readEntries {σ : Type} (entry : σ → String → Input → Except Fault (σ × Input)) :
    Nat → σ → Input → Except Fault (σ × Input)
  | 0, _, _ => .error .endInObject
  | steps + 1, state, input => do
      let (key, rest) ← readString input
      let (state, rest) ← entry state key rest
      match skipBlank rest with
      | [] => throw .endInObject
      | some '\x7d' :: after => return (state, after)
      | some ',' :: after =>
          match skipBlank after with
          | [] => throw .endInValue
          | some '"' :: next => readEntries entry steps state next
          | some '\x7d' :: _ => throw .trailingComma
          | _ => throw .keyNotString
      | _ => throw .expectedObjectEnd

/-- Reads an object whose opening brace has been taken. -/
def readObject {σ : Type} (entry : σ → String → Input → Except Fault (σ × Input)) (steps : Nat)
    (state : σ) (input : Input) : Except Fault (σ × Input) :=
  match skipBlank input with
  | [] => .error .endInObject
  | some '\x7d' :: after => .ok (state, after)
  | some '"' :: next => readEntries entry steps state next
  | _ => .error .keyNotString

/-- Takes the colon between a key and its value. -/
def expectColon (input : Input) : Except Fault Input :=
  match skipBlank input with
  | [] => .error .endInObject
  | some ':' :: rest => .ok rest
  | _ => .error .expectedColon

/-- Reads the value of a member behind its key and puts the member before those read so far. -/
def readMember {α : Type} (value : Input → Except Fault (α × Input)) (members : List (String × α))
    (key : String) (input : Input) : Except Fault (List (String × α) × Input) := do
  let (value, rest) ← value (← expectColon input)
  return ((key, value) :: members, rest)

/-- Reads a value that is neither an array nor an object, without blanks before it. -/
def readScalar : Input → Except Fault (Json × Input)
  | [] => .error .endInValue
  | some '"' :: rest => do
      let (text, after) ← readString rest
      return (.string text, after)
  | some 'n' :: rest => do return (.null, ← expectWord ['u', 'l', 'l'] rest)
  | some 't' :: rest => do return (.bool true, ← expectWord ['r', 'u', 'e'] rest)
  | some 'f' :: rest => do return (.bool false, ← expectWord ['a', 'l', 's', 'e'] rest)
  | some '-' :: rest => do
      let (value, after) ← readNumber true rest
      return (.number value, after)
  | some letter :: rest =>
      if letter.isDigit then do
        let (value, after) ← readNumber false (some letter :: rest)
        return (.number value, after)
      else .error .expectedValue
  | none :: _ => .error .expectedValue

/-- Reads a value with at most `nesting` levels of arrays and objects. -/
def readValue (steps : Nat) : Nat → Input → Except Fault (Json × Input)
  | 0, input =>
      match skipBlank input with
      | some '[' :: _ | some '\x7b' :: _ => .error .nestingLimit
      | next => readScalar next
  | nesting + 1, input =>
      match skipBlank input with
      | some '[' :: rest => do
          let (items, after) ← readArray (readValue steps nesting) steps rest
          return (.array items, after)
      | some '\x7b' :: rest => do
          let (members, after) ← readObject (readMember (readValue steps nesting)) steps [] rest
          return (.object members.reverse, after)
      | next => readScalar next

/-- The greatest number of arrays and objects that may lie within each other. -/
def maxNesting : Nat := 127

/-- Checks that only blanks are left. -/
def expectEnd (input : Input) : Except Fault Unit :=
  if (skipBlank input).isEmpty then .ok () else .error .trailingCharacters

/-- The document that a text writes. -/
def read (input : Input) : Except Fault Json := do
  let (value, rest) ← readValue (input.length + 1) maxNesting input
  expectEnd rest
  return value

/-- Passes over the characters of a string; `left` digits of an escape are still to come, and
`escaped` holds after a backslash. -/
def skipChars : Bool → Nat → Input → Except Fault Input
  | _, _, [] => .error .endInString
  | escaped, left + 1, piece :: rest =>
      match piece.bind hexDigit? with
      | some _ => skipChars escaped left rest
      | none => .error .invalidEscape
  | true, 0, piece :: rest =>
      if piece = some 'u' then
        if hasFourBytes rest then skipChars false 4 rest else .error .endInString
      else if (piece.bind shortEscape?).isSome then skipChars false 0 rest
      else .error .invalidEscape
  | false, 0, piece :: rest =>
      match piece with
      | some '"' => .ok rest
      | some '\\' => skipChars true 0 rest
      | some letter =>
          if letter.toNat < 0x20 then .error .controlCharacter else skipChars false 0 rest
      | none => skipChars false 0 rest

/-- Passes over digits, of which there must be one. -/
def skipDigits (input : Input) : Except Fault Input :=
  match digitRun input with
  | ([], _) => .error .invalidNumber
  | (_, rest) => .ok rest

/-- Passes over an exponent, if there is one. -/
def skipExponent : Input → Except Fault Input
  | some 'e' :: rest | some 'E' :: rest =>
      match rest with
      | some '+' :: digits | some '-' :: digits => skipDigits digits
      | _ => skipDigits rest
  | input => .ok input

/-- Passes over a number whose sign has been taken. -/
def skipNumber (input : Input) : Except Fault Input :=
  match digitRun input with
  | ([], _) | (0 :: _ :: _, _) => .error .invalidNumber
  | (_, some '.' :: rest) => do skipExponent (← skipDigits rest)
  | (_, rest) => skipExponent rest

/-- Passes over a value that is neither an array nor an object. -/
def skipScalar : Input → Except Fault Input
  | [] => .error .endInValue
  | some '"' :: rest => skipChars false 0 rest
  | some 'n' :: rest => expectWord ['u', 'l', 'l'] rest
  | some 't' :: rest => expectWord ['r', 'u', 'e'] rest
  | some 'f' :: rest => expectWord ['a', 'l', 's', 'e'] rest
  | some '-' :: rest => skipNumber rest
  | some letter :: rest =>
      if letter.isDigit then skipNumber (some letter :: rest) else .error .expectedValue
  | none :: _ => .error .expectedValue

/-- Passes over the items of an array from a value on. -/
def skipItems (item : Input → Except Fault Input) : Nat → Input → Except Fault Input
  | 0, _ => .error .endInList
  | steps + 1, input => do
      match skipBlank (← item input) with
      | [] => throw .endInList
      | some ']' :: after => return after
      | some ',' :: after => skipItems item steps after
      | _ => throw .expectedListEnd

/-- Passes over the members of an object from a key on. -/
def skipMembers (value : Input → Except Fault Input) : Nat → Input → Except Fault Input
  | 0, _ => .error .endInObject
  | steps + 1, input => do
      match skipBlank input with
      | [] => throw .endInObject
      | some '"' :: key =>
          let afterKey ← skipChars false 0 key
          match skipBlank (← value (← expectColon afterKey)) with
          | [] => throw .endInObject
          | some '\x7d' :: after => return after
          | some ',' :: after => skipMembers value steps after
          | _ => throw .expectedObjectEnd
      | _ => throw .keyNotString

/-- Passes over a value of any nesting, without a check of number ranges and surrogates. -/
def skipValue (steps : Nat) : Nat → Input → Except Fault Input
  | 0, _ => .error .nestingLimit
  | nesting + 1, input =>
      match skipBlank input with
      | some '[' :: rest =>
          match skipBlank rest with
          | [] => .error .endInList
          | some ']' :: after => .ok after
          | next => skipItems (skipValue steps nesting) steps next
      | some '\x7b' :: rest =>
          match skipBlank rest with
          | some '\x7d' :: after => .ok after
          | next => skipMembers (skipValue steps nesting) steps next
      | next => skipScalar next

end Json
end ForeignBindings
