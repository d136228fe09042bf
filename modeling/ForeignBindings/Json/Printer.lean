import ForeignBindings.Json.Value

/-!
# Printed JSON

The compact form of a document, without any blank, and the indented form, with one member or item
on a line.  In strings only the quote, the backslash and the controls are escaped.
-/

namespace ForeignBindings
namespace Json

/-- The characters that stand for one character of a string. -/
def escape (letter : Char) : List Char :=
  match letter with
  | '"' => ['\\', '"']
  | '\\' => ['\\', '\\']
  | '\x08' => ['\\', 'b']
  | '\x0c' => ['\\', 'f']
  | '\n' => ['\\', 'n']
  | '\r' => ['\\', 'r']
  | '\t' => ['\\', 't']
  | _ =>
      if letter.toNat < 0x20 then
        ['\\', 'u', '0', '0', Nat.digitChar (letter.toNat / 16), Nat.digitChar (letter.toNat % 16)]
      else [letter]

/-- The characters of a string with its quotes. -/
def stringChars (text : String) : List Char :=
  '"' :: text.toList.flatMap escape ++ ['"']

mutual

/-- The characters of a document in compact form. -/
def chars : Json → List Char
  | .null => ['n', 'u', 'l', 'l']
  | .bool true => ['t', 'r', 'u', 'e']
  | .bool false => ['f', 'a', 'l', 's', 'e']
  | .number value => value.chars
  | .string value => stringChars value
  | .array [] => ['[', ']']
  | .array (item :: rest) => '[' :: (chars item ++ moreItemChars rest)
  | .object [] => ['\x7b', '\x7d']
  | .object ((name, value) :: rest) =>
      '\x7b' :: (stringChars name ++ ':' :: (chars value ++ moreMemberChars rest))

/-- The characters of the items after the first, and of the end of the array. -/
def moreItemChars : List Json → List Char
  | [] => [']']
  | item :: rest => ',' :: (chars item ++ moreItemChars rest)

/-- The characters of the members after the first, and of the end of the object. -/
def moreMemberChars : List (String × Json) → List Char
  | [] => ['\x7d']
  | (name, value) :: rest =>
      ',' :: (stringChars name ++ ':' :: (chars value ++ moreMemberChars rest))

end

/-- A document in compact form. -/
def compact (json : Json) : String :=
  String.ofList (chars json)

/-- The line end and the indentation of a level. -/
def indentation (level : Nat) : List Char :=
  '\n' :: List.replicate (2 * level) ' '

mutual

/-- The characters of a document in indented form; `level` is the level of its last line. -/
def prettyChars (level : Nat) : Json → List Char
  | .null => chars .null
  | .bool value => chars (.bool value)
  | .number value => value.chars
  | .string value => stringChars value
  | .array [] => ['[', ']']
  | .array (item :: rest) =>
      '[' :: (indentation (level + 1) ++ prettyChars (level + 1) item ++
        prettyItemChars level rest)
  | .object [] => ['\x7b', '\x7d']
  | .object ((name, value) :: rest) =>
      '\x7b' :: (indentation (level + 1) ++ stringChars name ++ ':' :: ' ' ::
        (prettyChars (level + 1) value ++ prettyMemberChars level rest))

/-- The characters of the items after the first, and of the end of the array. -/
def prettyItemChars (level : Nat) : List Json → List Char
  | [] => indentation level ++ [']']
  | item :: rest =>
      ',' :: (indentation (level + 1) ++ prettyChars (level + 1) item ++
        prettyItemChars level rest)

/-- The characters of the members after the first, and of the end of the object. -/
def prettyMemberChars (level : Nat) : List (String × Json) → List Char
  | [] => indentation level ++ ['\x7d']
  | (name, value) :: rest =>
      ',' :: (indentation (level + 1) ++ stringChars name ++ ':' :: ' ' ::
        (prettyChars (level + 1) value ++ prettyMemberChars level rest))

end

/-- A document in indented form. -/
def pretty (json : Json) : String :=
  String.ofList (prettyChars 0 json)

end Json
end ForeignBindings
