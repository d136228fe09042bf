import ForeignBindings.Text.Printable

/-!
# Quoted literals

A text between double quotes on one line.  The quote, the backslash and the common controls have
escapes of two characters; any other character that is not printable is written by its code point
in hexadecimal digits between braces.  An apostrophe stands for itself.
-/

namespace ForeignBindings
namespace Text
namespace Quoted

/-- The escape of a character by its code point. -/
def codePointEscape (letter : Char) : List Char :=
  ['\\', 'u', '\x7b'] ++ Nat.toDigits 16 letter.toNat ++ ['\x7d']

/-- The characters that stand for one character inside the quotes. -/
def escape (letter : Char) : List Char :=
  match letter with
  | '\x00' => ['\\', '0']
  | '\t' => ['\\', 't']
  | '\n' => ['\\', 'n']
  | '\r' => ['\\', 'r']
  | '"' => ['\\', '"']
  | '\\' => ['\\', '\\']
  | _ => if isPrintable letter then [letter] else codePointEscape letter

/-- The characters of a quoted literal, with its quotes. -/
def encode (letters : List Char) : List Char :=
  '"' :: letters.flatMap escape ++ ['"']

end Quoted

/-- The quoted literal of a text. -/
def quote (text : String) : String :=
  String.ofList (Quoted.encode text.toList)

end Text
end ForeignBindings
