/-!
# Blank characters and lines

Trimming and line splitting for documentation texts.  Blanks are the characters with the Unicode
property `White_Space`.  A line ends at a line feed, and one carriage return directly before the
line feed belongs to the line's end; a text that ends with a line feed has no empty last line.
-/

namespace ForeignBindings
namespace Text

/-- Whether a character has the Unicode property `White_Space`. -/
def isBlank (letter : Char) : Bool :=
  let code := letter.toNat
  (0x9 ≤ code && code ≤ 0xD) || code == 0x20 || code == 0x85 || code == 0xA0 || code == 0x1680 ||
    (0x2000 ≤ code && code ≤ 0x200A) || code == 0x2028 || code == 0x2029 || code == 0x202F ||
    code == 0x205F || code == 0x3000

/-- A list of characters without the blanks at its end. -/
def trimEnd (letters : List Char) : List Char :=
  (letters.reverse.dropWhile isBlank).reverse

/-- A list of characters without the blanks at both ends. -/
def trim (letters : List Char) : List Char :=
  trimEnd (letters.dropWhile isBlank)

/-- The lines of a text, without their ends. -/
def lines : List Char → List (List Char)
  | [] => []
  | '\n' :: rest => [] :: lines rest
  | '\r' :: '\n' :: rest => [] :: lines rest
  | letter :: rest =>
      match lines rest with
      | [] => [[letter]]
      | line :: more => (letter :: line) :: more

@[simp]
theorem trimEnd_nil : trimEnd [] = [] := rfl

@[simp]
theorem lines_nil : lines [] = [] := rfl

@[simp]
theorem lines_lineFeed (rest : List Char) : lines ('\n' :: rest) = [] :: lines rest := rfl

example : isBlank '\x0c' = true ∧ isBlank '\u3000' = true ∧ isBlank '\u200b' = false := by decide

example : lines ['a', '\r', '\n', '\n', '\r', 'b', '\n'] = [['a'], [], ['\r', 'b']] := rfl

end Text
end ForeignBindings
