import ForeignBindings.Text.Blank

/-!
# Documentation comments

A documentation text as a block comment with one line of the comment for each of its lines.  Blanks
around the text and at the ends of lines are dropped, and a blank text makes no comment.
-/

namespace ForeignBindings
namespace Glue

/-- A line of a documentation comment. -/
def docLine (line : List Char) : List Char :=
  let content := Text.trimEnd line
  if content.isEmpty then [' ', '*', '\n'] else ' ' :: '*' :: ' ' :: content ++ ['\n']

/-- The comment of a documentation text. -/
def docChars (docs : List Char) : List Char :=
  let content := Text.trim docs
  if content.isEmpty then []
  else
    ['/', '*', '*', '\n'] ++ (Text.lines content).flatMap docLine ++ [' ', '*', '/', '\n']

/-- The comment of an optional documentation text. -/
def docComment (docs : Option String) : String :=
  match docs with
  | some text => String.ofList (docChars text.toList)
  | none => ""

example : docChars ['a', ' ', '\n', '\n', 'b', ' '] =
    ['/', '*', '*', '\n', ' ', '*', ' ', 'a', '\n', ' ', '*', '\n', ' ', '*', ' ', 'b', '\n',
      ' ', '*', '/', '\n'] := by decide

end Glue
end ForeignBindings
