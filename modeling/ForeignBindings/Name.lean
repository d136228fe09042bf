import ForeignBindings.Text.Quoted

/-!
# Names

Which texts are identifiers of the emitted module's language, which identifiers it keeps for
itself, how a member name is written as a property key, and how a name in words is brought into
Pascal case.
-/

namespace ForeignBindings
namespace Name

/-- Whether a character may start an identifier. -/
def isIdentifierStart (letter : Char) : Bool :=
  letter.isAlpha || letter == '_' || letter == '$'

/-- Whether a character may follow in an identifier. -/
def isIdentifierPart (letter : Char) : Bool :=
  letter.isAlphanum || letter == '_' || letter == '$'

/-- Whether a name is a plain identifier of ASCII letters, digits, `_` and `$`. -/
def isIdentifier (name : String) : Bool :=
  match name.toList with
  | [] => false
  | first :: rest => isIdentifierStart first && rest.all isIdentifierPart

/-- Words that cannot name a binding in a strict-mode module. -/
def reservedWords : List String :=
  ["await", "break", "case", "catch", "class", "const", "continue", "debugger", "default",
    "delete", "do", "else", "enum", "export", "extends", "false", "finally", "for", "function",
    "if", "implements", "import", "in", "instanceof", "interface", "let", "new", "null",
    "package", "private", "protected", "public", "return", "static", "super", "switch", "this",
    "throw", "true", "try", "typeof", "var", "void", "while", "with", "yield"]

/-- Predefined type names that an interface or a type alias cannot take. -/
def builtinTypeNames : List String :=
  ["any", "bigint", "boolean", "never", "number", "object", "string", "symbol", "undefined",
    "unknown"]

/-- Whether a name is a reserved word. -/
def isReservedWord (name : String) : Bool :=
  reservedWords.contains name

/-- Whether a name is a predefined type name. -/
def isBuiltinTypeName (name : String) : Bool :=
  builtinTypeNames.contains name

/-- A member name as the key of an object type or literal, quoted unless it is an identifier. -/
def propertyKey (name : String) : String :=
  if isIdentifier name then name else Text.quote name

/-- Whether a character separates the words of a name. -/
def isSeparator (letter : Char) : Bool :=
  letter == '_' || letter == '-' || letter == '.'

/-- The characters of a name without its separators, with every character that directly follows
one, and the first if `pending` holds, in upper case. -/
def joinWords : Bool → List Char → List Char
  | _, [] => []
  | pending, letter :: rest =>
      if isSeparator letter then joinWords true rest
      else (if pending then letter.toUpper else letter) :: joinWords false rest

/-- Whether a name already is in Pascal case: an upper-case letter first and no separator. -/
def isPascalCase (letters : List Char) : Bool :=
  match letters with
  | [] => false
  | first :: _ => first.isUpper && !letters.any isSeparator

/-- A name in Pascal case. -/
def pascalCase (name : String) : String :=
  if isPascalCase name.toList then name else String.ofList (joinWords true name.toList)

/-- The name of the interface that describes one variant of a tagged union. -/
def variantTypeName (union variant : String) : String :=
  union ++ pascalCase variant

@[simp]
theorem joinWords_nil (pending : Bool) : joinWords pending [] = [] := rfl

end Name
end ForeignBindings
