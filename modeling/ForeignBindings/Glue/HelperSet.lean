/-!
# Helper functions

The helper functions that wrappers may call: two for text and one that reads a framed result
behind a pointer.  A module holds only the helpers that its wrappers use.
-/

namespace ForeignBindings
namespace Glue

/-- Which helper functions are used. -/
structure HelperSet where
  /-- Text to bytes. -/
  encode : Bool
  /-- Bytes to text. -/
  decode : Bool
  /-- The framed bytes behind a pointer. -/
  readPointer : Bool
  deriving DecidableEq, Repr

namespace HelperSet

/-- No helper. -/
def none : HelperSet := ⟨false, false, false⟩

instance : Inhabited HelperSet := ⟨none⟩

/-- The helpers that one of two users needs. -/
def union (left right : HelperSet) : HelperSet :=
  ⟨left.encode || right.encode, left.decode || right.decode,
    left.readPointer || right.readPointer⟩

/-- The helpers that some of many users need. -/
def unions (users : List HelperSet) : HelperSet :=
  users.foldr union none

/-- The names of the helpers in the order of their definitions. -/
def names (helpers : HelperSet) : List String :=
  (if helpers.encode then ["encode"] else []) ++ (if helpers.decode then ["decode"] else []) ++
    (if helpers.readPointer then ["readPointer"] else [])

/-- The definition of the helper that encodes text. -/
def encodeSource : String :=
  "const encoder = new TextEncoder();\n\n" ++
  "function encode(v: string): Uint8Array \x7b\n" ++
  "  return encoder.encode(v);\n" ++
  "\x7d\n"

/-- The definition of the helper that decodes text. -/
def decodeSource : String :=
  "const decoder = new TextDecoder();\n\n" ++
  "function decode(v: Uint8Array): string \x7b\n" ++
  "  return decoder.decode(v);\n" ++
  "\x7d\n"

/-- The definition of the helper that reads framed bytes. -/
def readPointerSource : String :=
  "function readPointer(v: Deno.PointerValue): Uint8Array \x7b\n" ++
  "  const ptr = new Deno.UnsafePointerView(v as Deno.PointerObject);\n" ++
  "  const lengthBe = new Uint8Array(4);\n" ++
  "  const view = new DataView(lengthBe.buffer);\n" ++
  "  ptr.copyInto(lengthBe, 0);\n" ++
  "  const buf = new Uint8Array(view.getUint32(0));\n" ++
  "  ptr.copyInto(buf, 4);\n" ++
  "  return buf;\n" ++
  "\x7d\n"

/-- The definitions of the helpers that are used. -/
def sources (helpers : HelperSet) : List String :=
  (if helpers.encode then [encodeSource] else []) ++
    (if helpers.decode then [decodeSource] else []) ++
    (if helpers.readPointer then [readPointerSource] else [])

end HelperSet
end Glue
end ForeignBindings
