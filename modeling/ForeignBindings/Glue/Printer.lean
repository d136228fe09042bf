import ForeignBindings.Glue.Docs
import ForeignBindings.Glue.Module
import ForeignBindings.Name

/-!
# Printed modules

The source text of an emitted module: the banner, the import of the loader, the helpers, the
location of the library, the symbol table with the library's handle, the type declarations and the
wrappers.  The text ends with exactly one line feed.
-/

namespace ForeignBindings
namespace Glue

/-- Texts with a separator between each two. -/
def joinWith (separator : String) (texts : List String) : String :=
  separator.intercalate texts

/-- What stands before an exported declaration. -/
def exportText (exported : Bool) : String :=
  if exported then "export " else ""

/-- A member of an object after the object. -/
def memberAccess (name : String) : String :=
  if Name.isIdentifier name then "." ++ name else "[" ++ Text.quote name ++ "]"

/-- The import of the loader. -/
def importText (loaderUrl : String) : String :=
  "import \x7b CachePolicy, prepare \x7d from " ++ Text.quote loaderUrl ++ ";\n\n"

/-- The entries of one platform in the table of files. -/
def platformText (platform : String × FileNames) : String :=
  match platform.2 with
  | .single file => "    " ++ platform.1 ++ ": uri + " ++ Text.quote file ++ ",\n"
  | .perArch files =>
      "    " ++ platform.1 ++ ": \x7b\n" ++
        String.join (files.map fun file =>
          "      " ++ file.1 ++ ": uri + " ++ Text.quote file.2 ++ ",\n") ++
        "    \x7d,\n"

/-- The location of the library and the options of the loader. -/
def libraryText (package : String) (library : LocatedLibrary) : String :=
  "const url = new URL(" ++ Text.quote library.base ++ ", import.meta.url);\n" ++
  "let uri = url.toString();\n" ++
  "if (!uri.endsWith(\"/\")) uri += \"/\";\n\n" ++
  "const opts = \x7b\n" ++
  "  name: " ++ Text.quote package ++ ",\n" ++
  "  urls: \x7b\n" ++
  String.join (library.files.map platformText) ++
  "  \x7d,\n" ++
  "  policy: " ++ library.policy.spelling ++ ",\n" ++
  "\x7d;\n\n"

/-- A row of the symbol table. -/
def symbolText (entry : SymbolEntry) : String :=
  "  " ++ Name.propertyKey entry.name ++ ": \x7b parameters: [" ++
    joinWith ", " (entry.parameters.map Text.quote) ++ "], result: " ++
    Text.quote entry.result ++ ", nonblocking: " ++
    (if entry.nonBlocking then "true" else "false") ++ " \x7d,\n"

/-- The symbol table. -/
def symbolsText (symbols : List SymbolEntry) : String :=
  if symbols.isEmpty then "const symbols = \x7b\x7d as const;\n\n"
  else
    "const symbols = \x7b\n" ++ String.join (symbols.map symbolText) ++ "\x7d as const;\n\n"

/-- The handle of the library, loaded at import time or by an exported function. -/
def handleText (exported lazyInit : Bool) : String :=
  if lazyInit then
    "let _lib: Deno.DynamicLibrary<typeof symbols>;\n\n" ++
    "/** Load the native library. Call before any other export. */\n" ++
    exportText exported ++ "async function load(): Promise<void> \x7b\n" ++
    "  _lib = await prepare(opts, symbols);\n" ++
    "\x7d\n\n"
  else "const _lib = await prepare(opts, symbols);\n\n"

/-- The type of a member. -/
def memberTypeText : MemberType → String
  | .host type => type.spelling
  | .literal value => Text.quote value
  | .payload [] => "\x7b\x7d"
  | .payload members =>
      "\x7b " ++
        joinWith "; " (members.map fun member =>
          Name.propertyKey member.1 ++ ": " ++ member.2.spelling) ++
        " \x7d"

/-- A member of an interface. -/
def memberText (member : String × MemberType) : String :=
  "  " ++ Name.propertyKey member.1 ++ ": " ++ memberTypeText member.2 ++ ";\n"

/-- An interface. -/
def interfaceText (exported : Bool) (interface : Interface) : String :=
  let head := docComment interface.docs ++ exportText exported ++ "interface " ++ interface.name
  if interface.members.isEmpty then head ++ " \x7b\x7d\n\n"
  else head ++ " \x7b\n" ++ String.join (interface.members.map memberText) ++ "\x7d\n\n"

/-- The last argument of an access. -/
def endianText : Option Bool → String
  | none => ""
  | some true => ", true"
  | some false => ", false"

/-- The statement that writes a field. -/
def setText (access : Access) : String :=
  "  view.set" ++ access.method.spelling ++ "(" ++ toString access.offset ++ ", v" ++
    memberAccess access.field ++ endianText access.littleEndian ++ ");\n"

/-- The member that reads a field. -/
def getText (access : Access) : String :=
  "    " ++ Name.propertyKey access.field ++ ": view.get" ++ access.method.spelling ++ "(" ++
    toString access.offset ++ endianText access.littleEndian ++ "),\n"

/-- The function that packs values. -/
def packText (codec : Codec) : String :=
  "function __pack_" ++ codec.typeName ++ "(v: " ++ codec.typeName ++ "): Uint8Array \x7b\n" ++
  "  const buf = new Uint8Array(" ++ toString codec.size ++ ");\n" ++
  (if codec.accesses.isEmpty then "" else "  const view = new DataView(buf.buffer);\n") ++
  String.join (codec.accesses.map setText) ++
  "  return buf;\n\x7d\n\n"

/-- The function that unpacks values. -/
def unpackText (codec : Codec) : String :=
  "function __unpack_" ++ codec.typeName ++ "(buf: Uint8Array): " ++ codec.typeName ++ " \x7b\n" ++
  if codec.accesses.isEmpty then "  return \x7b\x7d;\n\x7d\n\n"
  else
    "  const view = new DataView(buf.buffer, buf.byteOffset, buf.byteLength);\n" ++
    "  return \x7b\n" ++
    String.join (codec.accesses.map getText) ++
    "  \x7d;\n\x7d\n\n"

/-- A type declaration. -/
def declarationText (exported : Bool) : Declaration → String
  | .verbatim docs text =>
      docComment docs ++ String.ofList (Text.trimEnd text.toList) ++ "\n\n"
  | .interface interface => interfaceText exported interface
  | .oneOf name docs alternatives =>
      docComment docs ++ exportText exported ++ "type " ++ name ++ " = " ++
        joinWith " | " alternatives ++ ";\n\n"
  | .codec codec => packText codec ++ unpackText codec

/-- The definition of a constant within a wrapper. -/
def constantText (constant : String × Expr) : String :=
  "const " ++ constant.1 ++ " = " ++ constant.2.spelling ++ ";"

/-- The statement that returns a value. -/
def returnText (value : Expr) : String :=
  "return " ++ value.spelling ++ ";"

/-- A wrapper function. -/
def wrapperText (exported : Bool) (wrapper : Wrapper) : String :=
  docComment wrapper.docs ++ exportText exported ++ "function " ++ wrapper.name ++ "(" ++
    joinWith ", " (wrapper.params.map fun param => param.1 ++ ": " ++ param.2.spelling) ++
    "): " ++ wrapper.annotation.spelling ++ " \x7b\n" ++
  String.join (wrapper.setup.map fun constant => "  " ++ constantText constant ++ "\n") ++
  "  const " ++ wrapper.rawResult ++ " = _lib.symbols" ++ memberAccess wrapper.name ++ "(" ++
    joinWith ", " (wrapper.arguments.map Expr.spelling) ++ ");\n" ++
  "  " ++ returnText wrapper.returned ++ "\n" ++
  "\x7d\n\n"

/-- The parts of a module's text, with the blank lines after them. -/
def Module.parts (glue : Module) : List String :=
  [glue.banner, "\n\n", importText glue.loaderUrl] ++
    glue.helpers.sources.map (· ++ "\n") ++
    [libraryText glue.package glue.library, symbolsText glue.symbols,
      handleText glue.exported glue.lazyInit] ++
    glue.declarations.map (declarationText glue.exported) ++
    glue.wrappers.map (wrapperText glue.exported)

/-- A text with one line feed in place of the blanks at its end. -/
def endWithLineFeed (text : String) : String :=
  String.ofList (Text.trimEnd text.toList ++ ['\n'])

/-- The source text of a module. -/
def Module.text (glue : Module) : String :=
  endWithLineFeed (String.join glue.parts)

end Glue
end ForeignBindings
