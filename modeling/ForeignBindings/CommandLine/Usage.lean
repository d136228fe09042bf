/-!
# Usage

What is printed when help is asked for.
-/

namespace ForeignBindings
namespace CommandLine

/-- The lines of the usage text. -/
def usageLines : List String :=
  ["TypeScript bindings for native libraries",
    "",
    "Usage: ffiglue [-v]... <COMMAND>",
    "",
    "Commands:",
    "  generate  Build the library and generate bindings/bindings.ts",
    "  emit      Render bindings from a metadata file",
    "  locate    Show per-platform library file names and cache policy",
    "",
    "ffiglue generate [--release[=URL]] [-o DIR] [--lazy-init] [--no-build]",
    "                 [--formatter deno|dprint|none] [-- <CARGO_ARGS>...]",
    "ffiglue emit <METADATA> [--release[=URL]] [-o FILE] [--lazy-init]",
    "ffiglue locate <NAME> [--release[=URL]] [--json]"]

/-- The commands with their arguments. -/
def usage : String := String.join (usageLines.map fun line => line ++ "\n")

end CommandLine
end ForeignBindings
