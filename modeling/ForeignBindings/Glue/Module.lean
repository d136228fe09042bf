import ForeignBindings.Glue.Declaration
import ForeignBindings.Glue.Expr
import ForeignBindings.Glue.HelperSet
import ForeignBindings.Library.Locator

/-!
# Emitted modules

An emitted module as data: what it imports and loads, the symbol table of the native library, the
type declarations, and one wrapper function for each native function.
-/

namespace ForeignBindings
namespace Glue

/-- A row of the symbol table. -/
structure SymbolEntry where
  /-- The name of the native function. -/
  name : String
  /-- The tokens of its parameters. -/
  parameters : List String
  /-- The token of its result. -/
  result : String
  /-- Whether a call yields a promise. -/
  nonBlocking : Bool
  deriving DecidableEq, Repr

/-- A function that encodes its arguments, makes a native call and decodes the result. -/
structure Wrapper where
  /-- Documentation. -/
  docs : Option String
  /-- The name of the function, which is also that of the native one. -/
  name : String
  /-- The parameters with their types. -/
  params : List (String × HostType)
  /-- The type of the returned value. -/
  annotation : HostType
  /-- The constants that are defined before the call. -/
  setup : List (String × Expr)
  /-- The arguments of the native call. -/
  arguments : List Expr
  /-- The name that the native result gets. -/
  rawResult : String
  /-- The value that is returned. -/
  returned : Expr
  deriving DecidableEq, Repr

/-- An emitted module. -/
structure Module where
  /-- The text of the first line. -/
  banner : String
  /-- Where the loader is imported from. -/
  loaderUrl : String
  /-- Whether types and wrappers are exported. -/
  exported : Bool
  /-- Whether the library is loaded by a function instead of at import time. -/
  lazyInit : Bool
  /-- The helpers that are defined. -/
  helpers : HelperSet
  /-- The package name of the library. -/
  package : String
  /-- Where the library is found. -/
  library : LocatedLibrary
  /-- The symbol table. -/
  symbols : List SymbolEntry
  /-- The type declarations. -/
  declarations : List Declaration
  /-- The wrapper functions. -/
  wrappers : List Wrapper
  deriving DecidableEq, Repr

end Glue
end ForeignBindings
