import ForeignBindings.Glue.CommandFormatter

/-!
# Grammars of commands

The arguments that a command accepts: how each is spelled, whether it takes a value, and which
values are allowed.
-/

namespace ForeignBindings
namespace CommandLine

/-- What an argument says. -/
inductive Setting where
  | help
  | verbose
  | release
  | outDirectory
  | outFile
  | lazyInit
  | noBuild
  | formatter
  | json
  | metadata
  | package
  deriving DecidableEq, Repr

/-- How the value of a setting is given. -/
inductive ValueRule where
  /-- There is none. -/
  | absent
  /-- It may follow an equals sign; without one the value is empty. -/
  | attached
  /-- It follows in the same word or is the next word. -/
  | required
  deriving DecidableEq, Repr

namespace Setting

/-- How the value of a setting is given. -/
def valueRule : Setting → ValueRule
  | .help | .verbose | .lazyInit | .noBuild | .json => .absent
  | .release => .attached
  | .outDirectory | .outFile | .formatter | .metadata | .package => .required

/-- Whether a setting may have a value.  Paths are never empty, and formatters are known by name. -/
def accepts (setting : Setting) (value : String) : Bool :=
  match setting with
  | .outDirectory | .outFile | .metadata => !value.isEmpty
  | .formatter => (FormatterChoice.ofName? value).isSome
  | _ => true

end Setting

/-- What a command accepts. -/
structure Grammar where
  /-- The words that follow two dashes. -/
  long : List (String × Setting)
  /-- The letters that follow one dash. -/
  short : List (Char × Setting)
  /-- What the word without a dash says; it is required. -/
  positional : Option Setting
  /-- Whether all words after two lone dashes are passed on. -/
  passesOn : Bool
  deriving DecidableEq, Repr

namespace Grammar

/-- What is accepted in front of a command. -/
def common : Grammar :=
  { long := [("help", .help), ("verbose", .verbose)]
    short := [('h', .help), ('v', .verbose)]
    positional := none
    passesOn := false }

/-- The arguments of the generate command. -/
def generate : Grammar :=
  { long := common.long ++
      [("release", .release), ("out-dir", .outDirectory), ("lazy-init", .lazyInit),
        ("no-build", .noBuild), ("formatter", .formatter)]
    short := common.short ++ [('o', .outDirectory)]
    positional := none
    passesOn := true }

/-- The arguments of the emit command. -/
def emit : Grammar :=
  { long := common.long ++
      [("release", .release), ("output", .outFile), ("lazy-init", .lazyInit)]
    short := common.short ++ [('o', .outFile)]
    positional := some .metadata
    passesOn := false }

/-- The arguments of the locate command. -/
def locate : Grammar :=
  { long := common.long ++ [("release", .release), ("json", .json)]
    short := common.short
    positional := some .package
    passesOn := false }

end Grammar
end CommandLine
end ForeignBindings
