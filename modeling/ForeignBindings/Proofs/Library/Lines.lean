import ForeignBindings.Glue.Printer
import Mathlib.Data.List.Basic

/-!
# Lines of the source text of a library

The location of a library and the options of the loader, line by line: what stands in front of the
files, the lines of each platform, and what stands behind them.
-/

namespace ForeignBindings

open Glue

/-- The letters of an address. -/
def addressLetters (name : String) : List Char :=
  ": uri + ".toList ++ ((Text.quote name).toList ++ [','])

/-- The lines of a platform. -/
def platformLines (platform : String × FileNames) : List (List Char) :=
  match platform.2 with
  | .single file => ["    ".toList ++ (platform.1.toList ++ addressLetters file)]
  | .perArch files =>
      ("    ".toList ++ (platform.1.toList ++ ": \x7b".toList)) ::
        (files.map fun file => "      ".toList ++ (file.1.toList ++ addressLetters file.2)) ++
        ["    \x7d,".toList]

theorem toList_platformText (platform : String × FileNames) :
    (platformText platform).toList = (platformLines platform).flatMap (· ++ ['\n']) := by
  have entry (indent key name : String) :
      (indent ++ key ++ ": uri + " ++ Text.quote name ++ ",\n").toList =
        indent.toList ++ (key.toList ++ addressLetters name) ++ ['\n'] := by
    have last : ",\n".toList = [',', '\n'] := by decide
    unfold addressLetters
    simp only [String.toList_append, List.append_assoc, last, List.cons_append, List.nil_append]
  obtain ⟨os, names⟩ := platform
  cases names with
  | single file => exact (entry "    " os file).trans (List.append_nil _).symm
  | perArch files =>
      have opening : ("    " ++ os ++ ": \x7b\n").toList =
          "    ".toList ++ (os.toList ++ ": \x7b".toList) ++ ['\n'] := by
        have last : ": \x7b\n".toList = ": \x7b".toList ++ ['\n'] := by decide
        simp only [String.toList_append, last, List.append_assoc]
      have closing : "    \x7d,\n".toList = "    \x7d,".toList ++ ['\n'] := by decide
      unfold platformText platformLines
      dsimp only
      rw [String.toList_append, String.toList_append, opening, closing, String.toList_join]
      simp only [List.flatMap_map, entry, List.flatMap_cons, List.flatMap_append, List.flatMap_nil,
        List.append_nil, List.cons_append, List.append_assoc]

/-- The lines in front of the files. -/
def openingLines (package base : String) : List (List Char) :=
  ["const url = new URL(".toList ++ ((Text.quote base).toList ++ ", import.meta.url);".toList),
    "let uri = url.toString();".toList,
    "if (!uri.endsWith(\"/\")) uri += \"/\";".toList,
    [],
    "const opts = \x7b".toList,
    "  name: ".toList ++ ((Text.quote package).toList ++ [','])]

/-- The lines of the source text of a library. -/
def libraryLines (package : String) (library : LocatedLibrary) : List (List Char) :=
  openingLines package library.base ++
    "  urls: \x7b".toList :: (library.files.flatMap platformLines ++
      ["  \x7d,".toList, "  policy: ".toList ++ (library.policy.spelling.toList ++ [',']),
        "\x7d;".toList, []])

theorem toList_libraryText (package : String) (library : LocatedLibrary) :
    (libraryText package library).toList =
      (libraryLines package library).flatMap (· ++ ['\n']) := by
  unfold libraryText libraryLines openingLines
  simp only [-String.reduceAppend, String.toList_append, List.append_assoc, List.flatMap_cons,
    List.flatMap_append, List.flatMap_nil, List.flatMap_assoc, String.toList_join, List.flatMap_map,
    toList_platformText, List.append_nil, List.cons_append, List.nil_append, String.reduceToList]

end ForeignBindings
