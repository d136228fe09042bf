import ForeignBindings.Glue.Printer
import ForeignBindings.Proofs.Glue.HelperText
import ForeignBindings.Proofs.Library.Listing
import ForeignBindings.Proofs.Text.ObjectLiteral

/-!
# Reading the source text of a library

The options of the loader are an object initializer, the table of files in it is another one, and the
files for the architectures of a platform are a third.  All of them are read by the rules for object
initializers.  The keys of platforms and architectures stand there as they are: those that name
identifiers are read, and each but `__proto__` makes a member.
-/

namespace ForeignBindings

open Glue Text ObjectLiteral

/-- What the source text of a library tells, in code units. -/
structure SourceListing where
  /-- The path or URL that file names are resolved against. -/
  base : List Nat
  /-- The spelling of the cache policy. -/
  policy : String
  /-- The files, each with its platform and perhaps the architecture that it is for. -/
  files : List (List Nat × Option (List Nat) × List Nat)
  deriving DecidableEq, Repr

/-- A file in code units. -/
def ListedFile.inUnits (file : ListedFile) : List Nat × Option (List Nat) × List Nat :=
  (nameUnits file.os, file.arch.map nameUnits, nameUnits file.name)

/-- A listing in code units. -/
def Listing.inUnits (listing : Listing) : SourceListing :=
  ⟨nameUnits listing.base, listing.policy, listing.files.map ListedFile.inUnits⟩

theorem ListedFile.inUnits_injective : Function.Injective ListedFile.inUnits := by
  rintro ⟨os, arch, name⟩ ⟨other_os, other_arch, other_name⟩ same
  simp only [ListedFile.inUnits, Prod.mk.injEq] at same
  obtain ⟨os_same, arch_same, name_same⟩ := same
  rw [nameUnits_injective os_same, Option.map_injective nameUnits_injective arch_same,
    nameUnits_injective name_same]

/-- The literal behind `uri +`, and what follows. -/
def address? (text : List Char) : Option (List Nat × List Char) := do
  let rest ← behind? "uri" (text.dropWhile isSpace)
  match rest.dropWhile isSpace with
  | '+' :: rest =>
      let (units, rest) ← StringLiteral.read? (rest.dropWhile isSpace)
      return (units, rest.dropWhile isSpace)
  | _ => none

/-- The value of a platform in the table of files. -/
inductive FileValue where
  /-- The address of one file. -/
  | single (name : List Nat)
  /-- An object with a file for each architecture. -/
  | perArch (names : List (List Nat × List Nat))
  deriving DecidableEq, Repr

/-- The files of a platform. -/
def FileValue.listed (os : List Nat) : FileValue → List (List Nat × Option (List Nat) × List Nat)
  | .single name => [(os, none, name)]
  | .perArch names => names.map fun file => (os, some file.1, file.2)

/-- The address or the object with addresses that a text starts with, and what follows. -/
def fileValue? (wide : WideLetters) (text : List Char) : Option (FileValue × List Char) :=
  match text.dropWhile isSpace with
  | '\x7b' :: rest => do
      let (names, rest) ← object? wide address? ('\x7b' :: rest)
      return (.perArch names, rest.dropWhile isSpace)
  | text => (address? text).map fun read => (.single read.1, read.2)

/-- The value of an option of the loader. -/
inductive OptionValue where
  /-- A table of files. -/
  | files (platforms : List (List Nat × FileValue))
  /-- A value that is not looked into. -/
  | text (letters : List Char)
  deriving DecidableEq, Repr

/-- The files of a table. -/
def OptionValue.files? : OptionValue → Option (List (List Nat × Option (List Nat) × List Nat))
  | .files platforms => some (platforms.flatMap fun platform => platform.2.listed platform.1)
  | .text _ => none

/-- The text of a value without the space in front of it. -/
def OptionValue.text? : OptionValue → Option String
  | .files _ => none
  | .text letters => some (String.ofList (letters.dropWhile isSpace))

/-- The table of files or the other value that a text starts with, and what follows. -/
def optionValue? (wide : WideLetters) (text : List Char) : Option (OptionValue × List Char) :=
  match text.dropWhile isSpace with
  | '\x7b' :: rest => do
      let (platforms, rest) ← object? wide (fileValue? wide) ('\x7b' :: rest)
      return (.files platforms, rest.dropWhile isSpace)
  | _ => (behindValue? [] text).map fun rest =>
      (.text (text.take (text.length - rest.length)), rest)

/-- What stands between the base and the options of the loader. -/
def optionsStart : String :=
  ", import.meta.url);\nlet uri = url.toString();\n" ++
    "if (!uri.endsWith(\"/\")) uri += \"/\";\n\nconst opts = "

/-- What the source text of a library tells. -/
def SourceListing.ofText? (wide : WideLetters) (text : String) : Option SourceListing := do
  let (base, rest) ← StringLiteral.read? (← behind? "const url = new URL(" text.toList)
  let (options, _) ← object? wide (optionValue? wide) (← behind? optionsStart rest)
  let files ← (options.lookup (nameUnits "urls")).bind OptionValue.files?
  let policy ← (options.lookup (nameUnits "policy")).bind OptionValue.text?
  return ⟨base, policy, files⟩

variable {wide : WideLetters}

theorem read?_quote {name : String} (apart : ¬ StringLiteral.HasNullBeforeDigit name.toList)
    (rest : List Char) :
    StringLiteral.read? ((quote name).toList ++ rest) = some (nameUnits name, rest) := by
  rw [toList_quote_append, StringLiteral.read?,
    StringLiteral.body?_of_not_hasNullBeforeDigit apart, nameUnits]

/-- The letters of an address. -/
def addressValue (name : String) : List Char :=
  " uri + ".toList ++ (quote name).toList

theorem addressValue_append (name : String) (rest : List Char) :
    addressValue name ++ rest =
      ' ' :: 'u' :: 'r' :: 'i' :: ' ' :: '+' :: ' ' :: ((quote name).toList ++ rest) := by
  have start : " uri + ".toList = [' ', 'u', 'r', 'i', ' ', '+', ' '] := by decide
  unfold addressValue
  simp only [start, List.cons_append, List.nil_append]

theorem dropWhile_quote (name : String) (rest : List Char) :
    (' ' :: ((quote name).toList ++ rest)).dropWhile isSpace = (quote name).toList ++ rest := by
  rw [toList_quote_append]
  rfl

theorem address?_addressValue {name : String}
    (apart : ¬ StringLiteral.HasNullBeforeDigit name.toList) (rest : List Char) :
    address? (addressValue name ++ ',' :: rest) = (some (nameUnits name)).map (·, ',' :: rest) := by
  have uri : "uri".toList = ['u', 'r', 'i'] := by decide
  have start (text : List Char) : (' ' :: 'u' :: 'r' :: 'i' :: text).dropWhile isSpace =
      "uri".toList ++ text := by
    rw [uri]
    rfl
  have plus (text : List Char) : (' ' :: '+' :: text).dropWhile isSpace = '+' :: text := rfl
  have comma : (',' :: rest).dropWhile isSpace = ',' :: rest := rfl
  rw [addressValue_append, address?, start, behind?_append]
  simp only [Option.bind_eq_bind, Option.bind_some, plus, dropWhile_quote, read?_quote apart, comma]
  rfl

/-- The definition of a file behind a key. -/
def fileEntry (key name : String) : List Char :=
  key.toList ++ ':' :: addressValue name

theorem isEntry_fileEntry {key name : String} (identifier : IsIdentifierName wide key)
    (apart : ¬ StringLiteral.HasNullBeforeDigit name.toList) :
    IsEntry wide address? (fileEntry key name) (some (nameUnits key, nameUnits name)) :=
  isEntry_of_isIdentifierName identifier (address?_addressValue apart)

/-- Whether the keys of a platform name identifiers and its files are written as literals that are
well-formed. -/
def FileNames.IsReadable (wide : WideLetters) : FileNames → Prop
  | .single name => ¬ StringLiteral.HasNullBeforeDigit name.toList
  | .perArch files => ∀ file ∈ files,
      IsIdentifierName wide file.1 ∧ ¬ StringLiteral.HasNullBeforeDigit file.2.toList

/-- What is left of the files of a platform in the object that lists them. -/
def FileNames.value : FileNames → FileValue
  | .single name => .single (nameUnits name)
  | .perArch files => .perArch ((files.filter fun file => file.1 ≠ "__proto__").map fun file =>
      (nameUnits file.1, nameUnits file.2))

theorem isSpace_of_blank (count : Nat) : ∀ letter ∈ List.replicate count ' ', isSpace letter = true :=
  fun _ inside => (List.eq_of_mem_replicate inside) ▸ rfl

/-- Named definitions create a member each, but for the one that sets the prototype. -/
theorem created?_named {α β : Type} {items : List (String × α)} (value : α → β)
    (distinct : (items.map Prod.fst).Nodup) :
    created? (items.map fun item => (nameUnits item.1, value item.2)) =
      some ((items.filter fun item => item.1 ≠ "__proto__").map fun item =>
        (nameUnits item.1, value item.2)) := by
  have keys : ((items.map fun item => (nameUnits item.1, value item.2)).map Prod.fst) =
      (items.map Prod.fst).map nameUnits := by
    rw [List.map_map, List.map_map]
    rfl
  have once : ((items.map fun item => (nameUnits item.1, value item.2)).map Prod.fst).Nodup := by
    rw [keys]
    exact distinct.map nameUnits_injective
  rw [created?_of_nodup once, List.filter_map]
  have same : items.filter ((fun entry : List Nat × β => decide (entry.1 ≠ protoKey)) ∘
      fun item => (nameUnits item.1, value item.2)) =
        items.filter fun item => item.1 ≠ "__proto__" :=
    List.filter_congr fun item _ => decide_eq_decide.mpr nameUnits_injective.ne_iff
  rw [same]

/-- The definitions on the lines of an initializer, each with its name and its value, make an object
of those that do not set the prototype. -/
theorem object?_entryLines {α β : Type} {value? : List Char → Option (β × List Char)}
    {items : List (String × α)} {print : String × α → List Char} (value : α → β)
    (distinct : (items.map Prod.fst).Nodup)
    (each : ∀ item ∈ items,
      IsEntry wide value? (print item) (some (nameUnits item.1, value item.2)))
    (indent closing : Nat) (rest : List Char) :
    object? wide value? ('\x7b' :: '\n' :: (items.flatMap
      (fun item => entryLine (List.replicate indent ' ') (print item)) ++
        (List.replicate closing ' ' ++ '\x7d' :: rest))) =
      some ((items.filter fun item => item.1 ≠ "__proto__").map fun item =>
        (nameUnits item.1, value item.2), rest) := by
  have all : (items.mapM fun item => some (nameUnits item.1, value item.2)) =
      some (items.map fun item => (nameUnits item.1, value item.2)) := List.mapM_pure
  rw [object?, entries?_entryLines each (isSpace_of_blank indent) (isSpace_of_blank closing), all]
  simp only [Option.map_some, Option.bind_eq_bind, Option.bind_some, created?_named value distinct]
  rfl

/-- The letters of the value of a platform. -/
def FileNames.letters : FileNames → List Char
  | .single name => addressValue name
  | .perArch files => ' ' :: '\x7b' :: '\n' :: (files.flatMap
      (fun file => entryLine (List.replicate 6 ' ') (fileEntry file.1 file.2)) ++
        (List.replicate 4 ' ' ++ ['\x7d']))

theorem fileValue?_letters {names : FileNames} (readable : names.IsReadable wide)
    (distinct : names.Distinct) (rest : List Char) :
    fileValue? wide (names.letters ++ ',' :: rest) = (some names.value).map (·, ',' :: rest) := by
  cases names with
  | single name =>
      have single (text : List Char) : fileValue? wide (' ' :: 'u' :: text) =
          (address? (' ' :: 'u' :: text)).map fun read => (.single read.1, read.2) := rfl
      rw [FileNames.letters, addressValue_append, single, ← addressValue_append,
        address?_addressValue readable]
      rfl
  | perArch files =>
      have printed : (FileNames.perArch files).letters ++ ',' :: rest =
          ' ' :: '\x7b' :: '\n' :: (files.flatMap
            (fun file => entryLine (List.replicate 6 ' ') (fileEntry file.1 file.2)) ++
              (List.replicate 4 ' ' ++ '\x7d' :: ',' :: rest)) := by
        simp only [FileNames.letters, List.cons_append, List.append_assoc, List.nil_append]
      have opens (text : List Char) : (' ' :: '\x7b' :: text).dropWhile isSpace = '\x7b' :: text :=
        rfl
      have comma : (',' :: rest).dropWhile isSpace = ',' :: rest := rfl
      have object := object?_entryLines nameUnits distinct
        (fun file inside => isEntry_fileEntry (readable file inside).1 (readable file inside).2) 6 4
        (',' :: rest)
      rw [printed, fileValue?, opens]
      simp only [object, Option.bind_eq_bind, Option.bind_some, comma]
      rfl

/-- The definition of a platform. -/
def platformEntry (platform : String × FileNames) : List Char :=
  platform.1.toList ++ ':' :: platform.2.letters

theorem toList_platformText_eq_entryLine (platform : String × FileNames) :
    (platformText platform).toList = entryLine (List.replicate 4 ' ') (platformEntry platform) := by
  obtain ⟨os, names⟩ := platform
  cases names with
  | single file =>
      unfold platformText entryLine platformEntry FileNames.letters addressValue
      simp only [-String.reduceAppend, String.toList_append, List.append_assoc, List.cons_append]
      rfl
  | perArch files =>
      unfold platformText entryLine platformEntry FileNames.letters fileEntry addressValue entryLine
      simp only [-String.reduceAppend, String.toList_append, String.toList_join, List.flatMap_map,
        List.append_assoc, List.cons_append]
      rfl

/-- Whether the keys of a library name identifiers, no two of the same kind are alike, and everything
that is quoted is written as a literal that is well-formed. -/
structure LocatedLibrary.IsReadable (wide : WideLetters) (package : String)
    (library : LocatedLibrary) : Prop where
  /-- The package is quoted. -/
  package : ¬ StringLiteral.HasNullBeforeDigit package.toList
  /-- So is the base. -/
  base : ¬ StringLiteral.HasNullBeforeDigit library.base.toList
  /-- The keys of platforms name identifiers. -/
  keys : ∀ platform ∈ library.files, IsIdentifierName wide platform.1
  /-- So do those of architectures, and the files are quoted. -/
  files : ∀ platform ∈ library.files, platform.2.IsReadable wide
  /-- No two platforms share a key. -/
  distinct : (library.files.map Prod.fst).Nodup
  /-- No two architectures of a platform do. -/
  distinct_arches : ∀ platform ∈ library.files, platform.2.Distinct

/-- Whether the keys of a listing name identifiers, and everything that is quoted in the source text is
written as a literal that is well-formed. -/
structure Listing.IsReadable (wide : WideLetters) (package : String) (listing : Listing) : Prop where
  /-- The package is quoted. -/
  package : ¬ StringLiteral.HasNullBeforeDigit package.toList
  /-- So is the base. -/
  base : ¬ StringLiteral.HasNullBeforeDigit listing.base.toList
  /-- So are the names of files. -/
  names : ∀ file ∈ listing.files, ¬ StringLiteral.HasNullBeforeDigit file.name.toList
  /-- Platforms name identifiers. -/
  keys : ∀ file ∈ listing.files, IsIdentifierName wide file.os
  /-- So do architectures. -/
  arches : ∀ file ∈ listing.files, ∀ arch ∈ file.arch, IsIdentifierName wide arch

/-- What is left of the files of a library in the objects that list them. -/
def LocatedLibrary.kept (library : LocatedLibrary) : List ListedFile :=
  library.listing.files.filter fun file => file.os ≠ "__proto__" ∧ file.arch ≠ some "__proto__"

theorem kept_eq_flatMap (library : LocatedLibrary) :
    library.kept.map ListedFile.inUnits =
      (library.files.filter fun platform => platform.1 ≠ "__proto__").flatMap fun platform =>
        platform.2.value.listed (nameUnits platform.1) := by
  have platform (entry : String × FileNames) (other : entry.1 ≠ "__proto__") :
      ((entry.2.listed entry.1).filter fun file =>
        file.os ≠ "__proto__" ∧ file.arch ≠ some "__proto__").map ListedFile.inUnits =
          entry.2.value.listed (nameUnits entry.1) := by
    obtain ⟨os, names⟩ := entry
    cases names with
    | single name => simp [FileNames.listed, other, ListedFile.inUnits, FileNames.value, FileValue.listed]
    | perArch files =>
        simp [FileNames.listed, other, ListedFile.inUnits, FileNames.value, FileValue.listed,
          List.filter_map, Function.comp_def]
  have nothing (entry : String × FileNames) (proto : entry.1 = "__proto__") :
      (entry.2.listed entry.1).filter (fun file =>
        file.os ≠ "__proto__" ∧ file.arch ≠ some "__proto__") = [] := by
    obtain ⟨os, names⟩ := entry
    obtain rfl : os = "__proto__" := proto
    cases names with
    | single name => simp [FileNames.listed]
    | perArch files => simp [FileNames.listed, List.filter_map, Function.comp_def]
  rw [LocatedLibrary.kept, LocatedLibrary.listing, List.filter_flatMap, List.map_flatMap]
  induction library.files with
  | nil => rfl
  | cons entry entries induction =>
      by_cases proto : entry.1 = "__proto__"
      · rw [List.flatMap_cons, nothing entry proto, List.map_nil, List.nil_append, induction,
          List.filter_cons_of_neg (by simpa using proto)]
      · rw [List.flatMap_cons, platform entry proto, induction,
          List.filter_cons_of_pos (by simpa using proto), List.flatMap_cons]

/-- A value that is no table is taken up to the comma behind it. -/
theorem optionValue?_text {first : Char} {value : List Char} (visible : isSpace first = false)
    (opens : first ≠ '\x7b') (skips : Skips [] (' ' :: first :: value) []) (rest : List Char) :
    optionValue? wide (' ' :: first :: value ++ ',' :: rest) =
      (some (.text (' ' :: first :: value))).map (·, ',' :: rest) := by
  have start : (' ' :: first :: value ++ ',' :: rest).dropWhile isSpace =
      first :: value ++ ',' :: rest := by
    have space : isSpace ' ' = true := rfl
    rw [List.cons_append, List.cons_append, List.dropWhile_cons_of_pos space, List.dropWhile_cons,
      visible]
    rfl
  have taken : (' ' :: first :: value ++ ',' :: rest).take
      ((' ' :: first :: value ++ ',' :: rest).length - (',' :: rest).length) =
        ' ' :: first :: value := by
    rw [List.length_append, Nat.add_sub_cancel, List.take_left]
  rw [optionValue?, start]
  split
  case h_1 same => exact absurd (List.cons.inj same).1 opens
  case h_2 =>
    rw [skips, behindValue?_comma, Option.map_some, taken]
    rfl

/-- The letters of the table of files. -/
def LocatedLibrary.filesLetters (library : LocatedLibrary) : List Char :=
  ' ' :: '\x7b' :: '\n' :: (library.files.flatMap
    (fun platform => entryLine (List.replicate 4 ' ') (platformEntry platform)) ++
      (List.replicate 2 ' ' ++ ['\x7d']))

/-- What is left of the platforms of a library in the table of files. -/
def LocatedLibrary.filesValue (library : LocatedLibrary) : List (List Nat × FileValue) :=
  (library.files.filter fun platform => platform.1 ≠ "__proto__").map fun platform =>
    (nameUnits platform.1, platform.2.value)

/-- The options of the loader, each with its letters and what these are read as. -/
def LocatedLibrary.options (package : String) (library : LocatedLibrary) :
    List (String × List Char × OptionValue) :=
  let name := ' ' :: (quote package).toList
  let policy := ' ' :: library.policy.spelling.toList
  [("name", name, .text name), ("urls", library.filesLetters, .files library.filesValue),
    ("policy", policy, .text policy)]

/-- The definition of an option. -/
def optionEntry (option : String × List Char × OptionValue) : List Char :=
  option.1.toList ++ ':' :: option.2.1

theorem isEntry_option {key : String} (identifier : Name.isIdentifier key) {letters : List Char}
    {value : OptionValue} {read : Option OptionValue}
    (value_read : ∀ rest, optionValue? wide (letters ++ ',' :: rest) = read.map (·, ',' :: rest)) :
    IsEntry wide (optionValue? wide) (optionEntry (key, letters, value))
      (read.map (nameUnits key, ·)) :=
  isEntry_of_isIdentifierName (isIdentifierName_of_isIdentifier identifier wide) value_read

theorem skips_blank : Skips [] [' '] [] := skips_of_passes? (by decide)

theorem optionValue?_quote {text : String} (apart : ¬ StringLiteral.HasNullBeforeDigit text.toList)
    (rest : List Char) : optionValue? wide (' ' :: (quote text).toList ++ ',' :: rest) =
      (some (.text (' ' :: (quote text).toList))).map (·, ',' :: rest) := by
  have quoted := toList_quote_append text []
  have skips := skips_blank.append (skips_quote apart [])
  rw [List.append_nil] at quoted
  rw [quoted] at skips ⊢
  exact optionValue?_text rfl (by decide) skips rest

theorem optionValue?_policy (policy : CachePolicy) (rest : List Char) :
    optionValue? wide (' ' :: policy.spelling.toList ++ ',' :: rest) =
      (some (.text (' ' :: policy.spelling.toList))).map (·, ',' :: rest) := by
  have spelled : ∃ more, policy.spelling.toList = 'C' :: more ∧
      passes? [] (' ' :: 'C' :: more) = some [] := by
    cases policy
    · exact ⟨"achePolicy.NONE".toList, by decide, by decide⟩
    · exact ⟨"achePolicy.STORE".toList, by decide, by decide⟩
  obtain ⟨more, spelled, passes⟩ := spelled
  rw [spelled]
  exact optionValue?_text rfl (by decide) (skips_of_passes? passes) rest

/-- The table of files is read as the object initializer in it. -/
theorem optionValue?_filesLetters (library : LocatedLibrary) (rest : List Char) :
    optionValue? wide (library.filesLetters ++ ',' :: rest) =
      (object? wide (fileValue? wide) ('\x7b' :: '\n' :: (library.files.flatMap
        (fun platform => entryLine (List.replicate 4 ' ') (platformEntry platform)) ++
          (List.replicate 2 ' ' ++ '\x7d' :: ',' :: rest)))).bind fun read =>
        some (.files read.1, read.2.dropWhile isSpace) := by
  have printed : library.filesLetters ++ ',' :: rest = ' ' :: '\x7b' :: '\n' ::
      (library.files.flatMap
        (fun platform => entryLine (List.replicate 4 ' ') (platformEntry platform)) ++
          (List.replicate 2 ' ' ++ '\x7d' :: ',' :: rest)) := by
    simp only [LocatedLibrary.filesLetters, List.cons_append, List.append_assoc, List.nil_append]
  have opens (text : List Char) : (' ' :: '\x7b' :: text).dropWhile isSpace = '\x7b' :: text := rfl
  rw [printed, optionValue?, opens]
  rfl

namespace LocatedLibrary.IsReadable

variable {package : String} {library : LocatedLibrary}

theorem optionValue?_filesValue (readable : library.IsReadable wide package) (rest : List Char) :
    optionValue? wide (library.filesLetters ++ ',' :: rest) =
      (some (.files library.filesValue)).map (·, ',' :: rest) := by
  have each (platform : String × FileNames) (known : platform ∈ library.files) :
      IsEntry wide (fileValue? wide) (platformEntry platform)
        (some (nameUnits platform.1, platform.2.value)) :=
    isEntry_of_isIdentifierName (readable.keys platform known)
      (fileValue?_letters (readable.files platform known) (readable.distinct_arches platform known))
  rw [optionValue?_filesLetters,
    object?_entryLines FileNames.value readable.distinct each 4 2 (',' :: rest)]
  rfl

theorem isEntry_options (readable : library.IsReadable wide package) :
    ∀ option ∈ library.options package, IsEntry wide (optionValue? wide) (optionEntry option)
      (some (nameUnits option.1, option.2.2)) :=
  List.forall_mem_cons.mpr ⟨isEntry_option (by decide) (optionValue?_quote readable.package),
    List.forall_mem_cons.mpr ⟨isEntry_option (by decide) readable.optionValue?_filesValue,
      List.forall_mem_singleton.mpr (isEntry_option (by decide) (optionValue?_policy _))⟩⟩

end LocatedLibrary.IsReadable

theorem toList_libraryText_eq_options (package : String) (library : LocatedLibrary) :
    (libraryText package library).toList = "const url = new URL(".toList ++
      ((quote library.base).toList ++ (optionsStart.toList ++ ('\x7b' :: '\n' ::
        ((library.options package).flatMap
          (fun option => entryLine (List.replicate 2 ' ') (optionEntry option)) ++
            (List.replicate 0 ' ' ++ '\x7d' :: ";\n\n".toList))))) := by
  unfold libraryText optionsStart LocatedLibrary.options
  simp only [-String.reduceAppend, String.toList_append, String.toList_join, List.flatMap_map,
    toList_platformText_eq_entryLine, List.flatMap_cons, List.flatMap_nil, List.append_assoc]
  unfold entryLine optionEntry LocatedLibrary.filesLetters
  simp only [String.reduceToList, List.replicate_succ, List.replicate_zero, List.append_assoc,
    List.cons_append, List.nil_append]
  rfl

/-- The source text of a library tells what the library holds, but for what the key `__proto__` takes
away. -/
theorem ofText?_libraryText {package : String} {library : LocatedLibrary}
    (readable : library.IsReadable wide package) :
    SourceListing.ofText? wide (libraryText package library) =
      some (Listing.inUnits { library.listing with files := library.kept }) := by
  have names : ((library.options package).map Prod.fst).Nodup := by
    have known : (library.options package).map Prod.fst = ["name", "urls", "policy"] := rfl
    rw [known]
    decide
  have none_proto : (library.options package).filter (fun option => option.1 ≠ "__proto__") =
      library.options package := rfl
  have object := object?_entryLines Prod.snd names readable.isEntry_options 2 0 ";\n\n".toList
  have apart {key other : String} (differs : key ≠ other) :
      (nameUnits key == nameUnits other) = false :=
    beq_false_of_ne (nameUnits_injective.ne differs)
  have urls : ((library.options package).map fun option =>
      (nameUnits option.1, option.2.2)).lookup (nameUnits "urls") =
        some (.files library.filesValue) := by
    simp only [LocatedLibrary.options, List.map_cons, List.lookup_cons, beq_self_eq_true,
      apart (by decide : "urls" ≠ "name")]
  have policy : ((library.options package).map fun option =>
      (nameUnits option.1, option.2.2)).lookup (nameUnits "policy") =
        some (.text (' ' :: library.policy.spelling.toList)) := by
    simp only [LocatedLibrary.options, List.map_cons, List.lookup_cons, beq_self_eq_true,
      apart (by decide : "policy" ≠ "name"), apart (by decide : "policy" ≠ "urls")]
  have blank : (' ' :: library.policy.spelling.toList).dropWhile isSpace =
      library.policy.spelling.toList := by
    cases library.policy <;> decide
  rw [none_proto] at object
  rw [SourceListing.ofText?, toList_libraryText_eq_options]
  simp only [behind?_append, Option.bind_eq_bind, Option.bind_some, read?_quote readable.base, object,
    urls, policy, OptionValue.files?, OptionValue.text?, blank, String.ofList_toList]
  rw [Listing.inUnits, kept_eq_flatMap, LocatedLibrary.filesValue, List.flatMap_map]
  rfl

/-- If the definition of a platform is malformed, the whole source text is. -/
theorem ofText?_eq_none {package : String} {library : LocatedLibrary}
    (package_apart : ¬ StringLiteral.HasNullBeforeDigit package.toList)
    (base_apart : ¬ StringLiteral.HasNullBeforeDigit library.base.toList)
    {entry : String × FileNames → Option (List Nat × FileValue)}
    (each : ∀ platform ∈ library.files,
      IsEntry wide (fileValue? wide) (platformEntry platform) (entry platform))
    (malformed : library.files.mapM entry = none) :
    SourceListing.ofText? wide (libraryText package library) = none := by
  have files (rest : List Char) : optionValue? wide (library.filesLetters ++ ',' :: rest) =
      (none : Option OptionValue).map (·, ',' :: rest) := by
    rw [optionValue?_filesLetters, object?,
      entries?_entryLines each (isSpace_of_blank 4) (isSpace_of_blank 2), malformed]
    rfl
  let read (option : String × List Char × OptionValue) : Option (List Nat × OptionValue) :=
    if option.1 = "urls" then none else some (nameUnits option.1, option.2.2)
  have options : ∀ option ∈ library.options package,
      IsEntry wide (optionValue? wide) (optionEntry option) (read option) :=
    List.forall_mem_cons.mpr ⟨isEntry_option (by decide) (optionValue?_quote package_apart),
      List.forall_mem_cons.mpr ⟨isEntry_option (by decide) files,
        List.forall_mem_singleton.mpr (isEntry_option (by decide) (optionValue?_policy _))⟩⟩
  have nothing : (library.options package).mapM read = none := rfl
  have entries := entries?_entryLines options (isSpace_of_blank 2) (isSpace_of_blank 0)
    ";\n\n".toList
  rw [SourceListing.ofText?, toList_libraryText_eq_options]
  simp only [behind?_append, Option.bind_eq_bind, Option.bind_some, read?_quote base_apart, object?,
    entries, nothing, Option.map_none, Option.bind_none]

end ForeignBindings
