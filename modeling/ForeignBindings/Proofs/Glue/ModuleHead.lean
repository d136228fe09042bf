import ForeignBindings.Proofs.Glue.SymbolText
import ForeignBindings.Proofs.Library.Lines

/-!
# The head of a printed module

The import, the helper functions that wrappers share, the location of the library, the table of its
symbols and the handle to it are read as the names that they bind.  Every part ends with a blank line,
so parts follow one another at module scope.
-/

namespace ForeignBindings
namespace Glue

/-- Whether a part of a text declares what is given at module scope and ends with a blank line behind
a visible character. -/
def Stands (text : List Char) (found : List Declared) : Prop :=
  ∃ front letter, text = front ++ [letter, '\n', '\n'] ∧ Text.isBlank letter = false ∧
    Leads .module (front ++ [letter, '\n']) found .module

theorem leads_lineFeed : Leads .module ['\n'] [] .module := by
  have blank : Text.StaysOnLine [] := by decide
  exact .ofLine blank.isLine rfl

theorem leads_of_line {line : List Char} (stays : Text.StaysOnLine line) {before after : Scope}
    {found : List Declared} (stepped : step before line = some (found, after)) :
    Leads before (line ++ ['\n']) found after :=
  .ofLine stays.isLine stepped

namespace Stands

variable {text other line : List Char} {found more : List Declared} {letter : Char}

theorem leads (stands : Stands text found) : Leads .module text found .module := by
  obtain ⟨front, letter, rfl, -, leads⟩ := stands
  have parts : front ++ [letter, '\n', '\n'] = front ++ [letter, '\n'] ++ ['\n'] := by simp
  rw [parts, ← List.append_nil found]
  exact leads.append leads_lineFeed

/-- What comes before a part does not change how it ends. -/
theorem append_left (front : Leads .module other more .module) (stands : Stands text found) :
    Stands (other ++ text) (more ++ found) := by
  obtain ⟨own, letter, rfl, visible, leads⟩ := stands
  refine ⟨other ++ own, letter, (List.append_assoc _ _ _).symm, visible, ?_⟩
  rw [List.append_assoc]
  exact front.append leads

/-- A part ends with its last line. -/
theorem ofLine {between : Scope} (front : Leads .module text found between)
    (stays : Text.StaysOnLine (line ++ [letter])) (visible : Text.isBlank letter = false)
    (stepped : step between (line ++ [letter]) = some (more, .module)) :
    Stands (text ++ (line ++ [letter, '\n', '\n'])) (found ++ more) := by
  refine ⟨text ++ line, letter, (List.append_assoc _ _ _).symm, visible, ?_⟩
  have leads := front.append (leads_of_line stays stepped)
  simpa using leads

/-- One line makes a part with the blank line behind it. -/
theorem ofSingle (stays : Text.StaysOnLine (line ++ [letter]))
    (visible : Text.isBlank letter = false)
    (stepped : step .module (line ++ [letter]) = some (more, .module)) :
    Stands (line ++ [letter, '\n', '\n']) more :=
  ofLine (.nil .module) stays visible stepped

/-- Lines make a part with the blank line behind them. -/
theorem ofLines {lines : List (List Char)} (stay : ∀ line ∈ lines, Text.StaysOnLine line)
    (walked : walk .module lines = some (found, .module)) (visible : Text.isBlank letter = false)
    (last : lines.getLast?.bind List.getLast? = some letter) :
    Stands (lines.flatMap (· ++ ['\n']) ++ ['\n']) found := by
  obtain ⟨final, isLast, ends⟩ := Option.bind_eq_some_iff.mp last
  obtain ⟨others, rfl⟩ := List.getLast?_eq_some_iff.mp isLast
  obtain ⟨start, rfl⟩ := List.getLast?_eq_some_iff.mp ends
  have leads := Leads.ofLines stay walked
  rw [List.flatMap_append, List.flatMap_singleton] at leads ⊢
  refine ⟨others.flatMap (· ++ ['\n']) ++ start, letter, by simp, visible, ?_⟩
  simpa using leads

/-- Parts behind a part make one part with it. -/
theorem append_flatMap {α : Type} {items : List α} {print : α → List Char}
    {read : α → List Declared} (first : Stands text found)
    (each : ∀ item ∈ items, Stands (print item) (read item)) :
    Stands (text ++ items.flatMap print) (found ++ items.flatMap read) := by
  induction items generalizing text found with
  | nil => simpa using first
  | cons item items induction =>
      obtain ⟨own, others⟩ := List.forall_mem_cons.mp each
      rw [List.flatMap_cons, List.flatMap_cons, ← List.append_assoc, ← List.append_assoc]
      exact induction (own.append_left first.leads) others

/-- Whether a known text is a part, which running the reader tells. -/
def check (text : List Char) (found : List Declared) : Bool :=
  let lines := (Text.lines text).dropLast
  decide (text = lines.flatMap (· ++ ['\n']) ++ ['\n']) &&
    decide (∀ line ∈ lines, Text.StaysOnLine line) &&
    decide (walk .module lines = some (found, .module)) &&
    (lines.getLast?.bind List.getLast?).any fun letter => !Text.isBlank letter

theorem of_check (checked : check text found = true) : Stands text found := by
  simp only [check, Bool.and_eq_true, decide_eq_true_eq, Option.any_eq_true,
    Bool.not_eq_true'] at checked
  obtain ⟨⟨⟨same, stay⟩, walked⟩, letter, last, visible⟩ := checked
  exact same ▸ ofLines stay walked visible last

/-- The text of a part with one line feed at its end declares the same. -/
theorem declared?_endWithLineFeed {text : String} (stands : Stands text.toList found) :
    declared? (endWithLineFeed text) = some found := by
  obtain ⟨front, letter, printed, visible, leads⟩ := stands
  have blank : ∀ letter ∈ ['\n', '\n'], Text.isBlank letter = true :=
    List.forall_mem_cons.mpr ⟨rfl, List.forall_mem_singleton.mpr rfl⟩
  have trimmed : Text.trimEnd text.toList = front ++ [letter] := by
    rw [printed]
    exact Text.trimEnd_append visible front blank
  refine Leads.declared?_eq ?_
  rw [endWithLineFeed, String.toList_ofList, trimmed, List.append_assoc]
  exact leads

end Stands

/-- An indented line within a body declares nothing. -/
theorem leads_indented {line : List Char} (indented : line.head? = some ' ')
    (stays : Text.StaysOnLine line) : Leads .body (line ++ ['\n']) [] .body := by
  obtain ⟨rest, rfl⟩ := List.head?_eq_some_iff.mp indented
  exact leads_of_line stays rfl

theorem staysOnLine_exportText (exported : Bool) :
    Text.StaysOnLine (exportText exported).toList := by
  cases exported <;> decide

/-- A line that declares a value leads into its body, if it opens one. -/
theorem leads_value (exported : Bool) {keyword name : String} {rest : List Char} {scope : Scope}
    (known : keyword ∈ valueKeywords) (identifier : Name.isIdentifier name) (ends : EndsWord rest)
    (stays : Text.StaysOnLine rest) (behind : scopeBehind? rest = some scope) :
    Leads .module
      ((exportText exported).toList ++ (keyword.toList ++ (name.toList ++ rest)) ++ ['\n'])
      [.value name] scope := by
  obtain ⟨bare, read⟩ := readDeclaring?_value known identifier ends behind
  have keyword_stays : Text.StaysOnLine keyword.toList := by
    simp only [valueKeywords, List.mem_cons, List.not_mem_nil, or_false] at known
    rcases known with rfl | rfl | rfl | rfl <;> decide
  refine leads_of_line ?_ ((step_module bare exported).trans read)
  simp only [Text.staysOnLine_append]
  exact ⟨staysOnLine_exportText _, keyword_stays, staysOnLine_identifier identifier, stays⟩

theorem stands_importText (loaderUrl : String) :
    Stands (importText loaderUrl).toList [.value "CachePolicy", .value "prepare"] := by
  let line := "import \x7b ".toList ++ ((joinWith ", " ["CachePolicy", "prepare"]).toList ++
    (" \x7d from ".toList ++ (Text.quote loaderUrl).toList))
  have printed : (importText loaderUrl).toList = line ++ [';', '\n', '\n'] := by
    unfold importText
    simp only [line, String.toList_append, List.append_assoc]
    rfl
  have stays : Text.StaysOnLine (line ++ [';']) := by
    simp only [line, Text.staysOnLine_append]
    exact ⟨⟨by decide, by decide, by decide, staysOnLine_quote _⟩, by decide⟩
  have separates (rest : List Char) : EndsWord (", ".toList ++ rest) :=
    endsWord_append (by decide) (by decide) _
  have closes (rest : List Char) : EndsWord (" \x7d from ".toList ++ rest) :=
    endsWord_append (by decide) (by decide) _
  have names (rest : List Char) := readSeparated?_append id
    (List.cons_ne_nil "CachePolicy" ["prepare"])
    (List.forall_mem_cons.mpr ⟨fun rest ends => readIdentifier?_append (by decide) ends.stops,
      List.forall_mem_singleton.mpr fun rest ends =>
        readIdentifier?_append (by decide) ends.stops⟩)
    separates (closes rest) rfl
  have stepped : step .module (line ++ [';']) =
      some ([.value "CachePolicy", .value "prepare"], .module) := by
    have notComment : behind? "/*" (line ++ [';']) = none := rfl
    have notIdle : readIdle? (line ++ [';']) = none := rfl
    have imported : readImport? (line ++ [';']) =
        some (["CachePolicy", "prepare"].map .value, .module) := by
      simp only [line, List.append_assoc, readImport?, behind?_append, Option.bind_eq_bind,
        Option.bind_some, List.map_id] at names ⊢
      rw [names]
      simp only [Option.bind_some, behind?_append, readLiteral?_append, if_true]
    rw [step_of_behind?_eq_none notComment, readCode?, notIdle, imported]
    rfl
  rw [printed]
  exact .ofSingle stays (by decide) stepped

theorem stands_encodeSource :
    Stands (HelperSet.encodeSource ++ "\n").toList [.value "encoder", .value "encode"] := by
  unfold HelperSet.encodeSource
  simp only [-String.reduceAppend, String.toList_append, String.reduceToList]
  exact .of_check (by decide +kernel)

theorem stands_decodeSource :
    Stands (HelperSet.decodeSource ++ "\n").toList [.value "decoder", .value "decode"] := by
  unfold HelperSet.decodeSource
  simp only [-String.reduceAppend, String.toList_append, String.reduceToList]
  exact .of_check (by decide +kernel)

theorem stands_readPointerSource :
    Stands (HelperSet.readPointerSource ++ "\n").toList [.value "readPointer"] := by
  unfold HelperSet.readPointerSource
  simp only [-String.reduceAppend, String.toList_append, String.reduceToList]
  exact .of_check (by decide +kernel)

/-- The names that the helpers in use declare. -/
def HelperSet.bindings (helpers : HelperSet) : List String :=
  (if helpers.encode then ["encoder", "encode"] else []) ++
    (if helpers.decode then ["decoder", "decode"] else []) ++
    (if helpers.readPointer then ["readPointer"] else [])

theorem leads_helpers (helpers : HelperSet) :
    Leads .module (helpers.sources.flatMap fun source => (source ++ "\n").toList)
      (helpers.bindings.map .value) .module := by
  have each {source : String} {names : List String}
      (stands : Stands (source ++ "\n").toList (names.map .value)) (used : Bool) :
      Leads .module ((if used then [source] else []).flatMap fun source => (source ++ "\n").toList)
        ((if used then names else []).map .value) .module := by
    cases used with
    | false => exact .nil .module
    | true =>
        simp only [if_true, List.flatMap_singleton]
        exact stands.leads
  rw [HelperSet.sources, HelperSet.bindings, List.flatMap_append, List.flatMap_append,
    List.map_append, List.map_append]
  exact ((each stands_encodeSource _).append (each stands_decodeSource _)).append
    (each stands_readPointerSource _)

theorem staysOnLine_policy (policy : CachePolicy) :
    Text.StaysOnLine policy.spelling.toList := by
  cases policy <;> decide

/-- Whether the keys of a platform stand on the lines of a table. -/
def FileNames.StayOnLine : FileNames → Prop
  | .single _ => True
  | .perArch files => ∀ file ∈ files, Text.StaysOnLine file.1.toList

theorem staysOnLine_entry {indent key : List Char} (indent_stays : Text.StaysOnLine indent)
    (key_stays : Text.StaysOnLine key) (name : String) :
    Text.StaysOnLine (indent ++ (key ++ addressLetters name)) := by
  unfold addressLetters
  simp only [Text.staysOnLine_append]
  exact ⟨indent_stays, key_stays, by decide, staysOnLine_quote name, by decide⟩

theorem staysOnLine_platformLines {platform : String × FileNames}
    (stays : Text.StaysOnLine platform.1.toList) (names_stay : FileNames.StayOnLine platform.2) :
    ∀ line ∈ platformLines platform, Text.StaysOnLine line := by
  obtain ⟨os, names⟩ := platform
  cases names with
  | single file => exact List.forall_mem_singleton.mpr (staysOnLine_entry (by decide) stays file)
  | perArch files =>
      refine List.forall_mem_append.mpr ⟨List.forall_mem_cons.mpr ⟨?_, ?_⟩,
        List.forall_mem_singleton.mpr (by decide)⟩
      · rw [Text.staysOnLine_append, Text.staysOnLine_append]
        exact ⟨by decide, stays, by decide⟩
      · exact List.forall_mem_map.mpr fun file inside =>
          staysOnLine_entry (by decide) (names_stay file inside) file.2

theorem indented_platformLines (platform : String × FileNames) :
    ∀ line ∈ platformLines platform, line.head? = some ' ' := by
  obtain ⟨os, names⟩ := platform
  cases names with
  | single file => exact List.forall_mem_singleton.mpr rfl
  | perArch files =>
      exact List.forall_mem_append.mpr ⟨List.forall_mem_cons.mpr ⟨rfl,
        List.forall_mem_map.mpr fun _ _ => rfl⟩, List.forall_mem_singleton.mpr rfl⟩

/-- Whether the keys of the platforms stand on the lines of a table. -/
def LocatedLibrary.StaysOnLine (library : LocatedLibrary) : Prop :=
  ∀ platform ∈ library.files,
    Text.StaysOnLine platform.1.toList ∧ FileNames.StayOnLine platform.2

/-- The files of a library stand within its options and declare nothing. -/
theorem leads_files {library : LocatedLibrary} (stays : LocatedLibrary.StaysOnLine library) :
    Leads .body ((library.files.flatMap platformLines).flatMap (· ++ ['\n'])) [] .body := by
  refine .flatMap_nothing fun line inside => ?_
  obtain ⟨platform, known, inside⟩ := List.mem_flatMap.mp inside
  exact leads_indented (indented_platformLines platform line inside)
    (staysOnLine_platformLines (stays platform known).1 (stays platform known).2 line inside)

theorem leads_location (base : String) :
    Leads .module ("const url = new URL(".toList ++ ((Text.quote base).toList ++
      ", import.meta.url);".toList) ++ ['\n']) [.value "url"] .module := by
  let rest := " = new URL(".toList ++ ((Text.quote base).toList ++ ", import.meta.url)".toList) ++
    [';']
  have printed : "const url = new URL(".toList ++ ((Text.quote base).toList ++
      ", import.meta.url);".toList) =
        (exportText false).toList ++ ("const ".toList ++ ("url".toList ++ rest)) := by
    simp only [rest, List.append_assoc]
    rfl
  have stays : Text.StaysOnLine rest := by
    simp only [rest, Text.staysOnLine_append]
    exact ⟨⟨by decide, staysOnLine_quote _, by decide⟩, by decide⟩
  have ends : EndsWord rest := by
    simp only [rest, List.append_assoc]
    exact endsWord_append (by decide) (by decide) _
  rw [printed]
  exact leads_value false (by decide : "const " ∈ valueKeywords)
    (by decide : Name.isIdentifier "url") ends stays (scopeBehind?_semicolon _)

/-- The lines in front of the files open the options. -/
theorem leads_openingLines (package base : String) :
    Leads .module ((openingLines package base).flatMap (· ++ ['\n']))
      [.value "url", .value "uri", .value "opts"] .body := by
  have name_stays : Text.StaysOnLine
      ("  name: ".toList ++ ((Text.quote package).toList ++ [','])) := by
    simp only [Text.staysOnLine_append]
    exact ⟨by decide, staysOnLine_quote _, by decide⟩
  have between : Leads .module (["let uri = url.toString();".toList,
      "if (!uri.endsWith(\"/\")) uri += \"/\";".toList, [], "const opts = \x7b".toList].flatMap
        (· ++ ['\n'])) [.value "uri", .value "opts"] .body :=
    .ofLines (by decide) (by decide)
  have leads := (leads_location base).append (between.append (leads_indented rfl name_stays))
  simpa only [openingLines, List.flatMap_cons, List.flatMap_nil, List.append_assoc,
    List.append_nil, List.nil_append, List.cons_append] using leads

theorem stands_libraryText (package : String) {library : LocatedLibrary}
    (stays : LocatedLibrary.StaysOnLine library) :
    Stands (libraryText package library).toList [.value "url", .value "uri", .value "opts"] := by
  have policy_stays : Text.StaysOnLine
      ("  policy: ".toList ++ (library.policy.spelling.toList ++ [','])) := by
    simp only [Text.staysOnLine_append]
    exact ⟨by decide, staysOnLine_policy _, by decide⟩
  have printed : (libraryText package library).toList =
      (openingLines package library.base).flatMap (· ++ ['\n']) ++ ("  urls: \x7b".toList ++ ['\n'] ++
        ((library.files.flatMap platformLines).flatMap (· ++ ['\n']) ++ ("  \x7d,".toList ++ ['\n'] ++
          ("  policy: ".toList ++ (library.policy.spelling.toList ++ [',']) ++ ['\n'])))) ++
        (['\x7d'] ++ [';', '\n', '\n']) := by
    rw [toList_libraryText, libraryLines]
    simp only [List.flatMap_append, List.flatMap_cons, List.flatMap_nil, List.append_assoc,
      List.append_nil]
    rfl
  have urls : Leads .body ("  urls: \x7b".toList ++ ['\n']) [] .body :=
    leads_indented rfl (by decide)
  have closed : Leads .body ("  \x7d,".toList ++ ['\n']) [] .body :=
    leads_indented rfl (by decide)
  rw [printed]
  exact .ofLine ((leads_openingLines package library.base).append (urls.append
    ((leads_files stays).append (closed.append (leads_indented rfl policy_stays)))))
      (by decide) (by decide) (by decide)

theorem leads_symbolText (entry : SymbolEntry) : Leads .body (symbolText entry).toList [] .body := by
  rw [toList_symbolText]
  refine leads_indented ?_ (staysOnLine_symbolLine entry)
  unfold symbolLine
  simp only [String.toList_append, List.append_assoc]
  rfl

theorem stands_symbolsText (symbols : List SymbolEntry) :
    Stands (symbolsText symbols).toList [.value "symbols"] := by
  by_cases empty : symbols = []
  case pos =>
    have known : symbolsText [] = "const symbols = \x7b\x7d as const;\n\n" := rfl
    simp only [empty, known, String.reduceToList]
    exact .of_check (by decide +kernel)
  case neg =>
    have printed : (symbolsText symbols).toList =
        "const symbols = \x7b".toList ++ ['\n'] ++
          (symbols.flatMap fun entry => (symbolText entry).toList) ++
            ("\x7d as const".toList ++ [';', '\n', '\n']) := by
      rw [toList_symbolsText empty]
      simp only [List.append_assoc]
      rfl
    have opened : Leads .module ("const symbols = \x7b".toList ++ ['\n']) [.value "symbols"] .body :=
      leads_of_line (by decide) (by decide)
    have rows := Leads.flatMap_nothing fun entry (_ : entry ∈ symbols) => leads_symbolText entry
    rw [printed]
    exact .ofLine (opened.append rows) (by decide) (by decide) (by decide)

/-- The names that the handle of the library declares. -/
def handleBindings (lazyInit : Bool) : List String :=
  if lazyInit then ["_lib", "load"] else ["_lib"]

theorem stands_handleText (exported lazyInit : Bool) :
    Stands (handleText exported lazyInit).toList ((handleBindings lazyInit).map .value) := by
  cases lazyInit with
  | false =>
      have known : handleText exported false =
          "const _lib = await prepare(opts, symbols);\n\n" := rfl
      simp only [known, String.reduceToList]
      exact .of_check (by decide +kernel)
  | true =>
      unfold handleText
      simp only [-String.reduceAppend, String.toList_append, if_true, String.reduceToList]
      cases exported with
      | false => exact .of_check (by decide +kernel)
      | true => exact .of_check (by decide +kernel)

end Glue
end ForeignBindings
