import ForeignBindings.Proofs.Glue.PrintedLines

/-!
# Reading the symbol table

The rows of the symbol table read from its text: the name of each native function with the tokens of
its parameters and of its result.  What was printed is read back.
-/

namespace ForeignBindings
namespace Glue

/-- Items with commas between them up to a closing text, and what follows it. -/
def readClosed? {α : Type} (item? : List Char → Option (α × List Char)) (close : String)
    (text : List Char) : Option (List α × List Char) :=
  match behind? close text with
  | some rest => some ([], rest)
  | none => do
      let (items, rest) ← readSeparated? item? ", " text
      return (items, ← behind? close rest)

/-- The flag that a text starts with, and what follows. -/
def readBoolean? (text : List Char) : Option (Bool × List Char) :=
  ((behind? "true" text).map (true, ·)).or ((behind? "false" text).map (false, ·))

/-- The row of the symbol table that a line is. -/
def readSymbol? (line : List Char) : Option SymbolEntry := do
  let (name, rest) ← readKey? (← behind? "  " line)
  let (parameters, rest) ←
    readClosed? readLiteral? "], result: " (← behind? ": \x7b parameters: [" rest)
  let (result, rest) ← readLiteral? rest
  let (nonBlocking, rest) ← readBoolean? (← behind? ", nonblocking: " rest)
  if rest = " \x7d,".toList then some ⟨name, parameters, result, nonBlocking⟩ else none

/-- The rows of the symbol table up to its last line. -/
def readRows? : List (List Char) → Option (List SymbolEntry)
  | [] => none
  | line :: rest =>
      if line = "\x7d as const;".toList then if rest = [[]] then some [] else none
      else do
        let entry ← readSymbol? line
        let entries ← readRows? rest
        return entry :: entries

/-- The rows of the symbol table that a text defines. -/
def readSymbols? (text : List Char) : Option (List SymbolEntry) :=
  match Text.lines text with
  | [] => none
  | first :: rest =>
      if first = "const symbols = \x7b\x7d as const;".toList then
        if rest = [[]] then some [] else none
      else if first = "const symbols = \x7b".toList then readRows? rest
      else none

/-- Printed items are read back up to a closing text that none of them starts with. -/
theorem readClosed?_append {α : Type} {item? : List Char → Option (α × List Char)}
    (print : α → String) {close : String} {Ends : List Char → Prop} {items : List α}
    (each : ∀ item ∈ items, ∀ rest, Ends rest →
      item? ((print item).toList ++ rest) = some (item, rest))
    (others : ∀ item ∈ items, ∀ rest, behind? close ((print item).toList ++ rest) = none)
    (separates : ∀ rest, Ends (", ".toList ++ rest)) (closes : ∀ rest, Ends (close.toList ++ rest))
    (last : ∀ rest, behind? ", " (close.toList ++ rest) = none) (rest : List Char) :
    readClosed? item? close
        ((joinWith ", " (items.map print)).toList ++ (close.toList ++ rest)) =
      some (items, rest) := by
  cases items with
  | nil =>
      have nothing : (joinWith ", " (([] : List α).map print)).toList = [] := rfl
      rw [nothing, List.nil_append, readClosed?, behind?_append]
  | cons first more =>
      have read := readSeparated?_append print (List.cons_ne_nil first more) each separates
        (closes rest) (last rest)
      have opened : behind? close ((joinWith ", " ((first :: more).map print)).toList ++
          (close.toList ++ rest)) = none := by
        cases more with
        | nil =>
            rw [List.map_singleton, joinWith_singleton]
            exact others first List.mem_cons_self _
        | cons second more =>
            rw [List.map_cons, List.map_cons, joinWith_cons_cons, List.append_assoc]
            exact others first List.mem_cons_self _
      rw [readClosed?, opened]
      simp only [read, Option.bind_eq_bind, Option.bind_some, behind?_append]
      rfl

/-- The line of a row. -/
def symbolLine (entry : SymbolEntry) : String :=
  "  " ++ Name.propertyKey entry.name ++ ": \x7b parameters: [" ++
    joinWith ", " (entry.parameters.map Text.quote) ++ "], result: " ++
    Text.quote entry.result ++ ", nonblocking: " ++
    (if entry.nonBlocking then "true" else "false") ++ " \x7d,"

theorem toList_symbolText (entry : SymbolEntry) :
    (symbolText entry).toList = (symbolLine entry).toList ++ ['\n'] := by
  unfold symbolText symbolLine
  simp only [-String.reduceAppend, String.toList_append, List.append_assoc]
  rfl

theorem toList_symbolsText {symbols : List SymbolEntry} (some : symbols ≠ []) :
    (symbolsText symbols).toList =
      "const symbols = \x7b".toList ++ '\n' ::
        (symbols.flatMap (fun entry => (symbolText entry).toList) ++
          ("\x7d as const;".toList ++ '\n' :: ['\n'])) := by
  unfold symbolsText
  rw [List.isEmpty_eq_false_iff.mpr some, if_neg Bool.false_ne_true]
  simp only [-String.reduceAppend, String.toList_append, List.append_assoc, String.toList_join,
    List.flatMap_map]
  rfl

theorem staysOnLine_symbolLine (entry : SymbolEntry) :
    Text.StaysOnLine (symbolLine entry).toList := by
  have flag : Text.StaysOnLine (if entry.nonBlocking then "true" else "false").toList := by
    cases entry.nonBlocking <;> decide
  unfold symbolLine
  simp only [String.toList_append, Text.staysOnLine_append]
  refine ⟨⟨⟨⟨⟨⟨⟨⟨by decide, staysOnLine_propertyKey _⟩, by decide⟩,
    staysOnLine_joinWith (by decide) ?_⟩, by decide⟩, staysOnLine_quote _⟩, by decide⟩, flag⟩,
    by decide⟩
  intro text inside
  obtain ⟨token, -, rfl⟩ := List.mem_map.mp inside
  exact staysOnLine_quote token

theorem readSymbol?_symbolLine (entry : SymbolEntry) :
    readSymbol? (symbolLine entry).toList = some entry := by
  have unlike (token : String) (rest : List Char) :
      behind? "], result: " ((Text.quote token).toList ++ rest) = none := by
    rw [Text.quote, String.toList_ofList, Text.Quoted.encode]
    rfl
  have each : ∀ token ∈ entry.parameters, ∀ rest : List Char, True →
      readLiteral? ((Text.quote token).toList ++ rest) = some (token, rest) :=
    fun token _ rest _ => readLiteral?_append token rest
  have tokens (rest : List Char) := readClosed?_append Text.quote each
    (fun token _ => unlike token) (fun _ => trivial) (fun _ => trivial) (fun _ => rfl) rest
  have flag (rest : List Char) :
      readBoolean? ((if entry.nonBlocking then "true" else "false").toList ++ rest) =
        some (entry.nonBlocking, rest) := by
    cases entry.nonBlocking <;> rfl
  unfold symbolLine
  simp only [readSymbol?, String.toList_append, List.append_assoc, behind?_append,
    readKey?_append entry.name (stops_append ": \x7b parameters: [" (by decide) _), tokens,
    readLiteral?_append, flag, Option.bind_eq_bind, Option.bind_some, if_true]

theorem readRows?_lines (symbols : List SymbolEntry) :
    readRows? (symbols.map (fun entry => (symbolLine entry).toList) ++
      ["\x7d as const;".toList, []]) = some symbols := by
  induction symbols with
  | nil => rfl
  | cons entry symbols induction =>
      have other : (symbolLine entry).toList ≠ "\x7d as const;".toList := by
        intro same
        unfold symbolLine at same
        simp only [String.toList_append, List.append_assoc] at same
        cases congrArg List.head? same
      rw [List.map_cons, List.cons_append, readRows?, if_neg other, readSymbol?_symbolLine]
      simp only [induction, Option.bind_eq_bind, Option.bind_some]
      rfl

/-- The text of the symbol table is read as the rows that it was printed from. -/
theorem readSymbols?_symbolsText (symbols : List SymbolEntry) :
    readSymbols? (symbolsText symbols).toList = some symbols := by
  cases symbols with
  | nil =>
      have known : symbolsText [] = "const symbols = \x7b\x7d as const;\n\n" := rfl
      simp only [known, String.reduceToList]
      decide +kernel
  | cons entry symbols =>
      have opening : Text.StaysOnLine "const symbols = \x7b".toList := by decide
      have closing : Text.StaysOnLine "\x7d as const;".toList := by decide
      simp only [readSymbols?, toList_symbolsText (List.cons_ne_nil entry symbols),
        toList_symbolText]
      rw [Text.lines_append opening, Text.lines_flatMap fun entry _ => staysOnLine_symbolLine entry,
        Text.lines_append closing]
      have other : "const symbols = \x7b".toList ≠ "const symbols = \x7b\x7d as const;".toList := by
        decide
      simp only [other, if_false, if_true]
      exact readRows?_lines (entry :: symbols)

end Glue
end ForeignBindings
