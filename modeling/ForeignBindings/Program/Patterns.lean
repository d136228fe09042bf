import ForeignBindings.Program.Tool

/-!
# Patterns

Patterns of octets, each of which may be repeated, and the tools that look for them in lines.
-/

namespace ForeignBindings
namespace Program

open Octets

/-- An octet of a pattern. -/
structure PatternItem where
  /-- The octets that it stands for. -/
  accepts : Char → Bool
  /-- Whether it stands for any number of them. -/
  isRepeated : Bool

/-- A pattern. -/
structure Pattern where
  /-- Whether a match starts where the line starts. -/
  startsLine : Bool
  /-- The octets of a match. -/
  items : List PatternItem
  /-- Whether a match ends where the line ends. -/
  endsLine : Bool

namespace Pattern

/-- The classes of octets by name. -/
def classes : List (String × (Char → Bool)) :=
  [("space", isSpace), ("blank", fun octet => octet == ' ' || octet == '\t'),
    ("digit", Char.isDigit), ("alpha", Char.isAlpha), ("alnum", Char.isAlphanum),
    ("lower", Char.isLower), ("upper", Char.isUpper)]

/-- Reads what stands between brackets, given the octets that are already in the set; `fuel` bounds
its length. -/
def readSet (accepts : Char → Bool) : Nat → List Char → Option ((Char → Bool) × List Char)
  | 0, _ | _, [] => none
  | _, ']' :: rest => some (accepts, rest)
  | fuel + 1, '[' :: ':' :: rest => do
      let name := rest.takeWhile Char.isAlpha
      let inClass ← classes.lookup (String.ofList name)
      readSet (fun octet => accepts octet || inClass octet) fuel (rest.drop (name.length + 2))
  | fuel + 1, low :: '-' :: high :: rest =>
      if high = ']' then
        readSet (fun octet => accepts octet || octet == low || octet == '-') fuel (high :: rest)
      else readSet (fun octet => accepts octet || (low ≤ octet && octet ≤ high)) fuel rest
  | fuel + 1, one :: rest => readSet (fun octet => accepts octet || octet == one) fuel rest

/-- Reads the octets of a pattern and whether it ends the line; `fuel` bounds its length. -/
def readItems : Nat → List Char → Option (List PatternItem × Bool)
  | 0, _ => none
  | _, [] => some ([], false)
  | _, ['$'] => some ([], true)
  | fuel + 1, octet :: rest => do
      let (accepts, rest) ←
        match octet, rest with
        | '[', '^' :: rest => do
            let (accepts, rest) ← readSet (fun _ => false) fuel rest
            pure (fun octet => !accepts octet, rest)
        | '[', _ => readSet (fun _ => false) fuel rest
        | '\\', octet :: rest => some ((· == octet), rest)
        | '.', _ => some (fun _ => true, rest)
        | _, _ => some ((· == octet), rest)
      let isRepeated := rest.head? == some '*'
      let (items, endsLine) ← readItems fuel (if isRepeated then rest.tail else rest)
      return (⟨accepts, isRepeated⟩ :: items, endsLine)

/-- The pattern that a word spells. -/
def read? (octets : List Char) : Option Pattern := do
  let startsLine := octets.head? == some '^'
  let (items, endsLine) ← readItems (octets.length + 1) (if startsLine then octets.tail else octets)
  return ⟨startsLine, items, endsLine⟩

/-- What is left behind the longest match of items. -/
def afterItems (endsLine : Bool) : List PatternItem → List Char → Option (List Char)
  | [], octets => if endsLine && !octets.isEmpty then none else some octets
  | item :: items, octets =>
      if item.isRepeated then
        (List.range ((octets.takeWhile item.accepts).length + 1)).reverse.findSome? fun count =>
          afterItems endsLine items (octets.drop count)
      else
        match octets with
        | octet :: rest => if item.accepts octet then afterItems endsLine items rest else none
        | [] => none

/-- A line with matches replaced, the first one or all, from a place of it on; `fuel` bounds the
number of places. -/
def replaceFrom (pattern : Pattern) (change : List Char → List Char) (replacesAll : Bool) :
    Nat → Bool → List Char → List Char
  | 0, _, octets => octets
  | fuel + 1, isStart, octets =>
      let found :=
        if pattern.startsLine && !isStart then none
        else afterItems pattern.endsLine pattern.items octets
      match found with
      | some rest =>
          let matched := octets.take (octets.length - rest.length)
          let kept := if matched.isEmpty then rest.take 1 else []
          let rest := rest.drop kept.length
          change matched ++ kept ++
            if replacesAll && !(kept.isEmpty && matched.isEmpty) then
              replaceFrom pattern change true fuel false rest
            else rest
      | none =>
          match octets with
          | octet :: rest => octet :: replaceFrom pattern change replacesAll fuel false rest
          | [] => []

/-- A line with matches replaced. -/
def replace (pattern : Pattern) (change : List Char → List Char) (replacesAll : Bool)
    (line : List Char) : List Char :=
  pattern.replaceFrom change replacesAll (line.length + 1) true line

/-- Whether a line holds a match. -/
def occursIn (pattern : Pattern) (line : List Char) : Bool :=
  let starts := if pattern.startsLine then [0] else List.range (line.length + 1)
  starts.any fun start =>
    (afterItems pattern.endsLine pattern.items (line.drop start)).isSome

end Pattern

/-- Writes the lines that hold a match; there has to be one. -/
def grep : Tool := fun call =>
  match call.arguments with
  | [word] =>
      match Pattern.read? word.toList with
      | some pattern =>
          let found := ((lines call.input).map withoutEnd).filter pattern.occursIn
          ⟨.exited (if found.isEmpty then 1 else 0), ended found, [], []⟩
      | none => Tool.refusing "grep: unknown pattern" call
  | _ => Tool.refusing "grep: unknown arguments" call

/-- The lines that a command of the stream editor is for. -/
inductive LineAddress where
  | every
  | last
  | matching (pattern : Pattern)

/-- What a command of the stream editor does. -/
inductive LineEdit where
  | substitute (pattern : Pattern) (replacement : List Char) (replacesAll : Bool)
  | print
  | delete

namespace LineEdit

/-- Reads up to a delimiter that has no backslash in front of it. -/
def readDelimited (delimiter : Char) : List Char → Option (List Char × List Char)
  | [] => none
  | '\\' :: octet :: rest => do
      let (part, rest) ← readDelimited delimiter rest
      return (if octet = delimiter then octet :: part else '\\' :: octet :: part, rest)
  | octet :: rest =>
      if octet = delimiter then some ([], rest)
      else (readDelimited delimiter rest).map fun (part, rest) => (octet :: part, rest)

/-- What a replacement stands for, given the match. -/
def filled (matched : List Char) : List Char → List Char
  | '\\' :: 'n' :: rest => '\n' :: filled matched rest
  | '\\' :: octet :: rest => octet :: filled matched rest
  | '&' :: rest => matched ++ filled matched rest
  | octet :: rest => octet :: filled matched rest
  | [] => []

/-- Reads the address of a command. -/
def readAddress : List Char → Option (LineAddress × List Char)
  | '$' :: rest => some (.last, rest)
  | '/' :: rest => do
      let (spelled, rest) ← readDelimited '/' rest
      return (.matching (← Pattern.read? spelled), rest)
  | octets => some (.every, octets)

/-- The command that a word spells. -/
def read? (word : String) : Option (LineAddress × LineEdit) := do
  let (address, rest) ← readAddress (trim word.toList)
  match rest with
  | ['p'] => return (address, .print)
  | ['d'] => return (address, .delete)
  | 's' :: delimiter :: rest =>
      let (spelled, rest) ← readDelimited delimiter rest
      let (replacement, flags) ← readDelimited delimiter rest
      let pattern ← Pattern.read? spelled
      match flags with
      | [] => return (address, .substitute pattern replacement false)
      | ['g'] => return (address, .substitute pattern replacement true)
      | _ => none
  | _ => none

/-- Whether a command is for a line. -/
def concerns (isLast : Bool) (line : List Char) : LineAddress → Bool
  | .every => true
  | .last => isLast
  | .matching pattern => pattern.occursIn line

/-- What is written of a line, by `print` and in the end. -/
def run (isQuiet isLast : Bool) : List (LineAddress × LineEdit) → List Char → List (List Char)
  | [], line => if isQuiet then [] else [line]
  | (address, edit) :: edits, line =>
      if concerns isLast line address then
        match edit with
        | .substitute pattern replacement replacesAll =>
            run isQuiet isLast edits
              (pattern.replace (filled · replacement) replacesAll line)
        | .print => line :: run isQuiet isLast edits line
        | .delete => []
      else run isQuiet isLast edits line

/-- The lines that are written for lines that are read; an open line stays open. -/
def runAll (isQuiet : Bool) (edits : List (LineAddress × LineEdit)) :
    List (List Char) → List (List Char)
  | [] => []
  | line :: rest =>
      let content := withoutEnd line
      (run isQuiet rest.isEmpty edits content).map (· ++ line.drop content.length) ++
        runAll isQuiet edits rest

/-- The words that spell commands. -/
def scripts? : List String → Option (List String)
  | [] => some []
  | "-e" :: script :: rest => (scripts? rest).map (script :: ·)
  | _ => none

end LineEdit

/-- Edits the lines of the input. -/
def sed : Tool := .lineFilter "sed" fun words => do
  let (isQuiet, words) :=
    match words with
    | "-n" :: words => (true, words)
    | _ => (false, words)
  let scripts ←
    match words with
    | [script] => some [script]
    | _ => LineEdit.scripts? words
  return LineEdit.runAll isQuiet (← scripts.mapM LineEdit.read?)

/-- What is printed of a record. -/
inductive PrintedItem where
  | literal (octets : List Char)
  /-- The number of the record. -/
  | number
  /-- A field by its number; the whole record is number zero. -/
  | field (index : Nat)

namespace PrintedItem

/-- Reads items and the brace behind them; `fuel` bounds their number. -/
def readAll : Nat → List Char → Option (List PrintedItem)
  | 0, _ => none
  | fuel + 1, octets =>
      match octets.dropWhile isSpace with
      | ['\x7d'] => some []
      | 'N' :: 'R' :: rest => (readAll fuel rest).map (.number :: ·)
      | '$' :: rest => do
          let digits := rest.takeWhile Char.isDigit
          let index ← (String.ofList digits).toNat?
          return .field index :: (← readAll fuel (rest.drop digits.length))
      | '"' :: rest => do
          let (text, rest) ← LineEdit.readDelimited '"' rest
          return .literal text :: (← readAll fuel rest)
      | _ => none

/-- The items of a program that prints each record. -/
def ofProgram? (program : String) : Option (List PrintedItem) :=
  let opening := "\x7b print ".toList
  let octets := trim program.toList
  if opening.isPrefixOf octets then readAll (octets.length + 1) (octets.drop opening.length)
  else none

/-- What is printed for an item. -/
def text (record : List Char) (number : Nat) : PrintedItem → List Char
  | .literal octets => octets
  | .number => Nat.toDigits 10 number
  | .field 0 => record
  | .field (index + 1) => ((record.splitOnP isSpace).filter (!·.isEmpty)).getD index []

end PrintedItem

/-- Prints items for each line of the input. -/
def awk : Tool := .filter "awk" fun
  | [program] => (PrintedItem.ofProgram? program).map fun items input =>
      ended (((lines input).map withoutEnd).zipIdx.map fun (record, index) =>
        items.flatMap (PrintedItem.text record (index + 1)))
  | _ => none

/-- The tools that look at lines, by name. -/
def lineTools : List (String × Tool) := [("awk", awk), ("grep", grep), ("sed", sed)]

end Program
end ForeignBindings
