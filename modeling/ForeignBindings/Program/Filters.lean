import ForeignBindings.Program.Tool

/-!
# Filters

The tools that write what they read in another order or with other octets, and those that only
write their arguments.
-/

namespace ForeignBindings
namespace Program

open Octets

/-- Copies the input. -/
def cat : Tool := .filter "cat" fun
  | [] | ["-"] => some id
  | _ => none

/-- A copy is the input byte by byte, whatever text it is or none. -/
theorem program_cat (environment : List (String × String)) (input : List UInt8) :
    cat.program environment [] input = ⟨.exited 0, input, [], []⟩ := by
  have copied : cat.program environment [] input =
      ⟨.exited 0, toBytes (ofBytes input), [], []⟩ := rfl
  rw [copied, toBytes_ofBytes]

/-- The last line first. -/
def tac : Tool := .lineFilter "tac" fun words =>
  if words.isEmpty then some List.reverse else none

/-- Each line from its last octet to its first one. -/
def rev : Tool := .lineFilter "rev" fun words =>
  if words.isEmpty then
    some (List.map fun line =>
      (withoutEnd line).reverse ++ line.drop (withoutEnd line).length)
  else none

/-- The lines in the order of their octets. -/
def sort : Tool := .filter "sort" fun words =>
  let ordered (input : List Char) : List (List Char) :=
    ((lines input).map withoutEnd).mergeSort fun first second =>
      !second.lex first fun one other => one.toNat < other.toNat
  match words with
  | [] => some (ended ∘ ordered)
  | ["-r"] => some (ended ∘ List.reverse ∘ ordered)
  | ["-u"] => some (ended ∘ List.eraseDups ∘ ordered)
  | _ => none

/-- The number that a word spells with or without a sign before it. -/
def signedNumber? (word : String) : Option (Option Char × Nat) :=
  match word.toList with
  | '-' :: digits => (String.ofList digits).toNat?.map (some '-', ·)
  | '+' :: digits => (String.ofList digits).toNat?.map (some '+', ·)
  | _ => word.toNat?.map (none, ·)

/-- The first lines, or all but the last ones. -/
def head : Tool := .lineFilter "head" fun
  | [] => some (List.take 10)
  | ["-n", count] => (signedNumber? count).map fun
      | (some '-', count) => fun lines => lines.take (lines.length - count)
      | (_, count) => List.take count
  | _ => none

/-- The last lines, or those from a number on. -/
def tail : Tool := .lineFilter "tail" fun
  | [] => some fun lines => lines.drop (lines.length - 10)
  | ["-n", count] => (signedNumber? count).map fun
      | (some '+', number) => List.drop (number - 1)
      | (_, count) => fun lines => lines.drop (lines.length - count)
  | _ => none

/-- The columns between two numbers of each line. -/
def cut : Tool := .filter "cut" fun
  | [word] =>
      match word.toList with
      | '-' :: 'c' :: range =>
          match (String.ofList range).splitOn "-" with
          | [first, last] =>
              let before := first.toNat?.getD 1 - 1
              some fun input => ended ((lines input).map fun line =>
                let columns := withoutEnd line
                (columns.take (last.toNat?.getD columns.length)).drop before)
          | _ => none
      | _ => none
  | _ => none

/-- The octets that escapes and ranges stand for. -/
def spelledOctets : List Char → List Char
  | '\\' :: 'n' :: rest => '\n' :: spelledOctets rest
  | '\\' :: 't' :: rest => '\t' :: spelledOctets rest
  | '\\' :: octet :: rest => octet :: spelledOctets rest
  | low :: '-' :: high :: rest =>
      (List.range' low.toNat (high.toNat + 1 - low.toNat)).map Char.ofNat ++ spelledOctets rest
  | octet :: rest => octet :: spelledOctets rest
  | [] => []

/-- The octets, each of a set only once where it is repeated. -/
def squeezed (set : List Char) : List Char → List Char
  | first :: second :: rest =>
      if first = second && set.contains first then squeezed set (second :: rest)
      else first :: squeezed set (second :: rest)
  | octets => octets

/-- What an octet is replaced by; the last replacement serves for all octets that have none. -/
def replacement (set replacements : List Char) (octet : Char) : Char :=
  match set.idxOf? octet with
  | some index => (replacements[index]?).getD (replacements.getLast?.getD octet)
  | none => octet

/-- Replaces, deletes or squeezes octets. -/
def tr : Tool := .filter "tr" fun
  | ["-d", set] => some (List.filter fun octet => !(spelledOctets set.toList).contains octet)
  | ["-s", set] => some (squeezed (spelledOctets set.toList))
  | [set, replacements] =>
      some (List.map (replacement (spelledOctets set.toList) (spelledOctets replacements.toList)))
  | _ => none

/-- Writes its arguments. -/
def echo : Tool := .writing fun
  | "-n" :: words => (" ".intercalate words).toList
  | words => (" ".intercalate words ++ "\n").toList

namespace Printf

/-- A number in lower-case digits of a base; what is no number counts as zero. -/
def digits (base : Nat) (word : String) : List Char := Nat.toDigits base (word.toNat?.getD 0)

/-- The octets with spaces up to a width. -/
def padded (isLeft : Bool) (width : Nat) (octets : List Char) : List Char :=
  let spaces := List.replicate (width - octets.length) ' '
  if isLeft then octets ++ spaces else spaces ++ octets

/-- What a sign of a format makes of a word. -/
def converted : Char → String → List Char
  | 'd', word => digits 10 word
  | 'x', word => digits 16 word
  | 'o', word => digits 8 word
  | 'c', word => word.toList.take 1
  | _, word => word.toList

/-- Writes a format once with the words that it takes, and the words that are left; `fuel` bounds
its length. -/
def once : Nat → List Char → List String → List Char × List String
  | 0, _, words => ([], words)
  | _, [], words => ([], words)
  | fuel + 1, '\\' :: rest, words =>
      let (octets, rest) := escape rest
      let (others, words) := once fuel rest words
      (octets ++ others, words)
  | fuel + 1, '%' :: '%' :: rest, words =>
      let (others, words) := once fuel rest words
      ('%' :: others, words)
  | fuel + 1, '%' :: rest, words =>
      let isLeft := rest.head? == some '-'
      let rest := if isLeft then rest.tail else rest
      let width := rest.takeWhile Char.isDigit
      let rest := rest.drop width.length
      let octets := converted (rest.headD 's') (words.headD "")
      let (others, words) := once fuel rest.tail words.tail
      (padded isLeft ((String.ofList width).toNat?.getD 0) octets ++ others, words)
  | fuel + 1, octet :: rest, words =>
      let (others, words) := once fuel rest words
      (octet :: others, words)

/-- Writes a format again until no word is left; `rounds` bounds how often. -/
def written (format : List Char) : Nat → List String → List Char
  | 0, _ => []
  | rounds + 1, words =>
      let (octets, left) := once (format.length + 1) format words
      if left.isEmpty || left.length = words.length then octets
      else octets ++ written format rounds left

end Printf

/-- Writes its arguments in a format. -/
def printf : Tool := .writing fun
  | format :: words => Printf.written format.toList (words.length + 1) words
  | [] => []

/-- The filters by name. -/
def filters : List (String × Tool) :=
  [("cat", cat), ("cut", cut), ("echo", echo), ("false", .exiting 1), ("head", head),
    ("printf", printf), ("rev", rev), ("sort", sort), ("tac", tac), ("tail", tail), ("tee", cat),
    ("tr", tr), ("true", .exiting 0)]

end Program
end ForeignBindings
