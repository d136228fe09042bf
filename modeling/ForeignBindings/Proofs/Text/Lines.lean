import ForeignBindings.Proofs.Text.Quoted
import Mathlib.Data.List.Basic

/-!
# Lines of texts

A text that is put together from lines falls into these lines again.  A carriage return within a line
does no harm; only one at its end would be taken for a part of the line's end.
-/

namespace ForeignBindings
namespace Text

/-- Whether characters are one line, without its end. -/
def IsLine (letters : List Char) : Prop :=
  '\n' ∉ letters ∧ letters.getLast? ≠ some '\r'

theorem StaysOnLine.isLine {letters : List Char} (stays : StaysOnLine letters) : IsLine letters :=
  ⟨fun inside => (stays _ inside).1 rfl,
    fun last => (stays _ (List.mem_of_getLast? last)).2 rfl⟩

theorem isLine_cons {letter next : Char} {letters : List Char} :
    IsLine (letter :: next :: letters) ↔ letter ≠ '\n' ∧ IsLine (next :: letters) := by
  rw [IsLine, IsLine, List.getLast?_cons_cons, List.mem_cons, not_or, and_assoc]
  exact and_congr_left' ne_comm

/-- A line in front of a text is its first line. -/
theorem lines_append_of_isLine {line : List Char} (isLine : IsLine line) (rest : List Char) :
    lines (line ++ '\n' :: rest) = line :: lines rest := by
  induction line with
  | nil => rfl
  | cons letter line induction =>
      cases line with
      | nil =>
          refine lines_append (List.forall_mem_singleton.mpr ⟨?_, ?_⟩) rest
          · rintro rfl
            exact isLine.1 List.mem_cons_self
          · rintro rfl
            exact isLine.2 rfl
      | cons next line =>
          obtain ⟨notFeed, isLine⟩ := isLine_cons.mp isLine
          have nextNotFeed : next ≠ '\n' := by
            rintro rfl
            exact isLine.1 List.mem_cons_self
          rw [List.cons_append, lines, induction isLine]
          · exact notFeed
          · rintro _ - same
            exact nextNotFeed (List.cons.inj same).1

/-- Texts that are lines are the first lines in front of a text. -/
theorem lines_flatMap {α : Type} {items : List α} {print : α → List Char}
    (each : ∀ item ∈ items, StaysOnLine (print item)) (rest : List Char) :
    lines (items.flatMap (fun item => print item ++ ['\n']) ++ rest) =
      items.map print ++ lines rest := by
  induction items with
  | nil => rfl
  | cons item items induction =>
      obtain ⟨first, others⟩ := List.forall_mem_cons.mp each
      rw [List.flatMap_cons, List.append_assoc, List.append_assoc, List.singleton_append,
        lines_append first, induction others, List.map_cons, List.cons_append]

/-- The lines of a text that a line feed ends, without it and with every other character. -/
def endedLines (text : List Char) : List (List Char) :=
  (text.splitOn '\n').dropLast

theorem endedLines_append {line : List Char} (whole : '\n' ∉ line) (rest : List Char) :
    endedLines (line ++ '\n' :: rest) = line :: endedLines rest := by
  rw [endedLines, endedLines, List.splitOn_append_cons_self_of_not_mem whole,
    List.dropLast_cons_of_ne_nil (List.splitOn_ne_nil '\n' rest)]

/-- A text that is put together from lines falls into these lines again. -/
theorem endedLines_flatMap {lines : List (List Char)} (whole : ∀ line ∈ lines, '\n' ∉ line) :
    endedLines (lines.flatMap (· ++ ['\n'])) = lines := by
  induction lines with
  | nil => rfl
  | cons line lines induction =>
      obtain ⟨first, others⟩ := List.forall_mem_cons.mp whole
      rw [List.flatMap_cons, List.append_assoc, List.singleton_append, endedLines_append first,
        induction others]

/-- No line holds a line feed. -/
theorem lineFeed_not_mem_of_mem_lines {text line : List Char} (inside : line ∈ lines text) :
    '\n' ∉ line := by
  fun_induction lines text generalizing line with
  | case1 => cases inside
  | case2 rest induction | case3 rest induction =>
      obtain rfl | inside := List.mem_cons.mp inside
      · exact List.not_mem_nil
      · exact induction inside
  | case4 letter rest notFeed notReturn none induction =>
      rw [List.mem_singleton.mp inside, List.mem_singleton]
      exact Ne.symm notFeed
  | case5 letter rest notFeed notReturn first more found induction =>
      rw [found] at induction
      obtain rfl | inside := List.mem_cons.mp inside
      · rw [List.mem_cons, not_or]
        exact ⟨Ne.symm notFeed, induction List.mem_cons_self⟩
      · exact induction (List.mem_cons_of_mem _ inside)

theorem mem_of_mem_trimEnd {letters : List Char} {letter : Char} (inside : letter ∈ trimEnd letters) :
    letter ∈ letters := by
  rw [trimEnd, List.mem_reverse] at inside
  exact List.mem_reverse.mp ((List.dropWhile_sublist isBlank).mem inside)

/-- What is left of characters without the blanks at their end does not end in a blank. -/
theorem isBlank_of_getLast?_trimEnd {letters : List Char} {letter : Char}
    (last : (trimEnd letters).getLast? = some letter) : isBlank letter = false := by
  rw [trimEnd, List.getLast?_reverse] at last
  have first := List.head?_dropWhile_not isBlank letters.reverse
  rw [last] at first
  exact first

/-- Blanks at the end are dropped up to the last character that is none. -/
theorem trimEnd_append {letter : Char} (visible : isBlank letter = false) (letters : List Char)
    {blanks : List Char} (blank : ∀ letter ∈ blanks, isBlank letter = true) :
    trimEnd (letters ++ letter :: blanks) = letters ++ [letter] := by
  rw [trimEnd, List.reverse_append, List.reverse_cons, List.append_assoc,
    List.dropWhile_append_of_pos fun letter inside => blank letter (List.mem_reverse.mp inside),
    List.singleton_append, List.dropWhile_cons, visible, if_neg Bool.false_ne_true,
    List.reverse_cons, List.reverse_reverse]

/-- What ends with a visible character stands before all that is dropped. -/
theorem prefix_trimEnd {letter : Char} (visible : isBlank letter = false)
    (letters rest : List Char) : letters ++ [letter] <+: trimEnd (letters ++ letter :: rest) := by
  have kept : letter :: letters.reverse <:+
      (rest.reverse ++ letter :: letters.reverse).dropWhile isBlank := by
    rw [List.dropWhile_append]
    split
    · have stops : (letter :: letters.reverse).dropWhile isBlank = letter :: letters.reverse := by
        rw [List.dropWhile_cons, visible, if_neg Bool.false_ne_true]
      exact ⟨[], stops.symm⟩
    · exact List.suffix_append _ _
  have spelled : (letters ++ letter :: rest).reverse =
      rest.reverse ++ letter :: letters.reverse := by simp
  rw [trimEnd, spelled, ← List.reverse_suffix, List.reverse_append, List.reverse_reverse]
  exact kept

/-- A part of a text stands in the text without the blanks at its end, up to blanks at the end of the
part. -/
theorem trimEnd_infix_trimEnd {part text : List Char} (inside : part <:+: text) :
    trimEnd part <:+: trimEnd text := by
  obtain ⟨before, after, rfl⟩ := inside
  obtain ⟨blanks, split⟩ : trimEnd part <+: part :=
    List.reverse_suffix.mp (by
      rw [trimEnd, List.reverse_reverse]
      exact List.dropWhile_suffix isBlank)
  cases last : (trimEnd part).getLast? with
  | none =>
      rw [List.getLast?_eq_none_iff.mp last]
      exact List.nil_infix
  | some letter =>
      obtain ⟨front, ends⟩ := List.getLast?_eq_some_iff.mp last
      have kept := prefix_trimEnd (isBlank_of_getLast?_trimEnd last) (before ++ front)
        (blanks ++ after)
      have whole : before ++ part ++ after = before ++ front ++ letter :: (blanks ++ after) := by
        rw [← split, ends]
        simp
      rw [whole, ends]
      exact (List.suffix_append before (front ++ [letter])).isInfix.trans
        (List.append_assoc before front [letter] ▸ kept).isInfix

end Text
end ForeignBindings
