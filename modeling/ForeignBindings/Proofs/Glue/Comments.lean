import ForeignBindings.Proofs.Glue.Parts
import ForeignBindings.Proofs.Text.Lines
import Mathlib.Data.List.Chain

/-!
# Ends of documentation comments

A block comment ends at the first `*/` behind its start.  The comment of a documentation text ends
with its own last line, and the documented part of the module follows, exactly if the text itself
holds no `*/`.  If it does, the comment ends within the text and the rest of it is read as code.
-/

namespace ForeignBindings
namespace Glue

/-- What follows the first end of a comment in a text. -/
def behindCommentEnd? : List Char → Option (List Char)
  | [] => none
  | '*' :: '/' :: rest => some rest
  | _ :: rest => behindCommentEnd? rest

/-- What follows the block comment that a text starts with. -/
def behindComment? : List Char → Option (List Char)
  | '/' :: '*' :: rest => behindCommentEnd? rest
  | _ => none

/-- Whether a text holds the end of a comment. -/
def HoldsCommentEnd (letters : List Char) : Prop :=
  ['*', '/'] <:+: letters

/-- Whether two characters next to each other do not end a comment. -/
def KeepsOpen (first second : Char) : Prop :=
  ¬ (first = '*' ∧ second = '/')

instance (first second : Char) : Decidable (KeepsOpen first second) :=
  inferInstanceAs (Decidable (¬ _))

theorem isChain_keepsOpen_iff {letters : List Char} :
    letters.IsChain KeepsOpen ↔ ¬ HoldsCommentEnd letters := by
  rw [List.isChain_iff_forall_rel_of_append_cons_cons]
  constructor
  · rintro stays ⟨front, rest, rfl⟩
    exact stays (List.append_assoc front ['*', '/'] rest) ⟨rfl, rfl⟩
  · rintro absent first second front rest rfl ⟨rfl, rfl⟩
    exact absent ⟨front, rest, by simp⟩

instance (letters : List Char) : Decidable (HoldsCommentEnd letters) :=
  decidable_of_iff' _ (not_iff_comm.mp isChain_keepsOpen_iff.symm).symm

theorem behindCommentEnd?_of_isChain {front : List Char}
    (stays : (front ++ ['*']).IsChain KeepsOpen) (rest : List Char) :
    behindCommentEnd? (front ++ '*' :: '/' :: rest) = some rest := by
  induction front with
  | nil => rfl
  | cons letter front induction =>
      obtain ⟨next, stays⟩ := List.isChain_cons.mp stays
      rw [List.cons_append, behindCommentEnd?, induction stays]
      rintro after rfl same
      cases front with
      | nil => cases same
      | cons second front => exact next second (by simp) ⟨rfl, (List.cons.inj same).1⟩

theorem exists_behindCommentEnd? {front : List Char} (ends : HoldsCommentEnd front) :
    ∃ more, ∀ rest, behindCommentEnd? (front ++ rest) = some (more ++ rest) := by
  fun_induction behindCommentEnd? front with
  | case1 => cases List.infix_nil.mp ends
  | case2 more => exact ⟨more, fun rest => rfl⟩
  | case3 letter front later induction =>
      have inside : HoldsCommentEnd front := by
        refine (List.infix_cons_iff.mp ends).resolve_left fun first => ?_
        obtain ⟨rfl, rest, rfl⟩ := List.cons_prefix_cons.mp first
        exact later rest rfl rfl
      obtain ⟨more, found⟩ := induction inside
      refine ⟨more, fun rest => ?_⟩
      rw [List.cons_append, behindCommentEnd?, found]
      rintro after rfl same
      cases front with
      | nil => cases List.infix_nil.mp inside
      | cons second front => exact later front rfl (by rw [(List.cons.inj same).1])

theorem behindCommentEnd?_eq_none_iff {letters : List Char} :
    behindCommentEnd? letters = none ↔ ¬ HoldsCommentEnd letters := by
  constructor
  · intro none ends
    obtain ⟨more, found⟩ := exists_behindCommentEnd? ends
    have here := found []
    rw [List.append_nil, none] at here
    cases here
  · intro absent
    fun_induction behindCommentEnd? letters with
    | case1 => rfl
    | case2 rest => exact absurd ⟨[], rest, rfl⟩ absent
    | case3 letter rest later induction =>
        exact induction fun inside => absent (List.infix_cons_iff.mpr (.inr inside))

theorem keepsOpen_of_isBlank {first second : Char}
    (blank : Text.isBlank first ∨ Text.isBlank second) : KeepsOpen first second := by
  rintro ⟨rfl, rfl⟩
  revert blank
  decide

/-- A blank between two texts keeps what they hold apart. -/
theorem isChain_append_cons_blank {blank : Char} (isBlank : Text.isBlank blank)
    {letters rest : List Char} :
    (letters ++ blank :: rest).IsChain KeepsOpen ↔
      letters.IsChain KeepsOpen ∧ rest.IsChain KeepsOpen := by
  rw [List.isChain_append, List.isChain_cons]
  constructor
  · exact fun stays => ⟨stays.1, stays.2.1.2⟩
  · refine fun stays => ⟨stays.1, ⟨fun next _ => ?_, stays.2⟩, ?_⟩
    · exact keepsOpen_of_isBlank (.inl isBlank)
    · rintro last - _ ⟨⟩
      exact keepsOpen_of_isBlank (.inr isBlank)

theorem isChain_cons_blank {blank : Char} (isBlank : Text.isBlank blank) {letters : List Char} :
    (blank :: letters).IsChain KeepsOpen ↔ letters.IsChain KeepsOpen :=
  (@isChain_append_cons_blank blank isBlank [] letters).trans (and_iff_right .nil)

theorem isChain_append_of_isBlank {blanks letters : List Char}
    (blank : ∀ letter ∈ blanks, Text.isBlank letter) :
    (blanks ++ letters).IsChain KeepsOpen ↔ letters.IsChain KeepsOpen := by
  induction blanks with
  | nil => rfl
  | cons letter blanks induction =>
      obtain ⟨isBlank, blank⟩ := List.forall_mem_cons.mp blank
      rw [List.cons_append, isChain_cons_blank isBlank, induction blank]

theorem isChain_append_isBlank {blanks letters : List Char}
    (blank : ∀ letter ∈ blanks, Text.isBlank letter) :
    (letters ++ blanks).IsChain KeepsOpen ↔ letters.IsChain KeepsOpen := by
  cases blanks with
  | nil => rw [List.append_nil]
  | cons letter blanks =>
      obtain ⟨isBlank, blank⟩ := List.forall_mem_cons.mp blank
      have others : (blanks ++ []).IsChain KeepsOpen ↔ [].IsChain KeepsOpen :=
        isChain_append_of_isBlank blank
      rw [List.append_nil] at others
      rw [isChain_append_cons_blank isBlank, others]
      exact and_iff_left .nil

theorem isChain_trimEnd_iff {letters : List Char} :
    (Text.trimEnd letters).IsChain KeepsOpen ↔ letters.IsChain KeepsOpen := by
  have split : Text.trimEnd letters ++ (letters.reverse.takeWhile Text.isBlank).reverse =
      letters := by
    rw [Text.trimEnd, ← List.reverse_append, List.takeWhile_append_dropWhile, List.reverse_reverse]
  conv => rhs; rw [← split]
  refine (isChain_append_isBlank fun letter inside => ?_).symm
  exact List.all_eq_true.mp List.all_takeWhile letter (List.mem_reverse.mp inside)

theorem isChain_trim_iff {letters : List Char} :
    (Text.trim letters).IsChain KeepsOpen ↔ letters.IsChain KeepsOpen := by
  have split := List.takeWhile_append_dropWhile (p := Text.isBlank) (l := letters)
  rw [Text.trim, isChain_trimEnd_iff]
  conv => rhs; rw [← split]
  exact (isChain_append_of_isBlank (List.all_eq_true.mp List.all_takeWhile)).symm

/-- What a text and its first line start with matters alike to the character before them. -/
theorem keepsOpen_head?_lines {text first : List Char} {more : List (List Char)}
    (split : Text.lines text = first :: more) (letter : Char) :
    (∀ next ∈ first.head?, KeepsOpen letter next) ↔ ∀ next ∈ text.head?, KeepsOpen letter next := by
  have lineEnd {letter blank : Char} (isBlank : Text.isBlank blank) (rest : List Char) :
      ∀ next ∈ (blank :: rest).head?, KeepsOpen letter next := by
    rintro _ ⟨⟩
    exact keepsOpen_of_isBlank (.inr isBlank)
  rw [Text.lines.eq_def] at split
  split at split
  case h_1 => cases split
  case h_2 rest =>
    cases split
    exact iff_of_true nofun (lineEnd (by decide) rest)
  case h_3 rest =>
    cases split
    exact iff_of_true nofun (lineEnd (by decide) _)
  case h_4 =>
    split at split
    all_goals
      cases split
      rfl

/-- A text ends no comment exactly if none of its lines does. -/
theorem isChain_lines_iff {text : List Char} :
    (∀ line ∈ Text.lines text, line.IsChain KeepsOpen) ↔ text.IsChain KeepsOpen := by
  fun_induction Text.lines text with
  | case1 => simp
  | case2 rest induction =>
      rw [List.forall_mem_cons, induction, isChain_cons_blank (by decide)]
      exact and_iff_right .nil
  | case3 rest induction =>
      rw [List.forall_mem_cons, induction, isChain_cons_blank (by decide),
        isChain_cons_blank (by decide)]
      exact and_iff_right .nil
  | case4 letter rest notFeed notReturn none induction =>
      obtain rfl : rest = [] := by
        rw [Text.lines.eq_def] at none
        grind
      simp
  | case5 letter rest notFeed notReturn first more found induction =>
      rw [found, List.forall_mem_cons] at induction
      rw [List.forall_mem_cons, List.isChain_cons, List.isChain_cons, ← induction,
        keepsOpen_head?_lines found, and_assoc]

theorem isChain_star_blank {blank : Char} (isBlank : Text.isBlank blank) {letters : List Char} :
    ('*' :: blank :: letters).IsChain KeepsOpen ↔ letters.IsChain KeepsOpen := by
  rw [List.isChain_cons_cons, isChain_cons_blank isBlank]
  exact and_iff_right (keepsOpen_of_isBlank (.inr isBlank))

theorem isChain_docLine_append {line rest : List Char} :
    (docLine line ++ rest).IsChain KeepsOpen ↔
      line.IsChain KeepsOpen ∧ rest.IsChain KeepsOpen := by
  rw [← @isChain_trimEnd_iff line, docLine]
  cases Text.trimEnd line with
  | nil =>
      have printed : [' ', '*', '\n'] ++ rest = ' ' :: '*' :: '\n' :: rest := rfl
      rw [List.isEmpty_nil, if_pos rfl, printed, isChain_cons_blank (by decide),
        isChain_star_blank (by decide)]
      exact (and_iff_right .nil).symm
  | cons letter content =>
      have printed : ' ' :: '*' :: ' ' :: (letter :: content) ++ ['\n'] ++ rest =
          ' ' :: '*' :: ' ' :: (letter :: content ++ '\n' :: rest) := by simp
      rw [List.isEmpty_cons, if_neg Bool.false_ne_true, printed, isChain_cons_blank (by decide),
        isChain_star_blank (by decide), isChain_append_cons_blank (by decide)]

theorem isChain_flatMap_docLine {lines : List (List Char)} {rest : List Char} :
    (lines.flatMap docLine ++ rest).IsChain KeepsOpen ↔
      (∀ line ∈ lines, line.IsChain KeepsOpen) ∧ rest.IsChain KeepsOpen := by
  induction lines with
  | nil => simp
  | cons line lines induction =>
      rw [List.flatMap_cons, List.append_assoc, isChain_docLine_append, induction,
        List.forall_mem_cons, and_assoc]

/-- What stands in the comment of a documentation text before its last line. -/
def commentBody (docs : List Char) : List Char :=
  '*' :: '\n' :: (Text.lines (Text.trim docs)).flatMap docLine

theorem toList_docComment {docs : String} (visible : Text.trim docs.toList ≠ [])
    (rest : List Char) :
    (docComment docs).toList ++ rest =
      '/' :: '*' :: (commentBody docs.toList ++ (" */\n".toList ++ rest)) := by
  have notEmpty : ¬ (Text.trim docs.toList).isEmpty := by simpa using visible
  rw [docComment, docChars, if_neg notEmpty, String.toList_ofList, commentBody, List.append_assoc,
    List.append_assoc]
  rfl

theorem holdsCommentEnd_commentBody {docs : List Char} :
    HoldsCommentEnd (commentBody docs) ↔ HoldsCommentEnd docs := by
  have body := @isChain_flatMap_docLine (Text.lines (Text.trim docs)) []
  rw [List.append_nil, and_iff_left List.IsChain.nil] at body
  rw [← not_iff_not, ← isChain_keepsOpen_iff, ← isChain_keepsOpen_iff, commentBody,
    isChain_star_blank (by decide), body, isChain_lines_iff, isChain_trim_iff]

/-- The comment of a text that holds no end of a comment ends with its own last line. -/
theorem behindComment?_docComment {docs : String} (visible : Text.trim docs.toList ≠ [])
    (stays : ¬ HoldsCommentEnd docs.toList) (rest : List Char) :
    behindComment? ((docComment docs).toList ++ rest) = some ('\n' :: rest) := by
  have lastLine : commentBody docs.toList ++ (" */\n".toList ++ rest) =
      (commentBody docs.toList ++ [' ']) ++ '*' :: '/' :: '\n' :: rest := by
    rw [List.append_assoc]
    rfl
  have body_open : (commentBody docs.toList ++ [' '] ++ ['*']).IsChain KeepsOpen := by
    rw [List.append_assoc, List.singleton_append, isChain_append_cons_blank (by decide)]
    exact ⟨isChain_keepsOpen_iff.mpr (stays ∘ holdsCommentEnd_commentBody.mp), .singleton _⟩
  rw [toList_docComment visible, behindComment?, lastLine, behindCommentEnd?_of_isChain body_open]

/-- If a documentation text holds the end of a comment, its comment ends within the text, and the
last line of the comment is among what follows. -/
theorem exists_behindComment?_docComment {docs : String} (visible : Text.trim docs.toList ≠ [])
    (ends : HoldsCommentEnd docs.toList) :
    ∃ more, ∀ rest, behindComment? ((docComment docs).toList ++ rest) =
      some (more ++ " */\n".toList ++ rest) := by
  obtain ⟨more, found⟩ := exists_behindCommentEnd? (holdsCommentEnd_commentBody.mpr ends)
  refine ⟨more, fun rest => ?_⟩
  rw [toList_docComment visible, behindComment?, found, List.append_assoc]

/-- The comment of a documentation text that is not blank ends with its own last line, and the
documented declaration or wrapper follows, exactly if the text holds no end of a comment.  If it
does, what is read behind the comment is the rest of the text with the last line of the comment. -/
theorem docs_end_with_comment_iff {docs : String} (visible : Text.trim docs.toList ≠ [])
    (exported : Bool) :
    (∀ rest, behindComment? ((docComment docs).toList ++ rest) = some ('\n' :: rest) ↔
        ¬ HoldsCommentEnd docs.toList) ∧
      (∀ declaration : Declaration, declaration.docs = docs →
        (behindComment? (declarationText exported declaration).toList =
            some ('\n' :: (declarationText exported declaration.withoutDocs).toList) ↔
          ¬ HoldsCommentEnd docs.toList)) ∧
      (∀ wrapper : Wrapper, wrapper.docs = docs →
        (behindComment? (wrapperText exported wrapper).toList =
            some ('\n' :: (wrapperText exported wrapper.withoutDocs).toList) ↔
          ¬ HoldsCommentEnd docs.toList)) ∧
      (HoldsCommentEnd docs.toList →
        ∃ more, ∀ rest, behindComment? ((docComment docs).toList ++ rest) =
          some (more ++ " */\n".toList ++ rest)) := by
  have followed (rest : List Char) :
      behindComment? ((docComment docs).toList ++ rest) = some ('\n' :: rest) ↔
        ¬ HoldsCommentEnd docs.toList := by
    refine ⟨fun ends holds => ?_, fun stays => behindComment?_docComment visible stays rest⟩
    obtain ⟨more, found⟩ := exists_behindComment?_docComment visible holds
    have lengths := congrArg List.length (Option.some.inj ((found rest).symm.trans ends))
    simp at lengths
    omega
  refine ⟨followed, fun declaration documented => ?_, fun wrapper documented => ?_,
    exists_behindComment?_docComment visible⟩
  · rw [declarationText_eq, documented, String.toList_append, followed]
  · rw [wrapperText_eq, documented, String.toList_append, followed]

/-- A documentation text with a star and a slash that are kept apart in three ways. -/
def nearMissDocs : String := "Frees * / the handle **\r\n/ and /* nothing else."

/-- The wrapper of a function with that documentation. -/
def releaseWrapper : Wrapper :=
  ⟨nearMissDocs, "release", [], .void, [], [], "rawResult", .name "rawResult"⟩

theorem docs_end_with_comment_iff_nearMissDocs :
    Text.trim nearMissDocs.toList ≠ [] ∧ releaseWrapper.docs = nearMissDocs ∧
      behindComment? (wrapperText true releaseWrapper).toList =
        some ('\n' :: (wrapperText true releaseWrapper.withoutDocs).toList) := by
  have visible : Text.trim nearMissDocs.toList ≠ [] := by decide
  have stays : ¬ HoldsCommentEnd nearMissDocs.toList := by decide
  exact ⟨visible, rfl,
    ((docs_end_with_comment_iff visible true).2.2.1 releaseWrapper rfl).mpr stays⟩

/-- The comment of a text with an end of a comment ends before its own last line. -/
theorem docComment_ends_within_docs :
    behindComment? (docComment "a */ b").toList = some " b\n */\n".toList := by
  decide

end Glue
end ForeignBindings
