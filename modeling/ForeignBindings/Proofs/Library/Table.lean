import ForeignBindings.Library.View
import ForeignBindings.Proofs.Library.Listing
import ForeignBindings.Proofs.Text.EncodedOrder
import ForeignBindings.Proofs.Text.Lines
import Mathlib.Algebra.BigOperators.Group.List.Basic
import Mathlib.Data.List.DropRight
import Mathlib.Data.List.MinMax

/-!
# Reading the table of a library

The lines of the table are the base, the policy and the files, one after the other.  The width of the
key column is counted in bytes and the padding in characters; as no text has more characters than
bytes, every key still leaves two blanks before its value.
-/

namespace ForeignBindings

/-- What a table shows a file under. -/
def ListedFile.key (file : ListedFile) : String :=
  match file.arch with
  | none => file.os
  | some arch => file.os ++ "/" ++ arch

namespace Listing

/-- The keys and values of a listing. -/
def cells (listing : Listing) : List (String × String) :=
  ("base", listing.base) :: ("policy", listing.policy) ::
    listing.files.map fun file => (file.key, file.name)

/-- The characters of a cell whose value starts at a column, if the key leaves room for blanks. -/
def cellLetters (column : Nat) (cell : String × String) : List Char :=
  cell.1.toList ++ List.replicate (column - cell.1.length) ' ' ++ cell.2.toList

/-- Whether the lines of a text are the cells of a listing, each with its value at a column and with
at least two blanks between its key and its value. -/
structure InColumns (listing : Listing) (column : Nat) (text : String) : Prop where
  lines : Text.endedLines text.toList = listing.cells.map (cellLetters column)
  apart : ∀ cell ∈ listing.cells, cell.1.length + 2 ≤ column

/-- Whether every cell of a listing stands on one line. -/
def OnLines (listing : Listing) : Prop :=
  ∀ cell ∈ listing.cells, '\n' ∉ cell.1.toList ∧ '\n' ∉ cell.2.toList

end Listing

open Listing

theorem rows_eq_cells (library : LocatedLibrary) : library.rows = library.listing.cells := by
  have platform_rows : LocatedLibrary.platformRows = fun platform =>
      (platform.2.listed platform.1).map fun file => (file.key, file.name) := by
    funext ⟨os, names⟩
    cases names with
    | single file => rfl
    | perArch files =>
        rw [FileNames.listed, List.map_map]
        rfl
  rw [LocatedLibrary.rows, Listing.cells, LocatedLibrary.listing, List.map_flatMap,
    platform_rows]

theorem length_le_utf8ByteSize (text : String) : text.length ≤ text.utf8ByteSize := by
  have bytes : text.utf8ByteSize = (Text.utf8 text).length := rfl
  rw [bytes, Text.utf8_eq_flatMap, List.length_flatMap, ← String.length_toList,
    ← List.length_map fun letter => (String.utf8EncodeChar letter).length]
  refine List.length_le_sum_of_one_le _ fun size inside => ?_
  obtain ⟨letter, -, rfl⟩ := List.mem_map.mp inside
  rw [String.length_utf8EncodeChar]
  exact letter.utf8Size_pos

theorem length_add_two_le_keyWidth {rows : List (String × String)} {row : String × String}
    (inside : row ∈ rows) : row.1.length + 2 ≤ LocatedLibrary.keyWidth rows := by
  refine Nat.add_le_add_right ((length_le_utf8ByteSize row.1).trans ?_) 2
  exact List.le_max_of_le' 0 (List.mem_map_of_mem inside) le_rfl

theorem toList_rowText (width : Nat) (row : String × String) :
    (LocatedLibrary.rowText width row).toList = cellLetters width row ++ ['\n'] := by
  simp only [LocatedLibrary.rowText, cellLetters, String.toList_append, String.toList_ofList]
  rfl

theorem lineFeed_not_mem_cellLetters {cell : String × String} (key : '\n' ∉ cell.1.toList)
    (value : '\n' ∉ cell.2.toList) (column : Nat) : '\n' ∉ cellLetters column cell := by
  have blanks : '\n' ∉ List.replicate (column - cell.1.length) ' ' := fun inside =>
    absurd (List.eq_of_mem_replicate inside) (by decide)
  rw [cellLetters, List.mem_append, List.mem_append, not_or, not_or]
  exact ⟨⟨key, blanks⟩, value⟩

/-- The table shows its library in columns. -/
theorem inColumns_table {library : LocatedLibrary} (whole : library.listing.OnLines) :
    library.listing.InColumns (LocatedLibrary.keyWidth library.rows) library.table where
  lines := by
    have printed : library.table.toList =
        (library.rows.map (cellLetters (LocatedLibrary.keyWidth library.rows))).flatMap
          (· ++ ['\n']) := by
      rw [LocatedLibrary.table, String.toList_join, List.flatMap_map, List.flatMap_map]
      simp only [toList_rowText]
    rw [rows_eq_cells] at printed ⊢
    rw [printed, Text.endedLines_flatMap]
    refine List.forall_mem_map.mpr fun cell inside => ?_
    exact lineFeed_not_mem_cellLetters (whole cell inside).1 (whole cell inside).2 _
  apart := by
    rw [← rows_eq_cells]
    exact fun cell inside => length_add_two_le_keyWidth inside

namespace Listing

/-- The key and the value of a line whose value starts at a column: the blanks in front of the value
are no part of the key. -/
def readCell (column : Nat) (line : List Char) : List Char × List Char :=
  ((line.take column).rdropWhile (· == ' '), line.drop column)

/-- The file of a key and a value: an architecture stands behind a slash. -/
def readFile (cell : List Char × List Char) : ListedFile :=
  { os := String.ofList (cell.1.takeWhile (· != '/'))
    arch := (cell.1.dropWhile (· != '/')).tail?.map String.ofList
    name := String.ofList cell.2 }

/-- The column at which the second word of a line starts. -/
def secondColumn (line : List Char) : Nat :=
  (line.takeWhile (· != ' ')).length +
    ((line.dropWhile (· != ' ')).takeWhile (· == ' ')).length

/-- What a table tells.  The policy shows at which column the values start. -/
def ofTable? (text : String) : Option Listing :=
  match Text.endedLines text.toList with
  | base :: policy :: files =>
      let column := secondColumn policy
      some
        { base := String.ofList (readCell column base).2
          policy := String.ofList (readCell column policy).2
          files := files.map fun line => readFile (readCell column line) }
  | _ => none

end Listing

theorem bne_of_not_mem {stop : Char} {letters : List Char} (free : stop ∉ letters) :
    ∀ letter ∈ letters, (letter != stop) = true :=
  fun _ inside => bne_iff_ne.mpr fun same => free (same ▸ inside)

theorem beq_of_mem_replicate (blank : Char) (count : Nat) :
    ∀ letter ∈ List.replicate count blank, (letter == blank) = true :=
  fun _ inside => beq_iff_eq.mpr (List.eq_of_mem_replicate inside)

section Cells

variable {column : Nat} {key : String} (value : String)

theorem readCell_cellLetters (fits : key.length ≤ column) (visible : key.toList.getLast? ≠ some ' ') :
    readCell column (cellLetters column (key, value)) = (key.toList, value.toList) := by
  obtain ⟨count, rfl⟩ := Nat.exists_eq_add_of_le fits
  have width : (key.toList ++ List.replicate count ' ').length = key.length + count := by
    rw [List.length_append, List.length_replicate, String.length_toList]
  have trimmed : (key.toList ++ List.replicate count ' ').rdropWhile (· == ' ') = key.toList := by
    rw [List.rdropWhile, List.reverse_append, List.reverse_replicate,
      List.dropWhile_append_of_pos (beq_of_mem_replicate ' ' count), ← List.rdropWhile,
      List.rdropWhile_eq_self_iff]
    intro some last
    exact visible (List.getLast?_eq_some_getLast some ▸ congrArg _ (beq_iff_eq.mp last))
  rw [cellLetters, Nat.add_sub_cancel_left, readCell, List.take_left' width, List.drop_left' width,
    trimmed]

theorem secondColumn_cellLetters {value : String} (fits : key.length + 2 ≤ column)
    (word : ' ' ∉ key.toList) (visible : value.toList.head? ≠ some ' ') :
    secondColumn (cellLetters column (key, value)) = column := by
  obtain ⟨count, rfl⟩ := Nat.exists_eq_add_of_le fits
  have kept := bne_of_not_mem word
  have blanks : key.length + 2 + count - key.length = count + 1 + 1 := by omega
  have nothing : value.toList.takeWhile (· == ' ') = [] := by
    cases spelled : value.toList with
    | nil => rfl
    | cons letter letters =>
        rw [spelled] at visible
        exact List.takeWhile_cons_of_neg fun same => visible (congrArg some (beq_iff_eq.mp same))
  have spelled : cellLetters (key.length + 2 + count) (key, value) =
      key.toList ++ (List.replicate (count + 1 + 1) ' ' ++ value.toList) := by
    rw [cellLetters, blanks, List.append_assoc]
  have front : (List.replicate (count + 1 + 1) ' ' ++ value.toList).takeWhile (· != ' ') = [] := rfl
  have behind : (List.replicate (count + 1 + 1) ' ' ++ value.toList).dropWhile (· != ' ') =
      List.replicate (count + 1 + 1) ' ' ++ value.toList := rfl
  rw [spelled, secondColumn, List.takeWhile_append_of_pos kept, List.dropWhile_append_of_pos kept,
    front, behind, List.takeWhile_append_of_pos (beq_of_mem_replicate ' ' _), nothing,
    List.append_nil, List.append_nil, List.length_replicate, String.length_toList]
  omega

end Cells

theorem readFile_key {file : ListedFile} (plain : '/' ∉ file.os.toList) :
    readFile (file.key.toList, file.name.toList) = file := by
  obtain ⟨os, arch, name⟩ := file
  have kept := bne_of_not_mem plain
  cases arch with
  | none =>
      simp only [readFile, ListedFile.key, List.takeWhile_eq_self_iff.mpr kept,
        List.dropWhile_eq_nil_iff.mpr kept, String.ofList_toList]
      rfl
  | some arch =>
      simp only [readFile, ListedFile.key, String.toList_append, List.append_assoc,
        List.takeWhile_append_of_pos kept, List.dropWhile_append_of_pos kept]
      simp

theorem ofTable?_of_inColumns {listing : Listing} {column : Nat} {text : String}
    (shown : listing.InColumns column text) (spelled : listing.policy.toList.head? ≠ some ' ')
    (visible : ∀ file ∈ listing.files, file.key.toList.getLast? ≠ some ' ')
    (plain : ∀ file ∈ listing.files, '/' ∉ file.os.toList) :
    ofTable? text = some listing := by
  obtain ⟨lines, apart⟩ := shown
  simp only [cells, List.forall_mem_cons, List.forall_mem_map] at apart
  obtain ⟨base_fits, policy_fits, files_fit⟩ := apart
  have read_file : ∀ file ∈ listing.files,
      readFile (readCell column (cellLetters column (file.key, file.name))) = file := by
    intro file inside
    rw [readCell_cellLetters file.name (Nat.le_of_add_right_le (files_fit file inside))
      (visible file inside), readFile_key (plain file inside)]
  have files : listing.files.map (fun file =>
      readFile (readCell column (cellLetters column (file.key, file.name)))) = listing.files :=
    (List.map_congr_left read_file).trans (List.map_id _)
  rw [ofTable?, lines, cells, List.map_cons, List.map_cons, List.map_map]
  dsimp only
  rw [secondColumn_cellLetters policy_fits (by decide) spelled,
    readCell_cellLetters _ (Nat.le_of_add_right_le base_fits) (by decide),
    readCell_cellLetters _ (Nat.le_of_add_right_le policy_fits) (by decide), List.map_map,
    String.ofList_toList, String.ofList_toList]
  exact congrArg (fun files => some { listing with files := files }) files

end ForeignBindings
