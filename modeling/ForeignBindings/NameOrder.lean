/-!
# Name order

Lists in the order of their elements' names, which is the bytewise order of UTF-8 and so the
order of code points.  Sorting keeps elements of one name in their order, the first repeated name
of a sorted list is found at neighbours, and a sorted list is searched by halving.
-/

namespace ForeignBindings
namespace NameOrder

/-- Puts an item before the first item of a sorted list whose name is not smaller. -/
def insert {α : Type} (name : α → String) (item : α) : List α → List α
  | [] => [item]
  | head :: tail =>
      if name head < name item then head :: insert name item tail else item :: head :: tail

/-- The items in the order of their names. -/
def sort {α : Type} (name : α → String) (items : List α) : List α :=
  items.foldr (insert name) []

/-- The first name that two neighbours of a list share. -/
def sharedByNeighbours? {α : Type} (name : α → String) : List α → Option String
  | first :: second :: rest =>
      if name first = name second then some (name first)
      else sharedByNeighbours? name (second :: rest)
  | _ => none

/-- The items in the order of their names, or the least name that occurs twice. -/
def sortDistinct {α : Type} (name : α → String) (items : List α) : Except String (List α) :=
  let sorted := sort name items
  match sharedByNeighbours? name sorted with
  | some repeated => .error repeated
  | none => .ok sorted

/-- Searches the positions from `low` up to but not including `high` for a name, halving them at
each step. -/
def searchBetween {α : Type} (name : α → String) (items : Array α) (target : String) :
    Nat → Nat → Nat → Option α
  | 0, _, _ => none
  | steps + 1, low, high =>
      if low < high then
        let middle := (low + high) / 2
        match items[middle]? with
        | none => none
        | some item =>
            if target < name item then searchBetween name items target steps low middle
            else if name item < target then searchBetween name items target steps (middle + 1) high
            else some item
      else none

/-- The item with a given name in an array that is in name order.  Every step leaves fewer
positions, so as many steps as there are items suffice. -/
def search {α : Type} (name : α → String) (items : Array α) (target : String) : Option α :=
  searchBetween name items target items.size 0 items.size

/-- The first name of a list that already occurred, counting `seen` as occurred. -/
def firstRepeated? : List String → List String → Option String
  | _, [] => none
  | seen, name :: rest =>
      if seen.contains name then some name else firstRepeated? (name :: seen) rest

theorem insert_perm {α : Type} (name : α → String) (item : α) (items : List α) :
    (insert name item items).Perm (item :: items) := by
  induction items with
  | nil => exact .refl _
  | cons head tail induction =>
      by_cases smaller : name head < name item
      · simp only [insert, smaller, if_true]
        exact (induction.cons head).trans (List.Perm.swap item head tail)
      · simp only [insert, smaller, if_false]
        exact .refl _

theorem sort_perm {α : Type} (name : α → String) (items : List α) :
    (sort name items).Perm items := by
  induction items with
  | nil => exact .refl _
  | cons head tail induction =>
      exact (insert_perm name head (sort name tail)).trans (induction.cons head)

end NameOrder
end ForeignBindings
