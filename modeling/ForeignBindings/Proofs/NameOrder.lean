import ForeignBindings.NameOrder
import Mathlib.Data.List.Nodup

/-!
# Sorting and searching by name

Sorting brings items into name order.  If their names are pairwise distinct, they have only one
such order, so the sorted list does not depend on the order that the items came in, and a search by
halving finds an item exactly if there is one of its name.
-/

namespace ForeignBindings
namespace NameOrder

variable {α : Type} {name : α → String}

theorem pairwise_insert {item : α} {items : List α}
    (ordered : (items.map name).Pairwise (· ≤ ·)) :
    ((insert name item items).map name).Pairwise (· ≤ ·) := by
  induction items with
  | nil => simp [insert]
  | cons head tail induction =>
      obtain ⟨head_least, tail_ordered⟩ := List.pairwise_cons.mp ordered
      rw [insert]
      split
      case isTrue smaller =>
        refine List.pairwise_cons.mpr ⟨?_, induction tail_ordered⟩
        intro other inside
        rw [((insert_perm name item tail).map name).mem_iff] at inside
        rcases List.mem_cons.mp inside with rfl | inTail
        · exact Std.le_of_lt smaller
        · exact head_least other inTail
      case isFalse notSmaller =>
        have before : name item ≤ name head := String.not_lt.mp notSmaller
        refine List.pairwise_cons.mpr ⟨?_, ordered⟩
        intro other inside
        rcases List.mem_cons.mp inside with rfl | inTail
        · exact before
        · exact String.le_trans before (head_least other inTail)

theorem pairwise_sort (items : List α) : ((sort name items).map name).Pairwise (· ≤ ·) := by
  induction items with
  | nil => exact List.Pairwise.nil
  | cons item items induction => exact pairwise_insert induction

/-- In a list in name order no two neighbours share a name exactly if no two items do. -/
theorem sharedByNeighbours?_eq_none_iff {items : List α}
    (ordered : (items.map name).Pairwise (· ≤ ·)) :
    sharedByNeighbours? name items = none ↔ (items.map name).Pairwise (· < ·) := by
  induction items with
  | nil => simp [sharedByNeighbours?]
  | cons first rest induction =>
      obtain ⟨first_least, rest_ordered⟩ := List.pairwise_cons.mp ordered
      cases rest with
      | nil => simp [sharedByNeighbours?]
      | cons second rest =>
          have second_least := (List.pairwise_cons.mp rest_ordered).1
          rw [sharedByNeighbours?, List.map_cons, List.pairwise_cons]
          split
          case isTrue same =>
            simp only [reduceCtorEq, false_iff]
            intro increasing
            have before := increasing.1 (name second) List.mem_cons_self
            exact String.lt_irrefl _ (same ▸ before)
          case isFalse different =>
            have before : name first < name second :=
              Std.lt_of_le_of_ne (first_least (name second) List.mem_cons_self) different
            rw [induction rest_ordered]
            refine ⟨fun increasing => ⟨?_, increasing⟩, And.right⟩
            intro other inside
            rcases List.mem_cons.mp inside with rfl | inRest
            · exact before
            · exact Std.lt_of_lt_of_le before (second_least other inRest)

/-- In a list in name order the first name that neighbours share is the least one that occurs more
than once. -/
theorem least_of_sharedByNeighbours? {items : List α} {repeated : String}
    (ordered : (items.map name).Pairwise (· ≤ ·))
    (shared : sharedByNeighbours? name items = some repeated) :
    1 < (items.map name).count repeated ∧
      ∀ other, 1 < (items.map name).count other → repeated ≤ other := by
  fun_induction sharedByNeighbours? name items with
  | case1 first second rest same =>
      obtain rfl := Option.some.inj shared
      refine ⟨?_, fun other often => ?_⟩
      · simp [same]
      · have inside := List.count_pos_iff.mp (Nat.zero_lt_of_lt often)
        rcases List.mem_cons.mp inside with rfl | behind
        · exact String.le_refl _
        · exact (List.pairwise_cons.mp ordered).1 other behind
  | case2 first second rest different induction =>
      obtain ⟨first_least, rest_ordered⟩ := List.pairwise_cons.mp ordered
      obtain ⟨often, least⟩ := induction rest_ordered shared
      refine ⟨Nat.lt_of_lt_of_le often List.count_le_count_cons, fun other other_often => ?_⟩
      -- The first name does not occur again, as the second one is not it and already greater.
      have once : name first ∉ (second :: rest).map name := by
        intro again
        have above := first_least (name second) List.mem_cons_self
        rcases List.mem_cons.mp again with same | behind
        · exact different same
        · exact different
            (String.le_antisymm above ((List.pairwise_cons.mp rest_ordered).1 _ behind))
      by_cases same : other = name first
      · rw [same, List.map_cons, List.count_cons_self, List.count_eq_zero.mpr once] at other_often
        exact absurd other_often (Nat.lt_irrefl 1)
      · rw [List.map_cons, List.count_cons_of_ne (Ne.symm same)] at other_often
        exact least other other_often
  | case3 => cases shared

theorem nodup_of_increasing {items : List α} (increasing : (items.map name).Pairwise (· < ·)) :
    (items.map name).Nodup :=
  increasing.imp String.ne_of_lt

/-- Items with pairwise distinct names have only one order by name. -/
theorem eq_of_perm_of_increasing {items others : List α}
    (increasing : (items.map name).Pairwise (· < ·))
    (ordered : (others.map name).Pairwise (· ≤ ·)) (perm : items.Perm others) :
    items = others := by
  have items_ordered : items.Pairwise fun left right => name left ≤ name right :=
    (List.pairwise_map.mp increasing).imp Std.le_of_lt
  refine List.Perm.eq_of_pairwise ?_ items_ordered (List.pairwise_map.mp ordered) perm
  intro left right left_inside right_inside below above
  have same : name left = name right := String.le_antisymm below above
  exact List.inj_on_of_nodup_map (nodup_of_increasing increasing) left_inside
    (perm.mem_iff.mpr right_inside) same

/-- Sorting succeeds with exactly the strictly ordered permutation of the items. -/
theorem sortDistinct_eq_ok_iff {items sorted : List α} :
    sortDistinct name items = .ok sorted ↔
      sorted.Perm items ∧ (sorted.map name).Pairwise (· < ·) := by
  have ordered : ((sort name items).map name).Pairwise (· ≤ ·) := pairwise_sort items
  have perm := sort_perm name items
  rw [sortDistinct]
  constructor
  · intro succeeded
    cases shared : sharedByNeighbours? name (sort name items) with
    | some repeated =>
        rw [shared] at succeeded
        cases succeeded
    | none =>
        rw [shared] at succeeded
        cases succeeded
        exact ⟨perm, (sharedByNeighbours?_eq_none_iff ordered).mp shared⟩
  · rintro ⟨sorted_perm, increasing⟩
    obtain rfl : sorted = sort name items :=
      eq_of_perm_of_increasing increasing ordered (sorted_perm.trans perm.symm)
    simp only [(sharedByNeighbours?_eq_none_iff ordered).mpr increasing]

/-- Sorting fails with exactly the least name that occurs more than once. -/
theorem sortDistinct_eq_error_iff {items : List α} {repeated : String} :
    sortDistinct name items = .error repeated ↔
      1 < (items.map name).count repeated ∧
        ∀ other, 1 < (items.map name).count other → repeated ≤ other := by
  have ordered : ((sort name items).map name).Pairwise (· ≤ ·) := pairwise_sort items
  have counted (other : String) :
      ((sort name items).map name).count other = (items.map name).count other :=
    ((sort_perm name items).map name).count_eq other
  have least {shared : String}
      (found : sharedByNeighbours? name (sort name items) = some shared) :
      1 < (items.map name).count shared ∧
        ∀ other, 1 < (items.map name).count other → shared ≤ other := by
    simpa only [counted] using least_of_sharedByNeighbours? ordered found
  rw [sortDistinct]
  cases found : sharedByNeighbours? name (sort name items) with
  | some shared =>
      obtain ⟨often, first⟩ := least found
      simp only [Except.error.injEq]
      constructor
      · rintro rfl
        exact ⟨often, first⟩
      · rintro ⟨repeated_often, repeated_first⟩
        exact String.le_antisymm (first repeated repeated_often) (repeated_first shared often)
  | none =>
      simp only [reduceCtorEq, false_iff]
      rintro ⟨often, -⟩
      have distinct := ((sharedByNeighbours?_eq_none_iff ordered).mp found).imp String.ne_of_lt
      have once := List.nodup_iff_count_le_one.mp distinct repeated
      rw [counted] at once
      exact absurd often (Nat.not_lt.mpr once)

/-- Sorting succeeds exactly if no name occurs twice. -/
theorem exists_sortDistinct_iff {items : List α} :
    (∃ sorted, sortDistinct name items = .ok sorted) ↔ (items.map name).Nodup := by
  constructor
  · rintro ⟨sorted, succeeded⟩
    obtain ⟨perm, increasing⟩ := sortDistinct_eq_ok_iff.mp succeeded
    exact (perm.map name).nodup_iff.mp (nodup_of_increasing increasing)
  · intro distinct
    have sorted_distinct := ((sort_perm name items).map name).nodup_iff.mpr distinct
    have increasing : ((sort name items).map name).Pairwise (· < ·) :=
      (pairwise_sort items).imp₂ (fun _ _ below different => Std.lt_of_le_of_ne below different)
        sorted_distinct
    exact ⟨_, sortDistinct_eq_ok_iff.mpr ⟨sort_perm name items, increasing⟩⟩

/-- Sorting forgets the order of items with pairwise distinct names. -/
theorem sortDistinct_eq_of_perm {items others : List α} (distinct : (items.map name).Nodup)
    (perm : items.Perm others) : sortDistinct name items = sortDistinct name others := by
  obtain ⟨sorted, succeeded⟩ := exists_sortDistinct_iff.mpr distinct
  obtain ⟨sorted_perm, increasing⟩ := sortDistinct_eq_ok_iff.mp succeeded
  rw [succeeded]
  exact (sortDistinct_eq_ok_iff.mpr ⟨sorted_perm.trans perm, increasing⟩).symm

/-- A search finds only items of the name that is searched. -/
theorem mem_of_searchBetween {items : Array α} {target : String} {steps low high : Nat} {item : α}
    (found : searchBetween name items target steps low high = some item) :
    item ∈ items ∧ name item = target := by
  induction steps generalizing low high with
  | zero => cases found
  | succ steps induction =>
      rw [searchBetween] at found
      split at found
      case isFalse => cases found
      case isTrue inside =>
        cases middle : items[(low + high) / 2]? with
        | none => simp [middle] at found
        | some candidate =>
            simp only [middle] at found
            split at found
            case isTrue => exact induction found
            case isFalse notBelow =>
              split at found
              case isTrue => exact induction found
              case isFalse notAbove =>
                obtain rfl := Option.some.inj found
                have same := String.le_antisymm (String.not_lt.mp notBelow)
                  (String.not_lt.mp notAbove)
                exact ⟨Array.mem_of_getElem? middle, same⟩

/-- A search among enough positions finds the item at one of them. -/
theorem searchBetween_of_getElem? {items : Array α} {position : Nat} {item : α}
    (increasing : (items.toList.map name).Pairwise (· < ·))
    (stands : items[position]? = some item) {steps low high : Nat} (above : low ≤ position)
    (below : position < high) (inside : high ≤ items.size) (enough : high - low ≤ steps) :
    searchBetween name items (name item) steps low high = some item := by
  have grows : ∀ {left right : Nat} {first second : α}, left < right →
      items[left]? = some first → items[right]? = some second → name first < name second := by
    intro left right first second before first_stands second_stands
    obtain ⟨left_inside, rfl⟩ := Array.getElem?_eq_some_iff.mp first_stands
    obtain ⟨right_inside, rfl⟩ := Array.getElem?_eq_some_iff.mp second_stands
    have ordered := List.pairwise_iff_getElem.mp (List.pairwise_map.mp increasing)
    exact ordered left right left_inside right_inside before
  induction steps generalizing low high with
  | zero => omega
  | succ steps induction =>
      rw [searchBetween, if_pos (by omega)]
      obtain ⟨candidate, middle⟩ : ∃ candidate, items[(low + high) / 2]? = some candidate :=
        ⟨_, Array.getElem?_eq_getElem (show (low + high) / 2 < items.size by omega)⟩
      simp only [middle]
      rcases Nat.lt_trichotomy position ((low + high) / 2) with before | here | after
      · have smaller := grows before stands middle
        rw [if_pos smaller]
        exact induction above before (by omega) (by omega)
      · obtain rfl : item = candidate := Option.some.inj (stands.symm.trans (here ▸ middle))
        rw [if_neg (String.lt_irrefl _), if_neg (String.lt_irrefl _)]
      · have greater := grows after middle stands
        rw [if_neg (String.lt_asymm greater), if_pos greater]
        exact induction after below inside (by omega)

/-- In an array in name order a search finds exactly the item of the name that is searched. -/
theorem search_eq_some_iff {items : Array α}
    (increasing : (items.toList.map name).Pairwise (· < ·)) {target : String} {item : α} :
    search name items target = some item ↔ item ∈ items ∧ name item = target := by
  constructor
  · exact mem_of_searchBetween
  · rintro ⟨inside, rfl⟩
    obtain ⟨position, bound, stands⟩ := Array.getElem_of_mem inside
    have stands? : items[position]? = some item := Array.getElem?_eq_some_iff.mpr ⟨bound, stands⟩
    exact searchBetween_of_getElem? increasing stands? (Nat.zero_le _) bound (Nat.le_refl _)
      (Nat.le_refl _)

theorem firstRepeated?_eq_none_iff {seen names : List String} :
    firstRepeated? seen names = none ↔ names.Nodup ∧ ∀ name ∈ names, name ∉ seen := by
  induction names generalizing seen with
  | nil => simp [firstRepeated?]
  | cons name rest induction =>
      rw [firstRepeated?]
      split
      case isTrue known =>
        simp only [reduceCtorEq, List.forall_mem_cons, false_iff]
        exact fun fresh => fresh.2.1 (List.contains_iff_mem.mp known)
      case isFalse unknown =>
        have fresh : name ∉ seen := fun inside => unknown (List.contains_iff_mem.mpr inside)
        rw [induction, List.nodup_cons, List.forall_mem_cons]
        constructor
        · rintro ⟨distinct, apart⟩
          have notAgain : name ∉ rest := fun again => apart name again List.mem_cons_self
          exact ⟨⟨notAgain, distinct⟩, fresh, fun other inside known =>
            apart other inside (List.mem_cons_of_mem name known)⟩
        · rintro ⟨⟨notAgain, distinct⟩, -, apart⟩
          refine ⟨distinct, fun other inside known => ?_⟩
          rcases List.mem_cons.mp known with rfl | known
          · exact notAgain inside
          · exact apart other inside known

end NameOrder
end ForeignBindings
