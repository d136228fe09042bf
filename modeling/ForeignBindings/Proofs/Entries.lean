import ForeignBindings.Entries
import Mathlib.Data.List.Induction
import Mathlib.Data.List.Nodup

/-!
# Maps from insertions

A map built from a list of insertions binds the names of the list, each to its last value.  Of
insertions under distinct names it is the list itself.
-/

namespace ForeignBindings
namespace Entries

variable {α : Type} {name other : String} {value : α} {entries : Entries α}
  {insertions : List (String × α)}

theorem putList_of_not_mem {entries : List (String × α)} (fresh : name ∉ entries.map Prod.fst) :
    putList name value entries = entries ++ [(name, value)] := by
  induction entries with
  | nil => rfl
  | cons entry rest induction =>
      obtain ⟨different, fresh⟩ := by simpa [not_or] using fresh
      rw [putList, if_neg (Ne.symm different), induction (by simpa using fresh), List.cons_append]

theorem toList_foldl_put (distinct : ((entries.toList ++ insertions).map Prod.fst).Nodup) :
    (insertions.foldl (fun entries insertion => entries.put insertion.1 insertion.2)
      entries).toList = entries.toList ++ insertions := by
  induction insertions generalizing entries with
  | nil => simp
  | cons insertion others induction =>
      have fresh : insertion.1 ∉ entries.toList.map Prod.fst := by
        rw [List.map_append, List.map_cons] at distinct
        exact fun inside => List.disjoint_of_nodup_append distinct inside List.mem_cons_self
      have put : (entries.put insertion.1 insertion.2).toList = entries.toList ++ [insertion] :=
        putList_of_not_mem fresh
      rw [List.foldl_cons, induction]
      · rw [put, List.append_assoc, List.singleton_append]
      · rwa [put, List.append_assoc, List.singleton_append]

/-- Insertions under distinct names stay as they are. -/
theorem toList_ofList (distinct : (insertions.map Prod.fst).Nodup) :
    (ofList insertions).toList = insertions :=
  toList_foldl_put (by simpa using distinct)

theorem ofList_toList (entries : Entries α) : ofList entries.toList = entries := by
  have same := toList_ofList entries.names_nodup
  cases entries
  cases built : ofList _
  simp_all

theorem find?_put (entries : Entries α) (name other : String) (value : α) :
    (entries.put name value).find? other =
      if name = other then some value else entries.find? other := by
  simp only [find?, toList_put]
  induction entries.toList with
  | nil => by_cases same : name = other <;> simp [putList, same]
  | cons entry rest induction =>
      by_cases here : entry.1 = name
      · by_cases same : name = other <;> simp [putList, here, same]
      · rw [putList, if_neg here]
        by_cases found : entry.1 = other
        · have different : name ≠ other := fun same => here (found.trans same.symm)
          simp [found, different]
        · simpa [found] using induction

/-- A map from insertions binds a name to its last value. -/
theorem find?_ofList (insertions : List (String × α)) (name : String) :
    (ofList insertions).find? name =
      (insertions.reverse.find? fun insertion => insertion.1 == name).map Prod.snd := by
  induction insertions using List.reverseRecOn with
  | nil => rfl
  | append_singleton insertions insertion induction =>
      have last : ofList (insertions ++ [insertion]) =
          (ofList insertions).put insertion.1 insertion.2 := by simp [ofList]
      rw [last, find?_put, induction]
      by_cases same : insertion.1 = name <;> simp [same]

theorem mem_names_iff {entries : Entries α} {name : String} :
    name ∈ entries.names ↔ (entries.find? name).isSome := by
  simp [names, find?]

theorem contains_iff {entries : Entries α} {name : String} :
    entries.contains name = true ↔ name ∈ entries.names := by
  simp [contains, names]

/-- A map from insertions binds exactly the names of the insertions. -/
theorem mem_names_ofList {insertions : List (String × α)} {name : String} :
    name ∈ (ofList insertions).names ↔ name ∈ insertions.map Prod.fst := by
  rw [mem_names_iff, find?_ofList]
  simp

end Entries
end ForeignBindings
