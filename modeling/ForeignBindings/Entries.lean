/-!
# Ordered entries

Maps from names to values that keep the order in which the names first came.  A repeated name
keeps its first position and takes the last value, so the names of a map are pairwise distinct.
-/

namespace ForeignBindings

/-- A map from names to values in the order of the first insertions. -/
structure Entries (α : Type) where
  /-- The names with their values. -/
  toList : List (String × α)
  /-- No name occurs twice. -/
  names_nodup : (toList.map Prod.fst).Nodup
  deriving DecidableEq, Repr

namespace Entries

/-- The list with the value of `name` replaced, or with a new entry at its end. -/
def putList {α : Type} (name : String) (value : α) : List (String × α) → List (String × α)
  | [] => [(name, value)]
  | entry :: rest =>
      if entry.1 = name then (name, value) :: rest else entry :: putList name value rest

theorem mem_names_putList {α : Type} {name other : String} {value : α}
    {entries : List (String × α)} :
    other ∈ (putList name value entries).map Prod.fst ↔
      other = name ∨ other ∈ entries.map Prod.fst := by
  induction entries with
  | nil => simp [putList]
  | cons entry rest induction =>
      by_cases same : entry.1 = name
      · simp [putList, same]
      · simp only [putList, same, if_false, List.map_cons, List.mem_cons, induction]
        grind

theorem nodup_putList {α : Type} {name : String} {value : α} {entries : List (String × α)}
    (distinct : (entries.map Prod.fst).Nodup) :
    ((putList name value entries).map Prod.fst).Nodup := by
  induction entries with
  | nil => simp [putList]
  | cons entry rest induction =>
      obtain ⟨fresh, rest_distinct⟩ := List.nodup_cons.mp distinct
      by_cases same : entry.1 = name
      · simpa [putList, same] using ⟨by simpa [same] using fresh, rest_distinct⟩
      · simp only [putList, same, if_false, List.map_cons, List.nodup_cons]
        refine ⟨?_, induction rest_distinct⟩
        rw [mem_names_putList]
        exact fun found => found.elim same fresh

/-- The map without entries. -/
def empty {α : Type} : Entries α := ⟨[], by simp⟩

instance {α : Type} : Inhabited (Entries α) := ⟨empty⟩

/-- The map with `name` bound to `value`. -/
def put {α : Type} (entries : Entries α) (name : String) (value : α) : Entries α :=
  ⟨putList name value entries.toList, nodup_putList entries.names_nodup⟩

/-- The map that a list of insertions builds. -/
def ofList {α : Type} (insertions : List (String × α)) : Entries α :=
  insertions.foldl (fun entries insertion => entries.put insertion.1 insertion.2) empty

/-- The names of a map in order. -/
def names {α : Type} (entries : Entries α) : List String :=
  entries.toList.map Prod.fst

/-- The value bound to a name. -/
def find? {α : Type} (entries : Entries α) (name : String) : Option α :=
  (entries.toList.find? fun entry => entry.1 == name).map Prod.snd

/-- Whether a name is bound. -/
def contains {α : Type} (entries : Entries α) (name : String) : Bool :=
  entries.toList.any fun entry => entry.1 == name

/-- The map with every value changed by a function. -/
def map {α β : Type} (change : α → β) (entries : Entries α) : Entries β :=
  ⟨entries.toList.map fun entry => (entry.1, change entry.2), by
    have same : (entries.toList.map fun entry => (entry.1, change entry.2)).map Prod.fst =
        entries.toList.map Prod.fst := by simp
    rw [same]
    exact entries.names_nodup⟩

@[simp]
theorem toList_empty {α : Type} : (empty : Entries α).toList = [] := rfl

@[simp]
theorem toList_put {α : Type} (entries : Entries α) (name : String) (value : α) :
    (entries.put name value).toList = putList name value entries.toList := rfl

@[simp]
theorem toList_map {α β : Type} (change : α → β) (entries : Entries α) :
    (entries.map change).toList = entries.toList.map fun entry => (entry.1, change entry.2) := rfl

end Entries
end ForeignBindings
