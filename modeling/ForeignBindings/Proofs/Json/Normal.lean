import ForeignBindings.Json.Value

/-!
# Normal forms of documents

A document is normal when every object is a map: no name occurs twice and the members come in the
order of their names.  Normal documents are their own normal form.
-/

namespace ForeignBindings
namespace Json

/-- A statement about documents holds if it passes from the items of an array to the array and from
the values of an object to the object. -/
@[elab_as_elim]
theorem nestedInduction {motive : Json → Prop} (null : motive .null)
    (bool : ∀ value, motive (.bool value)) (number : ∀ value, motive (.number value))
    (string : ∀ value, motive (.string value))
    (array : ∀ items, (∀ item ∈ items, motive item) → motive (.array items))
    (object : ∀ members, (∀ member ∈ members, motive member.2) → motive (.object members))
    (document : Json) : motive document := by
  refine @Json.rec motive (fun items => ∀ item ∈ items, motive item)
    (fun members => ∀ member ∈ members, motive member.2) (fun member => motive member.2)
    null bool number string array object ?_ ?_ ?_ ?_ ?_ document
  · exact fun _ absent => absurd absent List.not_mem_nil
  · exact fun _ _ first others => List.forall_mem_cons.mpr ⟨first, others⟩
  · exact fun _ absent => absurd absent List.not_mem_nil
  · exact fun _ _ first others => List.forall_mem_cons.mpr ⟨first, others⟩
  · exact fun _ _ value => value

/-- Whether the names of members come in strictly increasing order. -/
def namesIncrease (members : List (String × Json)) : Bool :=
  decide ((members.map Prod.fst).Pairwise (· < ·))

mutual

/-- Whether every object of a document lists each name once and its names in order. -/
def isNormal : Json → Bool
  | .array items => areNormalItems items
  | .object members => namesIncrease members && areNormalMembers members
  | .null | .bool _ | .number _ | .string _ => true

/-- Whether the items of an array are normal. -/
def areNormalItems : List Json → Bool
  | [] => true
  | item :: rest => isNormal item && areNormalItems rest

/-- Whether the values of the members of an object are normal. -/
def areNormalMembers : List (String × Json) → Bool
  | [] => true
  | (_, value) :: rest => isNormal value && areNormalMembers rest

end

theorem areNormalItems_iff {items : List Json} :
    areNormalItems items ↔ ∀ item ∈ items, item.isNormal := by
  induction items with
  | nil => simp [areNormalItems]
  | cons item rest induction => simp [areNormalItems, induction]

theorem areNormalMembers_iff {members : List (String × Json)} :
    areNormalMembers members ↔ ∀ member ∈ members, member.2.isNormal := by
  induction members with
  | nil => simp [areNormalMembers]
  | cons member rest induction => simp [areNormalMembers, induction]

theorem isNormal_array {items : List Json} :
    (Json.array items).isNormal ↔ ∀ item ∈ items, item.isNormal := by
  rw [isNormal, areNormalItems_iff]

theorem isNormal_object {members : List (String × Json)} :
    (Json.object members).isNormal ↔
      (members.map Prod.fst).Pairwise (· < ·) ∧ ∀ member ∈ members, member.2.isNormal := by
  rw [isNormal, Bool.and_eq_true, namesIncrease, decide_eq_true_iff, areNormalMembers_iff]

theorem normalizeItems_eq_map (items : List Json) :
    normalizeItems items = items.map normalize := by
  induction items with
  | nil => rfl
  | cons item rest induction => rw [normalizeItems, induction, List.map_cons]

/-- A member whose name comes before all others is put in front. -/
theorem insertMember_of_lt {member : String × Json} {members : List (String × Json)}
    (first : ∀ other ∈ members, member.1 < other.1) :
    insertMember member members = member :: members := by
  cases members with
  | nil => rfl
  | cons head tail =>
      have before : member.1 < head.1 := first head List.mem_cons_self
      rw [insertMember, if_neg (String.lt_asymm before), if_neg (String.ne_of_lt before).symm]

theorem normalizeMembers_of_increasing {members : List (String × Json)}
    (increasing : (members.map Prod.fst).Pairwise (· < ·))
    (values : ∀ member ∈ members, member.2.normalize = member.2) :
    normalizeMembers members = members := by
  induction members with
  | nil => rfl
  | cons member rest induction =>
      obtain ⟨name, value⟩ := member
      obtain ⟨value_normal, rest_normal⟩ := List.forall_mem_cons.mp values
      simp only [List.map_cons, List.pairwise_cons, List.forall_mem_map] at increasing
      rw [normalizeMembers, induction increasing.2 rest_normal, value_normal]
      exact insertMember_of_lt increasing.1

/-- A normal document is its own normal form. -/
theorem normalize_of_isNormal {document : Json} (normal : document.isNormal) :
    document.normalize = document := by
  induction document using nestedInduction with
  | null => rfl
  | bool value => rfl
  | number value => rfl
  | string value => rfl
  | array items induction =>
      have each : ∀ item ∈ items, normalize item = id item := fun item member =>
        induction item member (isNormal_array.mp normal item member)
      rw [normalize, normalizeItems_eq_map, List.map_congr_left each, List.map_id]
  | object members induction =>
      obtain ⟨increasing, each⟩ := isNormal_object.mp normal
      rw [normalize, normalizeMembers_of_increasing increasing fun member inside =>
        induction member inside (each member inside)]

theorem insertMember_perm {member : String × Json} {members : List (String × Json)}
    (fresh : member.1 ∉ members.map Prod.fst) :
    (insertMember member members).Perm (member :: members) := by
  induction members with
  | nil => exact .refl _
  | cons head tail induction =>
      obtain ⟨different, fresh⟩ := not_or.mp (fresh ∘ List.mem_cons.mpr)
      rw [insertMember]
      split
      case isTrue => exact ((induction fresh).cons head).trans (.swap member head tail)
      case isFalse =>
        rw [if_neg (Ne.symm different)]

/-- Members with distinct names are only normalized and brought into another order. -/
theorem normalizeMembers_perm_map {members : List (String × Json)}
    (distinct : (members.map Prod.fst).Nodup) :
    (normalizeMembers members).Perm
      (members.map fun member => (member.1, member.2.normalize)) := by
  induction members with
  | nil => exact .refl _
  | cons member rest induction =>
      obtain ⟨name, value⟩ := member
      obtain ⟨fresh, rest_distinct⟩ := List.nodup_cons.mp distinct
      have others := induction rest_distinct
      have unused : name ∉ (normalizeMembers rest).map Prod.fst := by
        rw [(others.map Prod.fst).mem_iff, List.map_map]
        exact fresh
      exact (insertMember_perm unused).trans (others.cons _)

/-- Normal members with distinct names are only brought into another order. -/
theorem normalizeMembers_perm {members : List (String × Json)}
    (distinct : (members.map Prod.fst).Nodup)
    (values : ∀ member ∈ members, member.2.normalize = member.2) :
    (normalizeMembers members).Perm members := by
  have same : ∀ member ∈ members, (member.1, member.2.normalize) = id member :=
    fun member inside => Prod.ext rfl (values member inside)
  have reordered := normalizeMembers_perm_map distinct
  rwa [List.map_congr_left same, List.map_id] at reordered

theorem member?_eq_none_iff {members : List (String × Json)} {key : String} :
    member? members key = none ↔ key ∉ members.map Prod.fst := by
  simp only [member?, Option.map_eq_none_iff, List.find?_eq_none, beq_iff_eq, List.mem_map,
    not_exists, not_and]

theorem member?_eq_some_of_mem {members : List (String × Json)} {key : String} {value : Json}
    (distinct : (members.map Prod.fst).Nodup) (inside : (key, value) ∈ members) :
    member? members key = some value := by
  induction members with
  | nil => cases inside
  | cons member others induction =>
      obtain ⟨fresh, distinct⟩ := List.nodup_cons.mp distinct
      rcases List.mem_cons.mp inside with rfl | inside
      · simp [member?]
      · have different : member.1 ≠ key := by
          rintro rfl
          exact fresh (List.mem_map.mpr ⟨_, inside, rfl⟩)
        have found := induction distinct inside
        rw [member?] at found ⊢
        rwa [List.find?_cons_of_neg (by simpa using different)]

/-- The member of a name is normalized with its object. -/
theorem member?_normalizeMembers {members : List (String × Json)} {key : String} {value : Json}
    (distinct : (members.map Prod.fst).Nodup) (inside : (key, value) ∈ members) :
    member? (normalizeMembers members) key = some value.normalize := by
  have reordered := normalizeMembers_perm_map distinct
  refine member?_eq_some_of_mem ?_ ?_
  · rw [(reordered.map Prod.fst).nodup_iff, List.map_map]
    exact distinct
  · exact reordered.mem_iff.mpr (List.mem_map.mpr ⟨(key, value), inside, rfl⟩)

theorem mem_of_member?_eq_some {members : List (String × Json)} {key : String} {value : Json}
    (found : member? members key = some value) : (key, value) ∈ members := by
  obtain ⟨⟨name, other⟩, search, rfl⟩ := Option.map_eq_some_iff.mp found
  obtain rfl : name = key := by simpa using List.find?_some search
  exact List.mem_of_find?_eq_some search

end Json
end ForeignBindings
