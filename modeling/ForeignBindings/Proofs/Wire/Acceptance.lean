import ForeignBindings.Proofs.Checks
import ForeignBindings.Proofs.DeclSet
import ForeignBindings.Proofs.Entries
import ForeignBindings.HostType
import ForeignBindings.Wire.Structured

/-!
# What structured values look like

The values that the check of structured text accepts, said by their members: an accepted struct has
exactly its fields, and an accepted union has a tag that names a variant and a content exactly if that
variant has a payload.
-/

namespace ForeignBindings
namespace Structured

open Checks

/-- A key that has no member is the key of no member. -/
theorem ne_of_member?_eq_none {members : List (String × Json)} {name : String}
    (absent : Json.member? members name = none) {member : String × Json}
    (inside : member ∈ members) : member.1 ≠ name := by
  simpa using List.find?_eq_none.mp (Option.map_eq_none_iff.mp absent) member inside

/-- Whether an object has the given members and no other. -/
structure HasExactly (keys : List String) (members : List (String × Json)) : Prop where
  /-- Every key has a member. -/
  complete : ∀ key ∈ keys, ∃ value, Json.member? members key = some value
  /-- Every member has one of the keys. -/
  only : ∀ member ∈ members, member.1 ∈ keys

/-- A value of a numeric type is a number. -/
theorem eq_number_of_isOfPrimitive {primitive : Primitive} {value : Json}
    (numeric : HostType.ofPrimitive primitive = .number ∨ HostType.ofPrimitive primitive = .bigint)
    (typed : isOfPrimitive primitive value = true) : ∃ number, value = .number number := by
  cases value with
  | number number => exact ⟨number, rfl⟩
  | _ => cases primitive <;> first | exact absurd numeric (by decide) | cases typed

/-- The items of an accepted array of bytes are numbers. -/
theorem eq_array_of_isByteArray {value : Json} (bytes : isByteArray value = true) :
    ∃ items, value = .array items ∧ ∀ item ∈ items, ∃ number, item = .number number := by
  cases value with
  | array items =>
      exact ⟨items, rfl, fun item inside =>
        eq_number_of_isOfPrimitive (.inl rfl)
          (show isOfPrimitive .u8 item = true from List.all_eq_true.mp bytes item inside)⟩
  | _ => cases bytes

theorem isOfPrimitive_of_check {primitive : Primitive} {value : Json} {path : String}
    (accepted : checkPrimitive primitive value path = .ok ()) :
    isOfPrimitive primitive value = true := by
  rw [checkPrimitive] at accepted
  split at accepted
  case isTrue typed => exact typed
  case isFalse => cases accepted

theorem checkPrimitive_eq_ok_iff {primitive : Primitive} {value : Json} {path : String} :
    checkPrimitive primitive value path = .ok () ↔ isOfPrimitive primitive value = true := by
  refine ⟨isOfPrimitive_of_check, fun typed => ?_⟩
  rw [checkPrimitive, if_pos typed]

theorem checkMembers_eq_ok_iff {check : Check} {members : List (String × Json)} {path : String}
    {fields : List (String × TypeRef)} :
    checkMembers check members path fields = .ok () ↔
      ∀ field ∈ fields, ∃ value, Json.member? members field.1 = some value ∧
        check field.2 value (path ++ "." ++ field.1) = .ok () := by
  induction fields with
  | nil => exact iff_of_true rfl fun _ inside => absurd inside List.not_mem_nil
  | cons field fields induction =>
      obtain ⟨name, type⟩ := field
      rw [List.forall_mem_cons, ← induction, checkMembers]
      cases found : Json.member? members name with
      | none => simp
      | some member => simp [then_eq_ok_iff]

theorem checkNoExtra_eq_ok_iff {allowed : String → Bool} {members : List (String × Json)}
    {path what : String} :
    checkNoExtra allowed members path what = .ok () ↔
      ∀ member ∈ members, allowed member.1 = true := by
  rw [checkNoExtra]
  cases found : members.find? fun member => !allowed member.1 with
  | none =>
      refine iff_of_true rfl fun member inside => ?_
      simpa using List.find?_eq_none.mp found member inside
  | some extra =>
      refine iff_of_false nofun fun all => ?_
      have refused := List.find?_some found
      rw [all extra (List.mem_of_find?_eq_some found)] at refused
      cases refused

/-- An accepted struct is an object with exactly the fields, each of its type. -/
theorem checkFields_eq_ok {check : Check} {fields : Fields} {value : Json} {path what : String}
    (accepted : checkFields check fields value path what = .ok ()) :
    ∃ members, value = .object members ∧ HasExactly fields.names members ∧
      ∀ field ∈ fields.toList, ∃ member, Json.member? members field.1 = some member ∧
        check field.2 member (path ++ "." ++ field.1) = .ok () := by
  cases value with
  | object members =>
      obtain ⟨typed, extra⟩ := then_eq_ok_iff.mp accepted
      have typed := checkMembers_eq_ok_iff.mp typed
      refine ⟨members, rfl, ⟨fun key inside => ?_, fun member inside => ?_⟩, typed⟩
      · obtain ⟨field, held, rfl⟩ := List.mem_map.mp inside
        obtain ⟨member, found, -⟩ := typed field held
        exact ⟨member, found⟩
      · have allowed := checkNoExtra_eq_ok_iff.mp extra member inside
        obtain ⟨field, held, same⟩ := List.any_eq_true.mp allowed
        exact List.mem_map.mpr ⟨field, held, beq_iff_eq.mp same⟩
  | _ => cases accepted

/-- A struct is accepted exactly if it is an object with the fields and no other member, each of its
type. -/
theorem checkFields_eq_ok_iff {check : Check} {fields : Fields} {value : Json}
    {path what : String} :
    checkFields check fields value path what = .ok () ↔
      ∃ members, value = .object members ∧ HasExactly fields.names members ∧
        ∀ field ∈ fields.toList, ∃ member, Json.member? members field.1 = some member ∧
          check field.2 member (path ++ "." ++ field.1) = .ok () := by
  refine ⟨checkFields_eq_ok, ?_⟩
  rintro ⟨members, rfl, ⟨-, only⟩, typed⟩
  have extra : checkNoExtra fields.contains members path what = .ok () := by
    apply checkNoExtra_eq_ok_iff.mpr
    intro member inside
    exact Entries.contains_iff.mpr (only member inside)
  exact then_eq_ok_iff.mpr ⟨checkMembers_eq_ok_iff.mpr typed, extra⟩

theorem text?_eq_some_iff {value : Json} {text : String} :
    value.text? = some text ↔ value = .string text := by
  cases value <;> simp [Json.text?]

/-- The content of an accepted value of a variant is there exactly if the variant has a payload. -/
theorem checkContent_eq_ok {check : Check} {variant : Variant} {content : Option Json}
    {path : String} (accepted : checkContent check variant content path = .ok ()) :
    (variant.payload = none ∧ content = none) ∨
      ∃ fields payload, variant.payload = some fields ∧ content = some payload ∧
        checkFields check fields payload path variant.name = .ok () := by
  cases known : variant.payload with
  | none =>
      cases content with
      | none => exact .inl ⟨rfl, rfl⟩
      | some payload =>
          simp only [checkContent, known] at accepted
          cases accepted
  | some fields =>
      cases content with
      | none =>
          simp only [checkContent, known] at accepted
          cases accepted
      | some payload =>
          simp only [checkContent, known] at accepted
          exact .inr ⟨fields, payload, rfl, rfl, accepted⟩

/-- An accepted value of a union is an object whose tag names a variant.  It has no other member if
the variant has no payload, and otherwise the content and nothing else. -/
theorem checkUnion_eq_ok {check : Check} {union : UnionDecl} {value : Json} {path name : String}
    (accepted : checkUnion check union value path name = .ok ()) :
    ∃ members, value = .object members ∧ ∃ variant ∈ union.variants,
      Json.member? members union.tag = some (.string variant.name) ∧
        ((variant.payload = none ∧ HasExactly [union.tag] members) ∨
          ∃ fields content, variant.payload = some fields ∧
            Json.member? members union.content = some content ∧
            HasExactly [union.tag, union.content] members ∧
            checkFields check fields content (path ++ "." ++ union.content) variant.name =
              .ok ()) := by
  cases value with
  | object members =>
      rw [checkUnion] at accepted
      cases tagged : (Json.member? members union.tag).bind Json.text? with
      | none =>
          simp only [tagged] at accepted
          cases accepted
      | some tag =>
          simp only [tagged] at accepted
          cases known : union.variant? tag with
          | none =>
              simp only [known] at accepted
              cases accepted
          | some variant =>
              simp only [known] at accepted
              obtain ⟨matching, extra⟩ := then_eq_ok_iff.mp accepted
              obtain ⟨label, held, isText⟩ := Option.bind_eq_some_iff.mp tagged
              have named : variant.name = tag := by simpa using List.find?_some known
              have tag_held : Json.member? members union.tag = some (.string variant.name) := by
                rw [held, text?_eq_some_iff.mp isText, named]
              have only : ∀ member ∈ members, member.1 = union.tag ∨ member.1 = union.content := by
                simpa using checkNoExtra_eq_ok_iff.mp extra
              refine ⟨members, rfl, variant, List.mem_of_find?_eq_some known, tag_held, ?_⟩
              obtain ⟨unit, absent⟩ | ⟨fields, content, payload, present, typed⟩ :=
                checkContent_eq_ok matching
              · refine .inl ⟨unit, List.forall_mem_singleton.mpr ⟨_, tag_held⟩, fun member held => ?_⟩
                obtain tag | content := only member held
                · exact List.mem_singleton.mpr tag
                · exact absurd content (ne_of_member?_eq_none absent held)
              · refine .inr ⟨fields, content, payload, present, ⟨?_, ?_⟩, typed⟩
                · exact List.forall_mem_cons.mpr ⟨⟨_, tag_held⟩,
                    List.forall_mem_singleton.mpr ⟨_, present⟩⟩
                · exact fun member held => by simpa using only member held
  | _ => cases accepted

end Structured
end ForeignBindings
