import ForeignBindings.Proofs.Glue.Resolution
import ForeignBindings.Proofs.Json.Normal
import ForeignBindings.Proofs.Wire.Acceptance
import ForeignBindings.Proofs.Wire.ScalarRanges

/-!
# Conforming values

Which values are of a type is said here by cases on the type, without a bound on the nesting, an
order of the checks or a path.  In a module whose references are all declared, the check of
structured text accepts exactly these values, also where types are declared in terms of each other.
It refuses every other value as one of another shape or with an unknown variant, and never meets a
type that is not declared.
-/

namespace ForeignBindings
namespace Structured

open Checks

/-- Whether a value is a byte. -/
def IsByte (value : Json) : Prop :=
  ∃ number, value.integer? = some number ∧ 0 ≤ number ∧ number ≤ 255

/-- Whether a value is of a type, with respect to a set of declarations. -/
inductive Conforms (types : DeclSet) : TypeRef → Json → Prop
  | null : Conforms types (.primitive .void) .null
  | text (text : String) : Conforms types (.primitive .str) (.string text)
  | bytes {primitive : Primitive} {items : List Json}
      (ofBytes : primitive = .buffer ∨ primitive = .bufferMut ∨ primitive = .ptr)
      (each : ∀ item ∈ items, IsByte item) : Conforms types (.primitive primitive) (.array items)
  | float {primitive : Primitive} (isFloat : primitive = .f32 ∨ primitive = .f64)
      (number : Json.Number) : Conforms types (.primitive primitive) (.number number)
  | integer {primitive : Primitive} {type : IntegerType} {value : Json} {number : Int}
      (ofIntegers : primitive.integerType? = some type) (isInteger : value.integer? = some number)
      (within : type.Contains number) : Conforms types (.primitive primitive) value
  | struct {decl : TypeDecl} {struct : StructDecl} {members : List (String × Json)}
      (declared : decl ∈ types.toList) (kind : decl.kind = .struct struct)
      (keys : HasExactly struct.fields.names members)
      (each : ∀ field ∈ struct.fields.toList, ∀ value,
        Json.member? members field.1 = some value → Conforms types field.2 value) :
      Conforms types (.declared decl.name) (.object members)
  | unit {decl : TypeDecl} {union : UnionDecl} {variant : Variant} {members : List (String × Json)}
      (declared : decl ∈ types.toList) (kind : decl.kind = .union union)
      (chosen : variant ∈ union.variants) (payload : variant.payload = none)
      (keys : HasExactly [union.tag] members)
      (tag : Json.member? members union.tag = some (.string variant.name)) :
      Conforms types (.declared decl.name) (.object members)
  | laden {decl : TypeDecl} {union : UnionDecl} {variant : Variant} {fields : Fields}
      {members contents : List (String × Json)}
      (declared : decl ∈ types.toList) (kind : decl.kind = .union union)
      (chosen : variant ∈ union.variants) (payload : variant.payload = some fields)
      (keys : HasExactly [union.tag, union.content] members)
      (tag : Json.member? members union.tag = some (.string variant.name))
      (content : Json.member? members union.content = some (.object contents))
      (content_keys : HasExactly fields.names contents)
      (each : ∀ field ∈ fields.toList, ∀ value,
        Json.member? contents field.1 = some value → Conforms types field.2 value) :
      Conforms types (.declared decl.name) (.object members)

variable {types : DeclSet} {check : Check} {members : List (String × Json)} {value : Json}
  {path : String}

theorem isUnsignedUpTo_byte_iff : isUnsignedUpTo 0xFF value = true ↔ IsByte value :=
  isUnsignedUpTo_iff

theorem isByteArray_iff :
    isByteArray value = true ↔ ∃ items, value = .array items ∧ ∀ item ∈ items, IsByte item := by
  cases value <;> simp [isByteArray, isUnsignedUpTo_byte_iff]

/-- The check of a primitive type accepts exactly the conforming values. -/
theorem isOfPrimitive_iff_conforms {primitive : Primitive} :
    isOfPrimitive primitive value = true ↔ Conforms types (.primitive primitive) value := by
  constructor
  · intro typed
    cases integer : primitive.integerType? with
    | some type =>
        obtain ⟨number, isInteger, within⟩ := (isOfPrimitive_iff_contains integer).mp typed
        exact .integer integer isInteger within
    | none =>
        cases primitive with
        | void =>
            cases value <;> first | exact .null | cases typed
        | str =>
            obtain ⟨text, isText⟩ := Option.isSome_iff_exists.mp typed
            exact text?_eq_some_iff.mp isText ▸ .text text
        | f32 | f64 =>
            cases value <;> first | exact .float (by simp) _ | cases typed
        | buffer | bufferMut | ptr =>
            obtain ⟨items, rfl, each⟩ := isByteArray_iff.mp typed
            exact .bytes (by simp) each
        | _ => cases integer
  · intro conforms
    cases conforms with
    | null => rfl
    | text text => rfl
    | bytes ofBytes each =>
        rcases ofBytes with rfl | rfl | rfl <;> exact isByteArray_iff.mpr ⟨_, rfl, each⟩
    | float isFloat number => rcases isFloat with rfl | rfl <;> rfl
    | integer ofIntegers isInteger within =>
        exact (isOfPrimitive_iff_contains ofIntegers).mpr ⟨_, isInteger, within⟩

/-- An accepted value conforms: what is within it is checked with one level less. -/
theorem conforms_of_checkWithin (ordered : types.Ordered) {levels : Nat} {type : TypeRef}
    (accepted : checkWithin types levels type value path = .ok ()) : Conforms types type value := by
  induction levels generalizing type value path with
  | zero => cases accepted
  | succ levels induction =>
      cases type with
      | primitive primitive => exact isOfPrimitive_iff_conforms.mp (isOfPrimitive_of_check accepted)
      | declared name =>
          have within {fields : Fields} {members : List (String × Json)} {path : String}
              (typed : ∀ field ∈ fields.toList, ∃ member,
                Json.member? members field.1 = some member ∧
                  checkWithin types levels field.2 member (path ++ "." ++ field.1) = .ok ()) :
              ∀ field ∈ fields.toList, ∀ value, Json.member? members field.1 = some value →
                Conforms types field.2 value := by
            intro field inside value held
            obtain ⟨member, found, checked⟩ := typed field inside
            cases held.symm.trans found
            exact induction checked
          rw [checkWithin] at accepted
          cases known : types.find? name with
          | none =>
              rw [known] at accepted
              cases accepted
          | some decl =>
              obtain ⟨declared, rfl⟩ := (DeclSet.find?_eq_some_iff ordered).mp known
              cases kind : decl.kind with
              | struct struct =>
                  simp only [known, kind] at accepted
                  obtain ⟨members, rfl, keys, typed⟩ := checkFields_eq_ok accepted
                  exact .struct declared kind keys (within typed)
              | union union =>
                  simp only [known, kind] at accepted
                  obtain ⟨members, rfl, variant, chosen, tag, ⟨unit, keys⟩ |
                    ⟨fields, content, payload, present, keys, typed⟩⟩ := checkUnion_eq_ok accepted
                  · exact .unit declared kind chosen unit keys tag
                  · obtain ⟨contents, rfl, content_keys, typed⟩ := checkFields_eq_ok typed
                    exact .laden declared kind chosen payload keys tag present content_keys
                      (within typed)

/-- A member lies less deep than its object. -/
theorem depth_le_membersDepth {key : String} (held : Json.member? members key = some value) :
    value.depth ≤ Json.membersDepth members := by
  have inside := Json.mem_of_member?_eq_some held
  clear held
  induction members with
  | nil => cases inside
  | cons member members induction =>
      obtain ⟨name, other⟩ := member
      rw [Json.membersDepth]
      rcases List.mem_cons.mp inside with same | inside
      · cases same
        exact Nat.le_max_left ..
      · exact (induction inside).trans (Nat.le_max_right ..)

/-- The variant of a name is the only one of that name. -/
theorem variant?_name {union : UnionDecl} (wellFormed : union.WellFormed) {variant : Variant}
    (chosen : variant ∈ union.variants) : union.variant? variant.name = some variant := by
  cases found : union.variant? variant.name with
  | none => simpa using List.find?_eq_none.mp found variant chosen
  | some other =>
      have named : other.name = variant.name := by simpa using List.find?_some found
      have inside := List.mem_of_find?_eq_some found
      rw [List.inj_on_of_nodup_map wellFormed.distinct inside chosen named]

/-- A union value is accepted if its tag names a variant, its content is what the variant asks for
and it has no other member. -/
theorem checkUnion_eq_ok_of_variant {union : UnionDecl} (wellFormed : union.WellFormed)
    {variant : Variant} {name : String} (chosen : variant ∈ union.variants)
    (tag : Json.member? members union.tag = some (.string variant.name))
    (only : ∀ member ∈ members, member.1 = union.tag ∨ member.1 = union.content)
    (matching : checkContent check variant (Json.member? members union.content)
      (path ++ "." ++ union.content) = .ok ()) :
    checkUnion check union (.object members) path name = .ok () := by
  have extra : checkNoExtra (fun key => key == union.tag || key == union.content) members path
      name = .ok () := checkNoExtra_eq_ok_iff.mpr (by simpa using only)
  simp only [checkUnion, tag, Option.bind_some, Json.text?, variant?_name wellFormed chosen]
  exact then_eq_ok_iff.mpr ⟨matching, extra⟩

/-- An object with exactly the fields is accepted if each member is. -/
theorem checkFields_eq_ok_of_hasExactly {fields : Fields} {what : String}
    (keys : HasExactly fields.names members)
    (each : ∀ field ∈ fields.toList, ∀ value, Json.member? members field.1 = some value →
      ∀ path, check field.2 value path = .ok ()) :
    checkFields check fields (.object members) path what = .ok () := by
  refine checkFields_eq_ok_iff.mpr ⟨members, rfl, keys, fun field inside => ?_⟩
  obtain ⟨value, held⟩ := keys.complete field.1 (List.mem_map_of_mem inside)
  exact ⟨value, held, each field inside value held _⟩

theorem checkWithin_primitive_of_conforms {primitive : Primitive}
    (conforms : Conforms types (.primitive primitive) value) {levels : Nat}
    (deep : value.depth < levels) :
    checkWithin types levels (.primitive primitive) value path = .ok () := by
  obtain ⟨levels, rfl⟩ := Nat.exists_eq_add_one_of_ne_zero (Nat.ne_zero_of_lt deep)
  exact checkPrimitive_eq_ok_iff.mpr (isOfPrimitive_iff_conforms.mpr conforms)

/-- A conforming value is accepted with more levels than it has. -/
theorem checkWithin_of_conforms (ordered : types.Ordered)
    (unions : ∀ decl ∈ types.toList, ∀ union, decl.kind = .union union → union.WellFormed)
    {type : TypeRef} (conforms : Conforms types type value) {levels : Nat}
    (deep : value.depth < levels) : checkWithin types levels type value path = .ok () := by
  induction conforms generalizing levels path with
  | null => exact checkWithin_primitive_of_conforms .null deep
  | text text => exact checkWithin_primitive_of_conforms (.text text) deep
  | bytes ofBytes each => exact checkWithin_primitive_of_conforms (.bytes ofBytes each) deep
  | float isFloat number => exact checkWithin_primitive_of_conforms (.float isFloat number) deep
  | integer ofIntegers isInteger within =>
      exact checkWithin_primitive_of_conforms (.integer ofIntegers isInteger within) deep
  | @struct decl struct members declared kind keys each induction =>
      obtain ⟨levels, rfl⟩ := Nat.exists_eq_add_one_of_ne_zero (Nat.ne_zero_of_lt deep)
      -- An object is deeper than its members, so one level less is enough for them.
      rw [Json.depth] at deep
      simp only [checkWithin, (DeclSet.find?_eq_some_iff ordered).mpr ⟨declared, rfl⟩, kind]
      refine checkFields_eq_ok_of_hasExactly keys fun field inside value held path => ?_
      have value_deep := depth_le_membersDepth held
      exact induction field inside value held (by omega)
  | @unit decl union variant members declared kind chosen payload keys tag =>
      obtain ⟨levels, rfl⟩ := Nat.exists_eq_add_one_of_ne_zero (Nat.ne_zero_of_lt deep)
      have wellFormed := unions decl declared union kind
      have tag_only : ∀ member ∈ members, member.1 = union.tag := by simpa using keys.only
      -- The only member is the tag, which is not the content.
      have absent : Json.member? members union.content = none := by
        rw [Json.member?_eq_none_iff]
        intro inside
        obtain ⟨member, held, isContent⟩ := List.mem_map.mp inside
        exact wellFormed.apart ((tag_only member held).symm.trans isContent)
      simp only [checkWithin, (DeclSet.find?_eq_some_iff ordered).mpr ⟨declared, rfl⟩, kind]
      refine checkUnion_eq_ok_of_variant wellFormed chosen tag
        (fun member held => .inl (tag_only member held)) ?_
      simp only [checkContent, payload, absent]
  | @laden decl union variant fields members contents declared kind chosen payload keys tag content
      content_keys each induction =>
      obtain ⟨levels, rfl⟩ := Nat.exists_eq_add_one_of_ne_zero (Nat.ne_zero_of_lt deep)
      have content_deep := depth_le_membersDepth content
      rw [Json.depth] at deep content_deep
      simp only [checkWithin, (DeclSet.find?_eq_some_iff ordered).mpr ⟨declared, rfl⟩, kind]
      refine checkUnion_eq_ok_of_variant (unions decl declared union kind) chosen tag
        (by simpa using keys.only) ?_
      simp only [checkContent, payload, content]
      refine checkFields_eq_ok_of_hasExactly content_keys fun field inside value held path => ?_
      have value_deep := depth_le_membersDepth held
      exact induction field inside value held (by omega)

/-- A value is accepted exactly if it conforms. -/
theorem validate_eq_ok_iff_conforms (ordered : types.Ordered)
    (unions : ∀ decl ∈ types.toList, ∀ union, decl.kind = .union union → union.WellFormed)
    {type : TypeRef} : validate types type value = .ok () ↔ Conforms types type value :=
  ⟨conforms_of_checkWithin ordered,
    fun conforms => checkWithin_of_conforms ordered unions conforms (Nat.lt_succ_self _)⟩

/-! ## Refused values -/

/-- Whether a fault says something else than that a value is of another shape or that its tag names
no variant. -/
def isOtherFault : WireError → Bool
  | .shape .. | .unknownVariant .. => false
  | _ => true

theorem isOtherFault_eq_false_iff {fault : WireError} :
    isOtherFault fault = false ↔ (∃ path expected, fault = .shape path expected) ∨
      ∃ path union variant, fault = .unknownVariant path union variant := by
  cases fault <;> simp [isOtherFault]

theorem avoids_checkMembers {fields : List (String × TypeRef)}
    (each : ∀ field ∈ fields, ∀ value path, Avoids isOtherFault (check field.2 value path)) :
    Avoids isOtherFault (checkMembers check members path fields) := by
  induction fields with
  | nil => exact .ok ()
  | cons field fields induction =>
      obtain ⟨first, others⟩ := List.forall_mem_cons.mp each
      rw [checkMembers]
      split
      case h_1 => exact .error rfl
      case h_2 => exact (first _ _).bind fun _ => induction others

theorem avoids_checkNoExtra {allowed : String → Bool} {what : String} :
    Avoids isOtherFault (checkNoExtra allowed members path what) := by
  rw [checkNoExtra]
  split
  · exact .error rfl
  · exact .ok ()

theorem avoids_checkFields {fields : Fields} {what : String}
    (each : ∀ field ∈ fields.toList, ∀ value path,
      Avoids isOtherFault (check field.2 value path)) :
    Avoids isOtherFault (checkFields check fields value path what) := by
  cases value with
  | object members => exact (avoids_checkMembers each).bind fun _ => avoids_checkNoExtra
  | _ => exact .error rfl

theorem avoids_checkContent {variant : Variant} {content : Option Json}
    (each : ∀ fields, variant.payload = some fields → ∀ field ∈ fields.toList, ∀ value path,
      Avoids isOtherFault (check field.2 value path)) :
    Avoids isOtherFault (checkContent check variant content path) := by
  cases known : variant.payload with
  | none =>
      cases content with
      | none => simpa only [checkContent, known] using .ok ()
      | some payload => simpa only [checkContent, known] using .error rfl
  | some fields =>
      cases content with
      | none => simpa only [checkContent, known] using .error rfl
      | some payload =>
          simpa only [checkContent, known] using avoids_checkFields (each fields known)

theorem avoids_checkUnion {union : UnionDecl} {name : String}
    (each : ∀ variant ∈ union.variants, ∀ fields, variant.payload = some fields →
      ∀ field ∈ fields.toList, ∀ value path, Avoids isOtherFault (check field.2 value path)) :
    Avoids isOtherFault (checkUnion check union value path name) := by
  cases value with
  | object members =>
      rw [checkUnion]
      split
      case h_1 => exact .error rfl
      case h_2 tag known =>
        split
        case h_1 => exact .error rfl
        case h_2 variant found =>
          exact (avoids_checkContent (each variant (List.mem_of_find?_eq_some found))).bind
            fun _ => avoids_checkNoExtra
  | _ => exact .error rfl

/-- Where every reference is declared, a value is refused for its shape or for its variant only. -/
theorem avoids_checkWithin {module : BindingModule} (ordered : module.types.Ordered)
    (references : ∀ decl ∈ module.types.toList, ∀ reference ∈ decl.references,
      module.Declares reference.2)
    {type : TypeRef} (declared : module.Declares type) (levels : Nat) (value : Json)
    (path : String) : Avoids isOtherFault (checkWithin module.types levels type value path) := by
  induction levels generalizing type value path with
  | zero => exact .error rfl
  | succ levels induction =>
      cases type with
      | primitive primitive => exact .ite (.ok ()) (.error rfl)
      | declared name =>
          obtain ⟨decl, inside, named⟩ := List.mem_map.mp declared
          have each : ∀ reference ∈ decl.references, ∀ value path,
              Avoids isOtherFault (checkWithin module.types levels reference.2 value path) :=
            fun reference held value path =>
              induction (references decl inside reference held) value path
          rw [checkWithin, (DeclSet.find?_eq_some_iff ordered).mpr ⟨inside, named⟩]
          cases kind : decl.kind with
          | struct struct =>
              rw [TypeDecl.references_of_struct kind] at each
              simp only [kind]
              exact avoids_checkFields each
          | union union =>
              simp only [kind]
              exact avoids_checkUnion fun variant chosen fields payload field known =>
                each (variant.name ++ "." ++ field.1, field.2)
                  (TypeDecl.mem_references_of_payload kind chosen payload known)

/-- In a module whose references are declared, the check of structured text accepts exactly the
values that conform to a type, and refuses every other one for its shape or for a tag that names no
variant. -/
theorem validate_accepts_exactly_conforming {draft : ModuleDraft} {module : BindingModule}
    (built : draft.build = .ok module) (resolved : module.types.checkReferences = .ok ())
    {type : TypeRef} (declared : module.Declares type) (value : Json) :
    (validate module.types type value = .ok () ↔ Conforms module.types type value) ∧
      ∀ fault, validate module.types type value = .error fault →
        (∃ path expected, fault = .shape path expected) ∨
          ∃ path union variant, fault = .unknownVariant path union variant := by
  obtain ⟨wellFormed, normalizes⟩ := ModuleDraft.build_eq_ok_iff.mp built
  have ordered : module.types.Ordered := normalizes.types_ordered
  have unions : ∀ decl ∈ module.types.toList, ∀ union, decl.kind = .union union →
      union.WellFormed := fun decl inside =>
    (wellFormed.types decl (normalizes.types_perm.mem_iff.mp inside)).union
  have references : ∀ decl ∈ module.types.toList, ∀ reference ∈ decl.references,
      module.Declares reference.2 := by
    have none := (Glue.reports_checkReferences ordered).exists_ok_iff.mp ⟨(), resolved⟩
    intro decl inside reference held
    have decl_none := List.flatMap_eq_nil_iff.mp none decl inside
    exact BindingModule.referenceFaults_eq_nil_iff.mp
      (List.flatMap_eq_nil_iff.mp decl_none reference held)
  exact ⟨validate_eq_ok_iff_conforms ordered unions, fun fault refused =>
    isOtherFault_eq_false_iff.mp
      (avoids_checkWithin ordered references declared _ value "$" fault refused)⟩

/-- A route ends or goes on with a step and a route. -/
def routeDraft : ModuleDraft :=
  ModuleDraft.empty "routes"
    |>.addType ⟨"Route", .union ⟨"kind", "value",
        [⟨"end", none, none⟩,
          ⟨"step", some (.ofList [("distance", .primitive .i16), ("rest", .declared "Route")]),
            none⟩]⟩, none, none⟩

/-- The module of that draft. -/
def routeModule : BindingModule :=
  ⟨"routes", routeDraft.options, ⟨routeDraft.types.toArray⟩, []⟩

/-- A route of one step with a given rest. -/
def stepTo (rest : Json) : Json :=
  .object [("kind", .string "step"), ("value", .object
    [("distance", .number (.integer (-32768) (by decide) (by decide))), ("rest", rest)])]

/-- A route of two steps conforms, and one that stops at a variant of no name is refused there. -/
theorem validate_accepts_exactly_conforming_routes :
    routeDraft.build = .ok routeModule ∧ routeModule.types.checkReferences = .ok () ∧
      Conforms routeModule.types (.declared "Route")
        (stepTo (stepTo (.object [("kind", .string "end")]))) ∧
      ¬ Conforms routeModule.types (.declared "Route")
        (stepTo (.object [("kind", .string "stop")])) ∧
      ∃ path union variant, validate routeModule.types (.declared "Route")
        (stepTo (.object [("kind", .string "stop")])) =
          .error (.unknownVariant path union variant) := by
  have built : routeDraft.build = .ok routeModule := by decide
  have resolved : routeModule.types.checkReferences = .ok () := by decide
  have declared : routeModule.Declares (.declared "Route") := by decide
  have conforming := validate_accepts_exactly_conforming built resolved declared
  have refused : validate routeModule.types (.declared "Route")
      (stepTo (.object [("kind", .string "stop")])) =
        .error (.unknownVariant "$.value.rest.kind" "Route" "stop") := by decide
  refine ⟨built, resolved, (conforming _).1.mp (by decide), fun conforms => ?_, ?_⟩
  · cases refused.symm.trans ((conforming _).1.mpr conforms)
  · obtain ⟨path, expected, same⟩ | named := (conforming _).2 _ refused
    · cases same
    · obtain ⟨path, union, variant, same⟩ := named
      exact ⟨path, union, variant, same ▸ refused⟩

end Structured
end ForeignBindings
