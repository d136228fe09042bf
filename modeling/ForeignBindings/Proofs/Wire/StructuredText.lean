import ForeignBindings.Proofs.Json.RoundTrip
import ForeignBindings.Wire.Structured

/-!
# Fidelity of structured text

A value without floats that is encoded and decoded is the same value.  The encoder takes values of
any nesting while the decoder reads up to a greatest nesting, so exactly the values nested no
deeper survive; the others are refused for their nesting.
-/

namespace ForeignBindings
namespace Structured

theorem validate_of_encode {types : DeclSet} {type : TypeRef} {value : Json} {bytes : List UInt8}
    (encoded : encode types type value = .ok bytes) :
    validate types type value = .ok () ∧ bytes = Text.utf8 value.compact := by
  rw [encode] at encoded
  cases checked : validate types type value with
  | error cause =>
      rw [checked] at encoded
      cases encoded
  | ok _ =>
      rw [checked] at encoded
      cases encoded
      exact ⟨rfl, rfl⟩

/-- What the decoder makes of an encoded value. -/
theorem decode_of_encode {types : DeclSet} {type : TypeRef} {value : Json} {bytes : List UInt8}
    (normal : value.isNormal) (floatFree : value.isFloatFree)
    (encoded : encode types type value = .ok bytes) :
    decode types type bytes =
      if value.depth ≤ Json.maxNesting then .ok value else .error (.malformed .nestingLimit) := by
  obtain ⟨valid, rfl⟩ := validate_of_encode encoded
  rw [decode, Text.Piece.ofBytes_utf8, Json.read_compact floatFree]
  by_cases shallow : value.depth ≤ Json.maxNesting
  · rw [if_pos shallow, if_pos shallow]
    simp only [Json.normalize_of_isNormal normal, valid]
    rfl
  · rw [if_neg shallow, if_neg shallow]

/-- Chains of any length: a link holds a count, a label and the rest of the chain. -/
def chainUnion : UnionDecl where
  tag := "$tag"
  content := "$data"
  variants :=
    [⟨"End", none, none⟩,
      ⟨"Link", some (.ofList [("count", .primitive .i64), ("label", .primitive .str),
        ("next", .declared "Chain")]), none⟩]

/-- The declaration of chains alone. -/
def chainTypes : DeclSet :=
  ⟨#[⟨"Chain", .union chainUnion, none, none⟩]⟩

/-- The chain without links. -/
def endOfChain : Json := .object [("$tag", .string "End")]

/-- A link in front of a chain. -/
def link (count : Json.Number) (label : String) (next : Json) : Json :=
  .object
    [("$data", .object [("count", .number count), ("label", .string label), ("next", next)]),
      ("$tag", .string "Link")]

/-- A chain of links that all hold zero and the empty label. -/
def emptyLinks : Nat → Json
  | 0 => endOfChain
  | count + 1 => link default "" (emptyLinks count)

theorem depth_emptyLinks (count : Nat) : (emptyLinks count).depth = 2 * count + 1 := by
  induction count with
  | zero => rfl
  | succ count induction =>
      simp only [emptyLinks, link, Json.depth, Json.membersDepth, induction]
      omega

theorem isNormal_emptyLinks (count : Nat) : (emptyLinks count).isNormal := by
  induction count with
  | zero => rfl
  | succ count induction =>
      have outer : ["$data", "$tag"].Pairwise (· < ·) := by decide
      have inner : ["count", "label", "next"].Pairwise (· < ·) := by decide
      rw [emptyLinks, link]
      simp only [Json.isNormal_object, List.forall_mem_cons]
      exact ⟨outer, ⟨inner, rfl, rfl, induction, by simp⟩, rfl, by simp⟩

theorem isFloatFree_emptyLinks (count : Nat) : (emptyLinks count).isFloatFree := by
  induction count with
  | zero => rfl
  | succ count induction =>
      rw [emptyLinks, link]
      simp only [Json.isFloatFree_object, List.forall_mem_cons]
      exact ⟨⟨rfl, rfl, induction, by simp⟩, rfl, by simp⟩

theorem checkUnion_link {check : Check} {next : Json}
    (count : ∀ path, check (.primitive .i64) (.number default) path = .ok ())
    (label : ∀ path, check (.primitive .str) (.string "") path = .ok ())
    (rest : ∀ path, check (.declared "Chain") next path = .ok ()) (path : String) :
    checkUnion check chainUnion (link default "" next) path "Chain" = .ok () := by
  simp [checkUnion, chainUnion, link, Json.member?, Json.text?, UnionDecl.variant?, checkContent,
    checkFields, Entries.ofList, Entries.put, Entries.empty, Entries.putList, checkMembers, count,
    label, rest, bind, Except.bind, checkNoExtra, Entries.contains]

theorem checkWithin_emptyLinks {count levels : Nat} (enough : count + 1 < levels)
    (path : String) :
    checkWithin chainTypes levels (.declared "Chain") (emptyLinks count) path = .ok () := by
  induction count generalizing levels path with
  | zero =>
      obtain ⟨levels, rfl⟩ := Nat.exists_eq_add_one_of_ne_zero (Nat.ne_zero_of_lt enough)
      rfl
  | succ count induction =>
      obtain ⟨levels, rfl⟩ := Nat.exists_eq_add_of_le' (show 2 ≤ levels by omega)
      exact checkUnion_link (fun _ => rfl) (fun _ => rfl)
        (fun path => induction (by omega) path) path

/-- The encoder takes chains of every length. -/
theorem encode_emptyLinks (count : Nat) :
    encode chainTypes (.declared "Chain") (emptyLinks count) =
      .ok (Text.utf8 (emptyLinks count).compact) := by
  have valid : validate chainTypes (.declared "Chain") (emptyLinks count) = .ok () :=
    checkWithin_emptyLinks (by rw [depth_emptyLinks]; omega) "$"
  rw [encode, valid]
  rfl

/-- Whatever an encoded value without floats is decoded as is the value itself, and every value
that is nested no deeper than the decoder reads is decoded. -/
theorem decoded_eq_encoded {types : DeclSet} {type : TypeRef} {value : Json}
    {bytes : List UInt8} (normal : value.isNormal) (floatFree : value.isFloatFree)
    (encoded : encode types type value = .ok bytes) :
    (∀ decoded, decode types type bytes = .ok decoded → decoded = value) ∧
      (value.depth ≤ Json.maxNesting → decode types type bytes = .ok value) := by
  rw [decode_of_encode normal floatFree encoded]
  refine ⟨fun decoded accepted => ?_, fun shallow => if_pos shallow⟩
  split at accepted
  · exact (Except.ok.inj accepted).symm
  · cases accepted

/-- One link with a negative count and a label full of escapes. -/
def escapedLink : Json :=
  link (.integer (-4) (by decide) (by decide)) "\"\\\n\x1f é😀" endOfChain

theorem decoded_eq_encoded_escapedLink :
    escapedLink.isNormal ∧ escapedLink.isFloatFree ∧
      encode chainTypes (.declared "Chain") escapedLink =
        .ok (Text.utf8 escapedLink.compact) ∧
      escapedLink.depth ≤ Json.maxNesting ∧
      decode chainTypes (.declared "Chain") (Text.utf8 escapedLink.compact) =
        .ok escapedLink ∧
      ∀ decoded, decode chainTypes (.declared "Chain") (Text.utf8 escapedLink.compact) =
        .ok decoded → decoded = escapedLink := by
  have normal : escapedLink.isNormal := by decide
  have floatFree : escapedLink.isFloatFree := by decide
  have encoded : encode chainTypes (.declared "Chain") escapedLink =
      .ok (Text.utf8 escapedLink.compact) := rfl
  have shallow : escapedLink.depth ≤ Json.maxNesting := by decide
  obtain ⟨same, accepted⟩ := decoded_eq_encoded normal floatFree encoded
  exact ⟨normal, floatFree, encoded, shallow, accepted shallow, same⟩

/-- An encoded value without floats is decoded exactly if it is nested no deeper than the decoder
reads; a deeper one is refused for its nesting. -/
theorem encoded_accepted_iff_depth_le {types : DeclSet} {type : TypeRef} {value : Json}
    {bytes : List UInt8} (normal : value.isNormal) (floatFree : value.isFloatFree)
    (encoded : encode types type value = .ok bytes) :
    ((∃ decoded, decode types type bytes = .ok decoded) ↔ value.depth ≤ Json.maxNesting) ∧
      (Json.maxNesting < value.depth →
        decode types type bytes = .error (.malformed .nestingLimit)) := by
  rw [decode_of_encode normal floatFree encoded]
  by_cases shallow : value.depth ≤ Json.maxNesting
  · rw [if_pos shallow]
    exact ⟨⟨fun _ => shallow, fun _ => ⟨value, rfl⟩⟩, fun deep => by omega⟩
  · rw [if_neg shallow]
    refine ⟨⟨?_, fun fits => absurd fits shallow⟩, fun _ => rfl⟩
    rintro ⟨decoded, accepted⟩
    cases accepted

theorem encoded_accepted_iff_depth_le_emptyLinks :
    (emptyLinks 63).isNormal ∧ (emptyLinks 63).isFloatFree ∧
      encode chainTypes (.declared "Chain") (emptyLinks 63) =
        .ok (Text.utf8 (emptyLinks 63).compact) ∧
      ((∃ decoded, decode chainTypes (.declared "Chain") (Text.utf8 (emptyLinks 63).compact) =
        .ok decoded) ↔ (emptyLinks 63).depth ≤ Json.maxNesting) ∧
      (Json.maxNesting < (emptyLinks 63).depth →
        decode chainTypes (.declared "Chain") (Text.utf8 (emptyLinks 63).compact) =
          .error (.malformed .nestingLimit)) := by
  have normal := isNormal_emptyLinks 63
  have floatFree := isFloatFree_emptyLinks 63
  have encoded := encode_emptyLinks 63
  exact ⟨normal, floatFree, encoded, encoded_accepted_iff_depth_le normal floatFree encoded⟩

/-- A chain of sixty-four links is encoded, but its text is nested one level too deep to be
decoded. -/
theorem encoded_not_decoded_emptyLinks :
    (emptyLinks 64).isNormal ∧ (emptyLinks 64).isFloatFree ∧
      ∃ bytes, encode chainTypes (.declared "Chain") (emptyLinks 64) = .ok bytes ∧
        ¬∃ decoded, decode chainTypes (.declared "Chain") bytes = .ok decoded := by
  have normal := isNormal_emptyLinks 64
  have floatFree := isFloatFree_emptyLinks 64
  have encoded := encode_emptyLinks 64
  have deep : ¬(emptyLinks 64).depth ≤ Json.maxNesting := by
    rw [depth_emptyLinks]
    decide
  refine ⟨normal, floatFree, _, encoded, ?_⟩
  rintro ⟨decoded, accepted⟩
  rw [decode_of_encode normal floatFree encoded, if_neg deep] at accepted
  cases accepted

end Structured
end ForeignBindings
