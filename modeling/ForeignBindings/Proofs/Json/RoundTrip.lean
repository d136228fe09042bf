import ForeignBindings.Proofs.Json.Scalars
import ForeignBindings.Proofs.Json.Normal
import ForeignBindings.Proofs.Text.Pieces

/-!
# Reading printed documents

The compact form of a document whose numbers are integers is read back as the document, if it is
nested no deeper than the reader allows; a document that is nested deeper is refused for its
nesting and for nothing else.
-/

namespace ForeignBindings
namespace Json

mutual

/-- Whether every number of a document is an integer. -/
def isFloatFree : Json → Bool
  | .number (.integer ..) => true
  | .number (.float ..) => false
  | .array items => areFloatFreeItems items
  | .object members => areFloatFreeMembers members
  | .null | .bool _ | .string _ => true

/-- Whether every number in the items of an array is an integer. -/
def areFloatFreeItems : List Json → Bool
  | [] => true
  | item :: rest => isFloatFree item && areFloatFreeItems rest

/-- Whether every number in the members of an object is an integer. -/
def areFloatFreeMembers : List (String × Json) → Bool
  | [] => true
  | (_, value) :: rest => isFloatFree value && areFloatFreeMembers rest

end

theorem areFloatFreeItems_iff {items : List Json} :
    areFloatFreeItems items ↔ ∀ item ∈ items, item.isFloatFree := by
  induction items with
  | nil => simp [areFloatFreeItems]
  | cons item rest induction => simp [areFloatFreeItems, induction]

theorem areFloatFreeMembers_iff {members : List (String × Json)} :
    areFloatFreeMembers members ↔ ∀ member ∈ members, member.2.isFloatFree := by
  induction members with
  | nil => simp [areFloatFreeMembers]
  | cons member rest induction => simp [areFloatFreeMembers, induction]

theorem isFloatFree_array {items : List Json} :
    (Json.array items).isFloatFree ↔ ∀ item ∈ items, item.isFloatFree := by
  rw [isFloatFree, areFloatFreeItems_iff]

theorem isFloatFree_object {members : List (String × Json)} :
    (Json.object members).isFloatFree ↔ ∀ member ∈ members, member.2.isFloatFree := by
  rw [isFloatFree, areFloatFreeMembers_iff]

/-- Whether a letter starts the text of a scalar without floats. -/
def startsScalar (letter : Char) : Bool :=
  letter.isDigit || letter == '-' || letter == '"' || letter == 'n' || letter == 't' ||
    letter == 'f'

theorem isBlank_of_startsScalar {letter : Char} (starts : startsScalar letter) :
    isBlank letter = false := by
  rw [Bool.eq_false_iff]
  intro blank
  simp only [isBlank, Bool.or_eq_true, beq_iff_eq] at blank
  rcases blank with ((rfl | rfl) | rfl) | rfl <;> revert starts <;> decide

theorem startsScalar_integerChars (value : Int) :
    ∃ first others, Number.integerChars value = first :: others ∧ startsScalar first := by
  by_cases negative : value < 0
  · exact ⟨'-', Nat.toDigits 10 value.natAbs, by simp [Number.integerChars, negative], rfl⟩
  · obtain ⟨first, others, written⟩ :=
      List.exists_cons_of_ne_nil (Nat.toDigits_ne_nil (n := value.natAbs) (b := 10))
    have isDigit : first.isDigit :=
      Nat.isDigit_of_mem_toDigits (b := 10) (by decide) (by decide)
        (written ▸ List.mem_cons_self)
    exact ⟨first, others, by simp [Number.integerChars, negative, written],
      by simp [startsScalar, isDigit]⟩

/-- The text of a document starts neither with a blank nor with the end of an array. -/
theorem chars_eq_cons {document : Json} (floatFree : document.isFloatFree) :
    ∃ first others, document.chars = first :: others ∧ isBlank first = false ∧ first ≠ ']' := by
  match document with
  | .null | .bool true | .bool false | .string _ => exact ⟨_, _, rfl, rfl, by decide⟩
  | .array [] | .array (_ :: _) | .object [] | .object ((_, _) :: _) =>
      exact ⟨_, _, rfl, rfl, by decide⟩
  | .number (.integer value _ _) =>
      obtain ⟨first, others, written, starts⟩ := startsScalar_integerChars value
      refine ⟨first, others, written, isBlank_of_startsScalar starts, ?_⟩
      rintro rfl
      exact absurd starts (by decide)

theorem skipBlank_of_isBlank_eq_false {letter : Char} (visible : isBlank letter = false)
    (rest : Input) : skipBlank (some letter :: rest) = some letter :: rest := by
  simp [skipBlank, visible]

theorem readValue_of_startsScalar {letter : Char} (starts : startsScalar letter)
    (steps nesting : Nat) (rest : Input) :
    readValue steps nesting (some letter :: rest) = readScalar (some letter :: rest) := by
  have noArray : letter ≠ '[' := by
    rintro rfl
    exact absurd starts (by decide)
  have noObject : letter ≠ '\x7b' := by
    rintro rfl
    exact absurd starts (by decide)
  cases nesting with
  | zero =>
      rw [readValue, skipBlank_of_isBlank_eq_false (isBlank_of_startsScalar starts)]
      split <;> simp_all
  | succ nesting =>
      rw [readValue, skipBlank_of_isBlank_eq_false (isBlank_of_startsScalar starts)]
      split <;> simp_all

section Steps

variable {α : Type} {reader : Input → Except Fault (α × Input)} {input rest : Input} {value : α}
  {fault : Fault} (steps : Nat)

theorem readItems_of_error (read : reader input = .error fault) :
    readItems reader (steps + 1) input = .error fault := by
  rw [readItems, read]
  rfl

theorem readItems_of_end (read : reader input = .ok (value, some ']' :: rest)) :
    readItems reader (steps + 1) input = .ok ([value], rest) := by
  rw [readItems, read]
  rfl

theorem readItems_of_comma {letter : Char} (visible : isBlank letter = false)
    (notEnd : letter ≠ ']') (read : reader input = .ok (value, some ',' :: some letter :: rest)) :
    readItems reader (steps + 1) input =
      (readItems reader steps (some letter :: rest)).map fun result =>
        (value :: result.1, result.2) := by
  rw [readItems, read]
  simp only [bind, Except.bind, skipBlank_of_isBlank_eq_false (show isBlank ',' = false from rfl),
    skipBlank_of_isBlank_eq_false visible]
  split
  · simp_all
  · simp_all
  · cases readItems reader steps (some letter :: rest) <;> rfl

variable {members : List (String × α)} {name : String}

theorem readMember_of_error (read : reader input = .error fault) :
    readMember reader members name (some ':' :: input) = .error fault := by
  rw [readMember, expectColon, skipBlank_of_isBlank_eq_false (show isBlank ':' = false from rfl)]
  simp only [bind, Except.bind, read]

theorem readMember_of_ok (read : reader input = .ok (value, rest)) :
    readMember reader members name (some ':' :: input) = .ok ((name, value) :: members, rest) := by
  rw [readMember, expectColon, skipBlank_of_isBlank_eq_false (show isBlank ':' = false from rfl)]
  simp only [bind, Except.bind, read]
  rfl

/-- The text of a name and of the colon behind it, from within its quotes on. -/
def nameChars (name : String) : List Char :=
  name.toList.flatMap escape ++ ['"', ':']

theorem readString_nameChars (name : String) (input : Input) :
    readString ((nameChars name).map some ++ input) = .ok (name, some ':' :: input) := by
  rw [nameChars, List.map_append, List.append_assoc]
  exact readString_escape name (some ':' :: input)

theorem readEntries_of_error (read : reader input = .error fault) :
    readEntries (readMember reader) (steps + 1) members ((nameChars name).map some ++ input) =
      .error fault := by
  rw [readEntries, readString_nameChars]
  simp only [bind, Except.bind, readMember_of_error read]

theorem readEntries_of_end (read : reader input = .ok (value, some '\x7d' :: rest)) :
    readEntries (readMember reader) (steps + 1) members ((nameChars name).map some ++ input) =
      .ok ((name, value) :: members, rest) := by
  rw [readEntries, readString_nameChars]
  simp only [bind, Except.bind, readMember_of_ok read]
  rfl

theorem readEntries_of_comma (read : reader input = .ok (value, some ',' :: some '"' :: rest)) :
    readEntries (readMember reader) (steps + 1) members ((nameChars name).map some ++ input) =
      readEntries (readMember reader) steps ((name, value) :: members) rest := by
  rw [readEntries, readString_nameChars]
  simp only [bind, Except.bind, readMember_of_ok read]
  rfl

end Steps

/-- Whether a reader reads a document from its text whatever follows, and refuses it exactly if it
is nested too deeply. -/
def Reads (reader : Input → Except Fault (Json × Input)) (nesting : Nat) (document : Json) :
    Prop :=
  ∀ rest, endsNumber rest →
    reader (document.chars.map some ++ rest) =
      if document.depth ≤ nesting then .ok (document, rest) else .error .nestingLimit

theorem readItems_chars {reader : Input → Except Fault (Json × Input)} {nesting : Nat}
    {first : Json} {others : List Json}
    (floatFree : ∀ item ∈ first :: others, item.isFloatFree)
    (reads : ∀ item ∈ first :: others, Reads reader nesting item) {steps : Nat}
    (enough : others.length < steps) (rest : Input) :
    readItems reader steps ((first.chars ++ moreItemChars others).map some ++ rest) =
      if itemsDepth (first :: others) ≤ nesting then .ok (first :: others, rest)
      else .error .nestingLimit := by
  induction others generalizing first steps with
  | nil =>
      obtain ⟨steps, rfl⟩ := Nat.exists_eq_add_one_of_ne_zero (Nat.ne_zero_of_lt enough)
      have read := reads first List.mem_cons_self (some ']' :: rest) rfl
      rw [moreItemChars, List.map_append, List.append_assoc, List.map_singleton,
        List.singleton_append]
      by_cases fits : first.depth ≤ nesting
      · rw [if_pos fits] at read
        rw [readItems_of_end steps read, if_pos (by simpa [itemsDepth] using fits)]
      · rw [if_neg fits] at read
        rw [readItems_of_error steps read, if_neg (by simpa [itemsDepth] using fits)]
  | cons second others induction =>
      obtain ⟨steps, rfl⟩ := Nat.exists_eq_add_one_of_ne_zero (Nat.ne_zero_of_lt enough)
      obtain ⟨first_reads, others_read⟩ := List.forall_mem_cons.mp reads
      obtain ⟨_, others_floatFree⟩ := List.forall_mem_cons.mp floatFree
      obtain ⟨letter, letters, written, visible, notEnd⟩ :=
        chars_eq_cons (others_floatFree second List.mem_cons_self)
      have more := induction others_floatFree others_read (Nat.lt_of_succ_lt_succ enough)
      have read := first_reads
        (some ',' :: ((second.chars ++ moreItemChars others).map some ++ rest)) rfl
      have text : (first.chars ++ moreItemChars (second :: others)).map some ++ rest =
          first.chars.map some ++
            some ',' :: ((second.chars ++ moreItemChars others).map some ++ rest) := by
        simp [moreItemChars]
      have depth : itemsDepth (first :: second :: others) ≤ nesting ↔
          first.depth ≤ nesting ∧ itemsDepth (second :: others) ≤ nesting := by
        rw [itemsDepth, Nat.max_le]
      rw [text]
      by_cases fits : first.depth ≤ nesting
      · rw [if_pos fits] at read
        rw [written, List.cons_append, List.map_cons, List.cons_append] at read more ⊢
        rw [readItems_of_comma steps visible notEnd read, more]
        simp only [depth, fits, true_and]
        split <;> rfl
      · rw [if_neg fits] at read
        rw [readItems_of_error steps read, if_neg (mt depth.mp (fun both => fits both.1))]

theorem readEntries_chars {reader : Input → Except Fault (Json × Input)} {nesting : Nat}
    {name : String} {value : Json} {others : List (String × Json)}
    (reads : ∀ member ∈ (name, value) :: others, Reads reader nesting member.2) {steps : Nat}
    (enough : others.length < steps) (members : List (String × Json)) (rest : Input) :
    readEntries (readMember reader) steps members
        ((nameChars name ++ (value.chars ++ moreMemberChars others)).map some ++ rest) =
      if membersDepth ((name, value) :: others) ≤ nesting then
        .ok (others.reverse ++ (name, value) :: members, rest)
      else .error .nestingLimit := by
  induction others generalizing name value members steps with
  | nil =>
      obtain ⟨steps, rfl⟩ := Nat.exists_eq_add_one_of_ne_zero (Nat.ne_zero_of_lt enough)
      have read := reads (name, value) List.mem_cons_self (some '\x7d' :: rest) rfl
      rw [moreMemberChars, List.map_append, List.append_assoc, List.map_append, List.append_assoc,
        List.map_singleton, List.singleton_append]
      by_cases fits : value.depth ≤ nesting
      · rw [if_pos fits] at read
        rw [readEntries_of_end steps read, if_pos (by simpa [membersDepth] using fits)]
        rfl
      · rw [if_neg fits] at read
        rw [readEntries_of_error steps read, if_neg (by simpa [membersDepth] using fits)]
  | cons second others induction =>
      obtain ⟨steps, rfl⟩ := Nat.exists_eq_add_one_of_ne_zero (Nat.ne_zero_of_lt enough)
      obtain ⟨first_reads, others_read⟩ := List.forall_mem_cons.mp reads
      obtain ⟨secondName, secondValue⟩ := second
      have more := induction others_read (Nat.lt_of_succ_lt_succ enough) ((name, value) :: members)
      have read := first_reads (some ',' :: some '"' ::
        ((nameChars secondName ++ (secondValue.chars ++ moreMemberChars others)).map some ++
          rest)) rfl
      have text :
          (nameChars name ++ (value.chars ++
              moreMemberChars ((secondName, secondValue) :: others))).map some ++ rest =
            (nameChars name).map some ++ (value.chars.map some ++ some ',' :: some '"' ::
              ((nameChars secondName ++ (secondValue.chars ++ moreMemberChars others)).map some ++
                rest)) := by
        simp [moreMemberChars, nameChars, stringChars]
      have depth : membersDepth ((name, value) :: (secondName, secondValue) :: others) ≤ nesting ↔
          value.depth ≤ nesting ∧
            membersDepth ((secondName, secondValue) :: others) ≤ nesting := by
        rw [membersDepth, Nat.max_le]
      rw [text]
      by_cases fits : value.depth ≤ nesting
      · rw [if_pos fits] at read
        rw [readEntries_of_comma steps read, more]
        simp only [depth, fits, true_and, List.reverse_cons, List.append_assoc,
          List.singleton_append]
      · rw [if_neg fits] at read
        rw [readEntries_of_error steps read, if_neg (mt depth.mp (fun both => fits both.1))]

theorem length_lt_moreItemChars (items : List Json) :
    items.length < (moreItemChars items).length := by
  induction items with
  | nil => simp [moreItemChars]
  | cons item rest induction =>
      simp only [moreItemChars, List.length_cons, List.length_append]
      omega

theorem length_chars_le_moreItemChars {items : List Json} :
    ∀ item ∈ items, item.chars.length ≤ (moreItemChars items).length := by
  induction items with
  | nil => simp
  | cons item rest induction =>
      simp only [moreItemChars, List.length_cons, List.length_append, List.forall_mem_cons]
      exact ⟨by omega, fun other inside => by have := induction other inside; omega⟩

theorem length_lt_moreMemberChars (members : List (String × Json)) :
    members.length < (moreMemberChars members).length := by
  induction members with
  | nil => simp [moreMemberChars]
  | cons member rest induction =>
      simp only [moreMemberChars, List.length_cons, List.length_append]
      omega

theorem length_chars_le_moreMemberChars {members : List (String × Json)} :
    ∀ member ∈ members, member.2.chars.length ≤ (moreMemberChars members).length := by
  induction members with
  | nil => simp
  | cons member rest induction =>
      simp only [moreMemberChars, List.length_cons, List.length_append, List.forall_mem_cons]
      exact ⟨by omega, fun other inside => by have := induction other inside; omega⟩

theorem length_chars_le_array {items : List Json} {item : Json} (inside : item ∈ items) :
    item.chars.length ≤ (Json.array items).chars.length := by
  cases items with
  | nil => exact absurd inside List.not_mem_nil
  | cons first others =>
      simp only [chars, List.length_cons, List.length_append]
      rcases List.mem_cons.mp inside with rfl | inOthers
      · omega
      · have shorter := length_chars_le_moreItemChars item inOthers
        omega

theorem length_chars_le_object {members : List (String × Json)} {member : String × Json}
    (inside : member ∈ members) :
    member.2.chars.length ≤ (Json.object members).chars.length := by
  cases members with
  | nil => exact absurd inside List.not_mem_nil
  | cons first others =>
      simp only [chars, List.length_cons, List.length_append]
      rcases List.mem_cons.mp inside with rfl | inOthers
      · omega
      · have shorter := length_chars_le_moreMemberChars member inOthers
        omega

theorem reads_of_scalar {document : Json} (scalar : document.depth = 0) {letter : Char}
    {letters : List Char} (written : document.chars = letter :: letters)
    (starts : startsScalar letter)
    (read : ∀ rest, endsNumber rest →
      readScalar (document.chars.map some ++ rest) = .ok (document, rest))
    (steps nesting : Nat) : Reads (readValue steps nesting) nesting document := by
  intro rest ends
  have scalarRead := read rest ends
  rw [written, List.map_cons, List.cons_append] at scalarRead ⊢
  rw [readValue_of_startsScalar starts, scalarRead, if_pos (by omega)]

theorem readValue_of_bracket (steps nesting : Nat) (input : Input) :
    readValue steps (nesting + 1) (some '[' :: input) =
      (readArray (readValue steps nesting) steps input).map fun result =>
        (.array result.1, result.2) := by
  rw [readValue, skipBlank_of_isBlank_eq_false rfl]
  simp only [bind, Except.bind]
  cases readArray (readValue steps nesting) steps input <;> rfl

theorem readValue_of_brace (steps nesting : Nat) (input : Input) :
    readValue steps (nesting + 1) (some '\x7b' :: input) =
      (readObject (readMember (readValue steps nesting)) steps [] input).map fun result =>
        (.object result.1.reverse, result.2) := by
  rw [readValue, skipBlank_of_isBlank_eq_false rfl]
  simp only [bind, Except.bind]
  cases readObject (readMember (readValue steps nesting)) steps [] input <;> rfl

theorem reads_array {items : List Json} (floatFree : ∀ item ∈ items, item.isFloatFree)
    {steps nesting : Nat} (reads : ∀ item ∈ items, Reads (readValue steps nesting) nesting item)
    (enough : (Json.array items).chars.length ≤ steps) :
    Reads (readValue steps (nesting + 1)) (nesting + 1) (.array items) := by
  intro rest _
  cases items with
  | nil =>
      rw [chars, List.map_cons, List.cons_append, readValue_of_bracket]
      rfl
  | cons first others =>
      obtain ⟨letter, letters, written, visible, notEnd⟩ :=
        chars_eq_cons (floatFree first List.mem_cons_self)
      have count := length_lt_moreItemChars others
      simp only [chars, List.length_cons, List.length_append] at enough
      have more := readItems_chars floatFree reads
        (show others.length < steps by omega) rest
      rw [chars, List.map_cons, List.cons_append, readValue_of_bracket, readArray]
      rw [written, List.cons_append, List.map_cons, List.cons_append] at more ⊢
      rw [skipBlank_of_isBlank_eq_false visible]
      split
      · simp_all
      · simp_all
      · rw [more, depth]
        simp only [Nat.add_le_add_iff_right]
        split <;> rfl

theorem reads_object {members : List (String × Json)} {steps nesting : Nat}
    (reads : ∀ member ∈ members, Reads (readValue steps nesting) nesting member.2)
    (enough : (Json.object members).chars.length ≤ steps) :
    Reads (readValue steps (nesting + 1)) (nesting + 1) (.object members) := by
  intro rest _
  cases members with
  | nil =>
      rw [chars, List.map_cons, List.cons_append, readValue_of_brace]
      rfl
  | cons member others =>
      obtain ⟨name, value⟩ := member
      have count := length_lt_moreMemberChars others
      simp only [chars, List.length_cons, List.length_append] at enough
      have more := readEntries_chars reads (show others.length < steps by omega) [] rest
      have text : (Json.object ((name, value) :: others)).chars.map some ++ rest =
          some '\x7b' :: some '"' ::
            ((nameChars name ++ (value.chars ++ moreMemberChars others)).map some ++ rest) := by
        simp [chars, nameChars, stringChars]
      rw [text, readValue_of_brace, readObject, skipBlank_of_isBlank_eq_false rfl]
      simp only
      rw [more, depth]
      simp only [Nat.add_le_add_iff_right]
      split
      · simp [Except.map]
      · rfl

/-- Reading the text of a document without floats gives the document back, whatever follows, if the
document is not nested too deeply. -/
theorem reads_readValue {document : Json} (floatFree : document.isFloatFree) {steps : Nat}
    (enough : document.chars.length ≤ steps) (nesting : Nat) :
    Reads (readValue steps nesting) nesting document := by
  induction document using nestedInduction generalizing nesting with
  | null =>
      exact reads_of_scalar rfl rfl rfl (fun _ _ => rfl) steps nesting
  | bool value =>
      cases value <;> exact reads_of_scalar rfl rfl rfl (fun _ _ => rfl) steps nesting
  | number value =>
      match value with
      | .integer value lower upper =>
          obtain ⟨first, others, written, starts⟩ := startsScalar_integerChars value
          have scalar : (Json.number (.integer value lower upper)).depth = 0 := rfl
          exact reads_of_scalar scalar written starts
            (fun _ ends => readScalar_integerChars lower upper ends) steps nesting
  | string value =>
      refine reads_of_scalar rfl rfl rfl (fun rest _ => ?_) steps nesting
      have text : (Json.string value).chars.map some ++ rest =
          some '"' :: ((value.toList.flatMap escape).map some ++ some '"' :: rest) := by
        simp [chars, stringChars]
      rw [text, readScalar, readString_escape]
      rfl
  | array items induction =>
      have each := isFloatFree_array.mp floatFree
      cases nesting with
      | zero =>
          intro rest _
          cases items <;> rfl
      | succ nesting =>
          refine reads_array each (fun item inside => ?_) enough
          exact induction item inside (each item inside)
            (Nat.le_trans (length_chars_le_array inside) enough) nesting
  | object members induction =>
      have each := isFloatFree_object.mp floatFree
      cases nesting with
      | zero =>
          intro rest _
          cases members <;> rfl
      | succ nesting =>
          refine reads_object (fun member inside => ?_) enough
          exact induction member inside (each member inside)
            (Nat.le_trans (length_chars_le_object inside) enough) nesting

/-- The compact form of a document without floats is read back up to the greatest nesting. -/
theorem read_compact {document : Json} (floatFree : document.isFloatFree) :
    read (Text.Piece.ofText document.compact) =
      if document.depth ≤ maxNesting then .ok document else .error .nestingLimit := by
  have enough : document.chars.length ≤
      (document.chars.map (some : Char → Text.Piece)).length + 1 := by simp
  have value := reads_readValue floatFree enough maxNesting [] rfl
  rw [List.append_nil] at value
  rw [read, Text.Piece.ofText, compact, String.toList_ofList, value]
  split <;> rfl

/-- Whether a document has no floats and is nested no deeper than a given height. -/
def IsPlain (height : Nat) (document : Json) : Prop :=
  document.isFloatFree ∧ document.depth ≤ height

namespace IsPlain

variable {height more : Nat} {document : Json}

theorem mono (plain : IsPlain height document) (higher : height ≤ more) : IsPlain more document :=
  ⟨plain.1, Nat.le_trans plain.2 higher⟩

theorem null : IsPlain height .null := ⟨rfl, Nat.zero_le height⟩

theorem bool (value : Bool) : IsPlain height (.bool value) := ⟨rfl, Nat.zero_le height⟩

theorem string (text : String) : IsPlain height (.string text) := ⟨rfl, Nat.zero_le height⟩

theorem array {items : List Json} (each : ∀ item ∈ items, IsPlain height item) :
    IsPlain (height + 1) (.array items) := by
  refine ⟨isFloatFree_array.mpr fun item inside => (each item inside).1, ?_⟩
  rw [depth, Nat.add_le_add_iff_right]
  induction items with
  | nil => exact Nat.zero_le height
  | cons item items induction =>
      obtain ⟨first, others⟩ := List.forall_mem_cons.mp each
      exact Nat.max_le.mpr ⟨first.2, induction others⟩

theorem object {members : List (String × Json)}
    (each : ∀ member ∈ members, IsPlain height member.2) :
    IsPlain (height + 1) (.object members) := by
  refine ⟨isFloatFree_object.mpr fun member inside => (each member inside).1, ?_⟩
  rw [depth, Nat.add_le_add_iff_right]
  induction members with
  | nil => exact Nat.zero_le height
  | cons member members induction =>
      obtain ⟨first, others⟩ := List.forall_mem_cons.mp each
      exact Nat.max_le.mpr ⟨first.2, induction others⟩

/-- The compact form of a document that is not too high is read back. -/
theorem read_compact (plain : IsPlain maxNesting document) :
    read (Text.Piece.ofText document.compact) = .ok document := by
  rw [Json.read_compact plain.1, if_pos plain.2]

end IsPlain

end Json
end ForeignBindings
