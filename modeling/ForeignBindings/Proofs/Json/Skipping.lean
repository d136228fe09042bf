import ForeignBindings.Proofs.Json.Loops

/-!
# Passing over values

One who passes over a value arrives where the reader of the value ends, whatever it is read as.
How many levels and steps are allowed makes no difference to where that is.
-/

namespace ForeignBindings
namespace Json

open Checks

/-- Where one who passes over a string stands when its reader is in a state: whether a backslash
came last, and how many digits are to come. -/
def StringState.place : StringState → Bool × Nat
  | .plain => (false, 0)
  | .escape => (true, 0)
  | .digits _ left _ => (false, left)
  | .afterHigh _ => (false, 0)
  | .afterHighBackslash _ => (true, 0)

/-- Whether a reader within an escape has a digit to come. -/
def StringState.isOpen : StringState → Prop
  | .digits _ left _ => 0 < left
  | _ => True

theorem StringState.isOpen_plain : isOpen .plain := trivial

theorem StringState.isOpen_escape : isOpen .escape := trivial

theorem StringState.isOpen_digits (high : Option Nat) : isOpen (.digits high 4 0) := by
  rw [isOpen]
  decide

theorem StringState.isOpen_afterHighBackslash (high : Nat) : isOpen (.afterHighBackslash high) :=
  trivial

theorem finishEscape_place {high : Option Nat} {value : Nat} {state : StringState}
    {letter : Option Char} (finished : finishEscape high value = .ok (state, letter)) :
    state.place = (false, 0) ∧ state.isOpen := by
  unfold finishEscape at finished
  split at finished <;> (try split at finished) <;> (try split at finished) <;> cases finished <;>
    exact ⟨rfl, trivial⟩

/-- Whether the rest of a string, where its reader ends, is passed over to the same place, in
whatever state the reader is. -/
def SkipsAsRead (input : Input) : Prop :=
  ∀ {state : StringState} {wellFormed : Bool} {taken : List Char} {text : String} {rest : Input},
    state.isOpen → readChars state wellFormed taken input = .ok (text, rest) →
      skipChars state.place.1 state.place.2 input = .ok rest

namespace SkipsAsRead

variable {piece : Text.Piece} {input rest : Input} {wellFormed : Bool} {taken : List Char}
  {text : String}

/-- One who passes over a string looks for the four digits of an escape as its reader does. -/
theorem fourDigits (further : SkipsAsRead input) {high : Option Nat}
    (read : (if hasFourBytes input then readChars (.digits high 4 0) wellFormed taken input
      else .error .endInString) = .ok (text, rest)) :
    (if hasFourBytes input then skipChars false 4 input else .error .endInString) = .ok rest := by
  split at read
  · rw [if_pos ‹_›]
    exact further (StringState.isOpen_digits high) read
  · cases read

theorem plain (further : SkipsAsRead input)
    (read : readChars .plain wellFormed taken (piece :: input) = .ok (text, rest)) :
    skipChars false 0 (piece :: input) = .ok rest := by
  simp only [readChars, skipChars] at read ⊢
  split at read
  · exact further StringState.isOpen_plain read
  · split at read <;> cases read
    rfl
  · exact further StringState.isOpen_escape read
  · split at read
    · cases read
    · have skipped := further StringState.isOpen_plain read
      simp only [StringState.place] at skipped
      split <;> simp_all

theorem escape (further : SkipsAsRead input)
    (read : readChars .escape wellFormed taken (piece :: input) = .ok (text, rest)) :
    skipChars true 0 (piece :: input) = .ok rest := by
  simp only [readChars, skipChars] at read ⊢
  split at read
  · rw [if_pos ‹_›]
    exact further.fourDigits read
  · split at read
    · rw [if_neg ‹_›, if_pos (by simp [*])]
      exact further StringState.isOpen_plain read
    · cases read

theorem digits (further : SkipsAsRead input) {high : Option Nat} {left value : Nat}
    (read : readChars (.digits high (left + 1) value) wellFormed taken (piece :: input) =
      .ok (text, rest)) :
    skipChars false (left + 1) (piece :: input) = .ok rest := by
  simp only [readChars, skipChars] at read ⊢
  split at read
  · cases read
  next digit isDigit =>
    rw [isDigit]
    by_cases more : 1 < left + 1
    · rw [if_pos more] at read
      have open_digits : StringState.isOpen (.digits high left (value * 16 + digit)) :=
        Nat.lt_of_succ_lt_succ more
      exact further open_digits read
    · obtain rfl : left = 0 := by omega
      rw [if_neg more] at read
      split at read
      · cases read
      all_goals
        rename_i finished
        obtain ⟨place, stillOpen⟩ := finishEscape_place finished
        simpa only [place] using further stillOpen read

theorem afterHigh (further : SkipsAsRead input) {high : Nat}
    (read : readChars (.afterHigh high) wellFormed taken (piece :: input) = .ok (text, rest)) :
    skipChars false 0 (piece :: input) = .ok rest := by
  simp only [readChars] at read
  split at read
  next backslash =>
    subst backslash
    exact further (StringState.isOpen_afterHighBackslash high) read
  · cases read

theorem afterHighBackslash (further : SkipsAsRead input) {high : Nat}
    (read : readChars (.afterHighBackslash high) wellFormed taken (piece :: input) =
      .ok (text, rest)) :
    skipChars true 0 (piece :: input) = .ok rest := by
  simp only [readChars, skipChars] at read ⊢
  split at read
  · rw [if_pos ‹_›]
    exact further.fourDigits read
  · cases read

end SkipsAsRead

theorem skipsAsRead (input : Input) : SkipsAsRead input := by
  induction input with
  | nil =>
      intro state wellFormed taken text rest isOpen read
      cases state <;> cases read
  | cons piece input further =>
      intro state wellFormed taken text rest isOpen read
      cases state with
      | plain => exact further.plain read
      | escape => exact further.escape read
      | digits high left value =>
          obtain ⟨left, rfl⟩ := Nat.exists_eq_add_one_of_ne_zero (Nat.ne_of_gt isOpen)
          exact further.digits read
      | afterHigh high => exact further.afterHigh read
      | afterHighBackslash high => exact further.afterHighBackslash read

theorem skipChars_of_readString {input rest : Input} {text : String}
    (read : readString input = .ok (text, rest)) : skipChars false 0 input = .ok rest :=
  skipsAsRead input StringState.isOpen_plain read

theorem expectDigits_eq_ok_iff {input rest : Input} {digits : List Nat} :
    expectDigits input = .ok (digits, rest) ↔ digitRun input = (digits, rest) ∧ digits ≠ [] := by
  unfold expectDigits
  split <;> simp_all
  grind

theorem skipDigits_of_expectDigits {input rest : Input} {digits : List Nat}
    (read : expectDigits input = .ok (digits, rest)) : skipDigits input = .ok rest := by
  obtain ⟨run, some⟩ := expectDigits_eq_ok_iff.mp read
  unfold skipDigits
  split <;> simp_all

theorem skipExponent_of_readExponent {input rest : Input} {exponent : Int} {mark : Char}
    (isMark : mark = 'e' ∨ mark = 'E') (read : readExponent input = .ok (exponent, rest)) :
    skipExponent (some mark :: input) = .ok rest := by
  rcases isMark with rfl | rfl
  all_goals
    simp only [skipExponent]
    -- With a sign or without one, the same digits follow.
    split
    all_goals
      simp only [readExponent] at read
      split at read
      · cases read
      · cases read
        exact skipDigits_of_expectDigits ‹_›

/-- A number behind which the input is as it was left by the reader of its last part. -/
theorem eq_of_number_eq_ok {number : Except Fault Number} {value : Number} {after rest : Input}
    (read : (do return (← number, after)) = Except.ok (value, rest)) : after = rest := by
  obtain ⟨_, _, finished⟩ := bind_eq_ok_iff.mp read
  cases finished
  rfl

/-- Passes over what may follow the digits before the point of a number. -/
def skipFraction : Input → Except Fault Input
  | some '.' :: rest => do skipExponent (← skipDigits rest)
  | input => skipExponent input

theorem skipFraction_of_readFraction {negative : Bool} {whole : List Nat} {input rest : Input}
    {value : Number} (read : readFraction negative whole input = .ok (value, rest)) :
    skipFraction input = .ok rest := by
  have exponent (number : Int → Except Fault Number) {mark : Char} {after : Input}
      (isMark : mark = 'e' ∨ mark = 'E')
      (read : (do
        let result ← readExponent after
        return (← number result.1, result.2)) = Except.ok (value, rest)) :
      skipExponent (some mark :: after) = .ok rest := by
    obtain ⟨⟨exponent, final⟩, exponentRead, finished⟩ := bind_eq_ok_iff.mp read
    rw [← eq_of_number_eq_ok finished]
    exact skipExponent_of_readExponent isMark exponentRead
  unfold readFraction at read
  split at read
  · obtain ⟨⟨fraction, behind⟩, digits, read⟩ := bind_eq_ok_iff.mp read
    simp only [skipFraction, skipDigits_of_expectDigits digits, bind, Except.bind]
    simp only at read
    split at read
    · exact exponent (fun e => floatNumber negative (digitsValue (whole ++ fraction))
        (e - fraction.length)) (.inl rfl) read
    · exact exponent (fun e => floatNumber negative (digitsValue (whole ++ fraction))
        (e - fraction.length)) (.inr rfl) read
    · rw [← eq_of_number_eq_ok read]
      unfold skipExponent
      split <;> simp_all
  · exact exponent (floatNumber negative (digitsValue whole)) (.inl rfl) read
  · exact exponent (floatNumber negative (digitsValue whole)) (.inr rfl) read
  · rw [← eq_of_number_eq_ok read]
    unfold skipFraction
    split
    · simp_all
    · unfold skipExponent
      split <;> simp_all

theorem skipNumber_of_digitRun {whole : List Nat} {input behind : Input}
    (run : digitRun input = (whole, behind)) (nonempty : whole ≠ [])
    (noLeadingZero : ∀ second others, whole ≠ 0 :: second :: others) :
    skipNumber input = skipFraction behind := by
  unfold skipNumber skipFraction
  rw [run]
  split <;> grind

theorem skipNumber_of_readNumber {negative : Bool} {input rest : Input} {value : Number}
    (read : readNumber negative input = .ok (value, rest)) : skipNumber input = .ok rest := by
  obtain ⟨⟨whole, behind⟩, digits, read⟩ := bind_eq_ok_iff.mp read
  obtain ⟨run, nonempty⟩ := expectDigits_eq_ok_iff.mp digits
  simp only at read
  split at read
  · cases read
  · rw [skipNumber_of_digitRun run nonempty ‹_›]
    exact skipFraction_of_readFraction read

theorem skipScalar_of_readScalar {input rest : Input} {document : Json}
    (read : readScalar input = .ok (document, rest)) : skipScalar input = .ok rest := by
  unfold readScalar at read
  unfold skipScalar
  split at read
  · cases read
  · obtain ⟨⟨text, after⟩, read, finished⟩ := bind_eq_ok_iff.mp read
    cases finished
    exact skipChars_of_readString read
  iterate 3
    · obtain ⟨after, read, finished⟩ := bind_eq_ok_iff.mp read
      cases finished
      exact read
  · obtain ⟨⟨value, after⟩, read, finished⟩ := bind_eq_ok_iff.mp read
    cases finished
    exact skipNumber_of_readNumber read
  · split at read
    · obtain ⟨⟨value, after⟩, read, finished⟩ := bind_eq_ok_iff.mp read
      cases finished
      have skipped := skipNumber_of_readNumber read
      split <;> simp_all
    · cases read
  · cases read

theorem skipBlank_skipBlank (input : Input) : skipBlank (skipBlank input) = skipBlank input := by
  induction input with
  | nil => rfl
  | cons piece input induction =>
      cases piece with
      | none => rfl
      | some letter =>
          by_cases blank : isBlank letter
          · simpa [skipBlank, blank] using induction
          · simp [skipBlank, blank]

theorem skipValue_skipBlank (steps levels : Nat) (input : Input) :
    skipValue steps levels (skipBlank input) = skipValue steps levels input := by
  cases levels with
  | zero => rfl
  | succ levels => rw [skipValue, skipValue, skipBlank_skipBlank]

section Loops

variable {item other : Input → Except Fault Input} {steps bound : Nat} {input rest : Input}

theorem skipItems_eq_ok_iff :
    skipItems item (steps + 1) input = .ok rest ↔
      ∃ after, item input = .ok after ∧
        (skipBlank after = some ']' :: rest ∨
          ∃ next, skipBlank after = some ',' :: next ∧ skipItems item steps next = .ok rest) := by
  rw [skipItems, bind_eq_ok_iff]
  refine exists_congr fun after => and_congr_right fun _ => ?_
  constructor
  · intro continued
    split at continued
    · cases continued
    · cases continued
      exact .inl ‹_›
    · exact .inr ⟨_, ‹_›, continued⟩
    · cases continued
  · rintro (ended | ⟨next, comma, continued⟩)
    · simp only [ended]
      rfl
    · simpa only [comma] using continued

theorem skipMembers_eq_ok_iff :
    skipMembers item (steps + 1) input = .ok rest ↔
      ∃ key afterKey value after, skipBlank input = some '"' :: key ∧
        skipChars false 0 key = .ok afterKey ∧ expectColon afterKey = .ok value ∧
        item value = .ok after ∧
        (skipBlank after = some '\x7d' :: rest ∨
          ∃ next, skipBlank after = some ',' :: next ∧ skipMembers item steps next = .ok rest) := by
  rw [skipMembers]
  constructor
  · intro skipped
    split at skipped
    · cases skipped
    · obtain ⟨afterKey, name, skipped⟩ := bind_eq_ok_iff.mp skipped
      obtain ⟨value, colon, skipped⟩ := bind_eq_ok_iff.mp skipped
      obtain ⟨after, first, continued⟩ := bind_eq_ok_iff.mp skipped
      refine ⟨_, afterKey, value, after, ‹_›, name, colon, first, ?_⟩
      split at continued
      · cases continued
      · cases continued
        exact .inl ‹_›
      · exact .inr ⟨_, ‹_›, continued⟩
      · cases continued
    · cases skipped
  · rintro ⟨key, afterKey, value, after, quote, name, colon, first, continued⟩
    simp only [quote, bind_eq_ok_iff]
    refine ⟨afterKey, name, value, colon, after, first, ?_⟩
    rcases continued with ended | ⟨next, comma, continued⟩
    · simp only [ended]
      rfl
    · simpa only [comma] using continued

/-- Whether an array or an object starts at an input. -/
def startsNested : Input → Bool
  | some '[' :: _ | some '\x7b' :: _ => true
  | _ => false

theorem skipValue_eq_ok_iff {levels : Nat} :
    skipValue steps (levels + 1) input = .ok rest ↔
      (∃ next, skipBlank input = some '[' :: next ∧
        (skipBlank next = some ']' :: rest ∨ startsItem (skipBlank next) ∧
          skipItems (skipValue steps levels) steps (skipBlank next) = .ok rest)) ∨
      (∃ next, skipBlank input = some '\x7b' :: next ∧
        (skipBlank next = some '\x7d' :: rest ∨
          skipMembers (skipValue steps levels) steps (skipBlank next) = .ok rest)) ∨
      startsNested (skipBlank input) = false ∧ skipScalar (skipBlank input) = .ok rest := by
  rw [skipValue]
  split
  next next bracket =>
    simp only [bracket, startsNested]
    split
    · simp_all [startsItem]
    · simp_all [startsItem]
    next notEmpty notEnd =>
      have starts := startsItem_of_ne notEmpty notEnd
      simp_all
  next next brace =>
    simp only [brace, startsNested]
    split
    next after ended =>
      have stuck : skipMembers (skipValue steps levels) steps (skipBlank next) ≠ .ok rest := by
        intro skipped
        cases steps with
        | zero => cases skipped
        | succ steps =>
            obtain ⟨_, _, _, _, quote, _⟩ := skipMembers_eq_ok_iff.mp skipped
            rw [skipBlank_skipBlank, ended] at quote
            cases quote
      simp_all
    next notEnd => simp_all
  next notArray notObject =>
    have scalar : startsNested (skipBlank input) = false := by
      unfold startsNested
      split <;> simp_all
    simp_all

/-- A loop that may take more steps and whose items may be nested deeper gets no less far. -/
theorem skipItems_mono (enough : steps ≤ bound)
    (more : ∀ input rest, item input = .ok rest → other input = .ok rest)
    (skipped : skipItems item steps input = .ok rest) :
    skipItems other bound input = .ok rest := by
  induction steps generalizing bound input with
  | zero => cases skipped
  | succ steps induction =>
      obtain ⟨bound, rfl⟩ := Nat.exists_eq_add_one_of_ne_zero (Nat.ne_zero_of_lt enough)
      obtain ⟨after, first, ended | ⟨next, comma, others⟩⟩ := skipItems_eq_ok_iff.mp skipped
      · exact skipItems_eq_ok_iff.mpr ⟨after, more input after first, .inl ended⟩
      · exact skipItems_eq_ok_iff.mpr ⟨after, more input after first,
          .inr ⟨next, comma, induction (Nat.le_of_succ_le_succ enough) others⟩⟩

theorem skipMembers_mono (enough : steps ≤ bound)
    (more : ∀ input rest, item input = .ok rest → other input = .ok rest)
    (skipped : skipMembers item steps input = .ok rest) :
    skipMembers other bound input = .ok rest := by
  induction steps generalizing bound input with
  | zero => cases skipped
  | succ steps induction =>
      obtain ⟨bound, rfl⟩ := Nat.exists_eq_add_one_of_ne_zero (Nat.ne_zero_of_lt enough)
      obtain ⟨key, afterKey, value, after, quote, name, colon, first, continued⟩ :=
        skipMembers_eq_ok_iff.mp skipped
      refine skipMembers_eq_ok_iff.mpr
        ⟨key, afterKey, value, after, quote, name, colon, more value after first, ?_⟩
      rcases continued with ended | ⟨next, comma, others⟩
      · exact .inl ended
      · exact .inr ⟨next, comma, induction (Nat.le_of_succ_le_succ enough) others⟩

/-- What can be passed over with some levels and steps can be passed over with more. -/
theorem skipValue_mono {levels height : Nat} (enough : steps ≤ bound) (higher : levels ≤ height)
    (skipped : skipValue steps levels input = .ok rest) :
    skipValue bound height input = .ok rest := by
  induction levels generalizing height input rest with
  | zero => cases skipped
  | succ levels induction =>
      obtain ⟨height, rfl⟩ := Nat.exists_eq_add_one_of_ne_zero (Nat.ne_zero_of_lt higher)
      have inner input rest (skipped : skipValue steps levels input = .ok rest) :=
        induction (Nat.le_of_succ_le_succ higher) skipped
      rcases skipValue_eq_ok_iff.mp skipped with
        ⟨next, bracket, items⟩ | ⟨next, brace, members⟩ | scalar
      · refine skipValue_eq_ok_iff.mpr (.inl ⟨next, bracket, items.imp_right ?_⟩)
        exact And.imp_right (skipItems_mono enough inner)
      · refine skipValue_eq_ok_iff.mpr (.inr (.inl ⟨next, brace, members.imp_right ?_⟩))
        exact skipMembers_mono enough inner
      · exact skipValue_eq_ok_iff.mpr (.inr (.inr scalar))

/-- What is passed over does not depend on how far one may go. -/
theorem skipValue_unique {levels height : Nat} {other : Input}
    (skipped : skipValue steps levels input = .ok rest)
    (otherwise : skipValue bound height input = .ok other) : rest = other := by
  have first := skipValue_mono (Nat.le_max_left steps bound) (Nat.le_max_left levels height) skipped
  have second :=
    skipValue_mono (Nat.le_max_right steps bound) (Nat.le_max_right levels height) otherwise
  exact Except.ok.inj (first.symm.trans second)

theorem skipItems_skipBlank (blank : ∀ input, item (skipBlank input) = item input) :
    skipItems item steps (skipBlank input) = skipItems item steps input := by
  cases steps with
  | zero => rfl
  | succ steps => rw [skipItems, skipItems, blank]

variable {α : Type} {reader : Input → Except Fault (α × Input)}

theorem skipItems_of_readItems (blank : ∀ input, item (skipBlank input) = item input)
    (skips : ∀ input value rest, reader input = .ok (value, rest) → item input = .ok rest)
    {values : List α} (read : readItems reader steps input = .ok (values, rest)) :
    skipItems item steps input = .ok rest := by
  induction steps generalizing input values with
  | zero => cases read
  | succ steps induction =>
      obtain ⟨value, after, others, first, continued, rfl⟩ := readItems_eq_ok_iff.mp read
      refine skipItems_eq_ok_iff.mpr ⟨after, skips input value after first, ?_⟩
      rcases readMore_eq_ok_iff.mp continued with ⟨ended, -⟩ | ⟨next, comma, -, items⟩
      · exact .inl ended
      · exact .inr ⟨next, comma, (skipItems_skipBlank blank).symm.trans (induction items)⟩

theorem skipMembers_of_readEntries
    (skips : ∀ input value rest, reader input = .ok (value, rest) → item input = .ok rest)
    {state final : List (String × α)} {quoted : Input}
    (quote : skipBlank quoted = some '"' :: input)
    (read : readEntries (readMember reader) steps state input = .ok (final, rest)) :
    skipMembers item steps quoted = .ok rest := by
  induction steps generalizing input state quoted with
  | zero => cases read
  | succ steps induction =>
      obtain ⟨key, behind, next, after, name, entered, continued⟩ := readEntries_eq_ok_iff.mp read
      obtain ⟨start, value, colon, valueRead, -⟩ := readMember_eq_ok_iff.mp entered
      refine skipMembers_eq_ok_iff.mpr ⟨input, behind, start, after, quote,
        skipChars_of_readString name, colon, skips start value after valueRead, ?_⟩
      rcases continued with ⟨ended, -⟩ | ⟨more, tail, comma, nextQuote, members⟩
      · exact .inl ended
      · exact .inr ⟨more, comma, induction nextQuote members⟩

end Loops

end Json
end ForeignBindings
