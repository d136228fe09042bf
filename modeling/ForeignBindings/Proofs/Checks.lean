/-!
# Checks one after the other

A chain of checks passes exactly if each of them passes.  What a check that fails says is described
by the list of all faults in the order of the checks: the chain passes if the list is empty, and
otherwise it fails with the first of them.
-/

namespace ForeignBindings
namespace Checks

variable {ε α β : Type}

theorem bind_eq_ok_iff {check : Except ε α} {next : α → Except ε β} {result : β} :
    (check >>= next) = .ok result ↔ ∃ value, check = .ok value ∧ next value = .ok result := by
  cases check with
  | error cause => exact ⟨nofun, nofun⟩
  | ok value =>
      constructor
      · exact fun continued => ⟨value, rfl, continued⟩
      · rintro ⟨_, ⟨⟩, continued⟩
        exact continued

theorem then_eq_ok_iff {check : Except ε Unit} {next : Except ε β} {result : β} :
    (check >>= fun _ => next) = .ok result ↔ check = .ok () ∧ next = .ok result := by
  cases check with
  | error cause => exact ⟨nofun, nofun⟩
  | ok _ => exact ⟨fun continued => ⟨rfl, continued⟩, And.right⟩

/-- A chain of checks fails if the first one does, or the others fail after it has passed. -/
theorem bind_eq_error_iff {check : Except ε α} {next : α → Except ε β} {cause : ε} :
    (check >>= next) = .error cause ↔
      check = .error cause ∨ ∃ value, check = .ok value ∧ next value = .error cause := by
  cases check with
  | error first =>
      constructor
      · rintro ⟨⟩
        exact .inl rfl
      · rintro (⟨⟨⟩⟩ | ⟨_, ⟨⟩, -⟩)
        rfl
  | ok value =>
      constructor
      · exact fun failed => .inr ⟨value, rfl, failed⟩
      · rintro (⟨⟨⟩⟩ | ⟨_, ⟨⟩, failed⟩)
        exact failed

theorem forM_eq_ok_iff {check : α → Except ε Unit} {items : List α} :
    items.forM check = .ok () ↔ ∀ item ∈ items, check item = .ok () := by
  induction items with
  | nil => exact ⟨fun _ _ absent => absurd absent List.not_mem_nil, fun _ => rfl⟩
  | cons item items induction =>
      rw [List.forM, then_eq_ok_iff, induction, List.forall_mem_cons]

/-- A chain of checks that fails does so at one of its items. -/
theorem exists_of_forM_eq_error {check : α → Except ε Unit} {items : List α} {cause : ε}
    (failed : items.forM check = .error cause) : ∃ item ∈ items, check item = .error cause := by
  induction items with
  | nil => cases failed
  | cons item items induction =>
      rw [List.forM] at failed
      obtain failed | ⟨-, -, failed⟩ := bind_eq_error_iff.mp failed
      · exact ⟨item, List.mem_cons_self, failed⟩
      · obtain ⟨culprit, inside, failed⟩ := induction failed
        exact ⟨culprit, List.mem_cons_of_mem item inside, failed⟩

theorem mapM_congr {step other : α → Except ε β} {items : List α}
    (same : ∀ item ∈ items, step item = other item) : items.mapM step = items.mapM other := by
  induction items with
  | nil => rfl
  | cons item items induction =>
      obtain ⟨first, rest⟩ := List.forall_mem_cons.mp same
      rw [List.mapM_cons, List.mapM_cons, first, induction rest]

/-- What a successful step keeps of its item is kept of a whole list. -/
theorem map_eq_of_mapM_eq_ok {γ : Type} {step : α → Except ε β} {before : α → γ} {after : β → γ}
    {items : List α} (keeps : ∀ item ∈ items, ∀ result, step item = .ok result →
      after result = before item)
    {results : List β} (succeeded : items.mapM step = .ok results) :
    results.map after = items.map before := by
  induction items generalizing results with
  | nil =>
      cases succeeded
      rfl
  | cons item items induction =>
      rw [List.mapM_cons] at succeeded
      obtain ⟨result, first, succeeded⟩ := bind_eq_ok_iff.mp succeeded
      obtain ⟨others, rest, succeeded⟩ := bind_eq_ok_iff.mp succeeded
      cases succeeded
      obtain ⟨kept, keeps⟩ := List.forall_mem_cons.mp keeps
      rw [List.map_cons, List.map_cons, kept result first, induction keeps rest]

/-- A step that fails for a list fails for one of its items. -/
theorem exists_of_mapM_eq_error {step : α → Except ε β} {items : List α} {cause : ε}
    (failed : items.mapM step = .error cause) : ∃ item ∈ items, step item = .error cause := by
  induction items with
  | nil => cases failed
  | cons item items induction =>
      rw [List.mapM_cons] at failed
      cases first : step item with
      | error fault =>
          rw [first] at failed
          cases failed
          exact ⟨item, List.mem_cons_self, first⟩
      | ok result =>
          cases rest : items.mapM step with
          | error fault =>
              rw [first, rest] at failed
              cases failed
              obtain ⟨culprit, inside, fault⟩ := induction rest
              exact ⟨culprit, List.mem_cons_of_mem item inside, fault⟩
          | ok results =>
              rw [first, rest] at failed
              cases failed

/-- A step that succeeds for every item succeeds for the list. -/
theorem exists_mapM_eq_ok {step : α → Except ε β} {items : List α}
    (each : ∀ item ∈ items, ∃ result, step item = .ok result) :
    ∃ results, items.mapM step = .ok results := by
  cases stepped : items.mapM step with
  | ok results => exact ⟨results, rfl⟩
  | error cause =>
      obtain ⟨item, inside, failed⟩ := exists_of_mapM_eq_error stepped
      obtain ⟨result, succeeded⟩ := each item inside
      cases failed.symm.trans succeeded

/-- The result for an item is among the results for a list. -/
theorem exists_mem_of_mapM_eq_ok {step : α → Except ε β} {items : List α} {results : List β}
    (succeeded : items.mapM step = .ok results) {item : α} (inside : item ∈ items) :
    ∃ result ∈ results, step item = .ok result := by
  induction items generalizing results with
  | nil => cases inside
  | cons first rest induction =>
      rw [List.mapM_cons] at succeeded
      obtain ⟨result, stepped, succeeded⟩ := bind_eq_ok_iff.mp succeeded
      obtain ⟨others, rest_stepped, succeeded⟩ := bind_eq_ok_iff.mp succeeded
      cases succeeded
      rcases List.mem_cons.mp inside with rfl | inside
      · exact ⟨result, List.mem_cons_self, stepped⟩
      · obtain ⟨found, found_inside, found_stepped⟩ := induction rest_stepped inside
        exact ⟨found, List.mem_cons_of_mem result found_inside, found_stepped⟩

/-- A result for a list is the result for one of its items. -/
theorem exists_source_of_mapM_eq_ok {step : α → Except ε β} {items : List α} {results : List β}
    (succeeded : items.mapM step = .ok results) {result : β} (inside : result ∈ results) :
    ∃ item ∈ items, step item = .ok result := by
  induction items generalizing results with
  | nil =>
      cases succeeded
      cases inside
  | cons first rest induction =>
      rw [List.mapM_cons] at succeeded
      obtain ⟨firstResult, stepped, succeeded⟩ := bind_eq_ok_iff.mp succeeded
      obtain ⟨others, rest_stepped, succeeded⟩ := bind_eq_ok_iff.mp succeeded
      cases succeeded
      rcases List.mem_cons.mp inside with rfl | inside
      · exact ⟨first, List.mem_cons_self, stepped⟩
      · obtain ⟨item, item_inside, item_stepped⟩ := induction rest_stepped inside
        exact ⟨item, List.mem_cons_of_mem first item_inside, item_stepped⟩

/-- The results for a list in another order are the same in another order. -/
theorem mapM_eq_ok_of_perm {step : α → Except ε β} {items others : List α}
    (perm : items.Perm others) {results : List β} (succeeded : items.mapM step = .ok results) :
    ∃ otherResults, others.mapM step = .ok otherResults ∧ results.Perm otherResults := by
  induction perm generalizing results with
  | nil => exact ⟨results, succeeded, .refl _⟩
  | cons item _ induction =>
      rw [List.mapM_cons] at succeeded
      obtain ⟨result, first, succeeded⟩ := bind_eq_ok_iff.mp succeeded
      obtain ⟨tail, rest, succeeded⟩ := bind_eq_ok_iff.mp succeeded
      cases succeeded
      obtain ⟨otherTail, otherRest, tail_perm⟩ := induction rest
      refine ⟨result :: otherTail, ?_, tail_perm.cons result⟩
      rw [List.mapM_cons, first, otherRest]
      rfl
  | swap item other rest =>
      simp only [List.mapM_cons] at succeeded
      obtain ⟨first, firstStep, succeeded⟩ := bind_eq_ok_iff.mp succeeded
      obtain ⟨tail, succeeded, finished⟩ := bind_eq_ok_iff.mp succeeded
      obtain ⟨second, secondStep, succeeded⟩ := bind_eq_ok_iff.mp succeeded
      obtain ⟨results, restStep, succeeded⟩ := bind_eq_ok_iff.mp succeeded
      cases succeeded
      cases finished
      refine ⟨second :: first :: results, ?_, .swap second first results⟩
      simp only [List.mapM_cons, firstStep, secondStep, restStep]
      rfl
  | trans _ _ firstInduction secondInduction =>
      obtain ⟨middle, middleStep, middle_perm⟩ := firstInduction succeeded
      obtain ⟨final, finalStep, final_perm⟩ := secondInduction middleStep
      exact ⟨final, finalStep, middle_perm.trans final_perm⟩

/-- Whether a computation fails exactly with the first fault of a list, and succeeds if the list
holds none. -/
def Reports (faults : List ε) (run : Except ε α) : Prop :=
  match run with
  | .ok _ => faults = []
  | .error cause => faults.head? = some cause

theorem Reports.ok (value : α) : Reports ([] : List ε) (.ok value) := rfl

theorem Reports.error (cause : ε) : Reports [cause] (.error cause : Except ε α) := rfl

theorem Reports.exists_ok_iff {faults : List ε} {run : Except ε α} (reports : Reports faults run) :
    (∃ value, run = .ok value) ↔ faults = [] := by
  cases run with
  | ok value => exact ⟨fun _ => reports, fun _ => ⟨value, rfl⟩⟩
  | error cause =>
      refine ⟨fun ⟨_, impossible⟩ => (nomatch impossible), fun empty => ?_⟩
      subst empty
      cases reports

theorem Reports.eq_error_iff {faults : List ε} {run : Except ε α} (reports : Reports faults run)
    {cause : ε} : run = .error cause ↔ faults.head? = some cause := by
  cases run with
  | ok value =>
      obtain rfl : faults = [] := reports
      exact ⟨nofun, nofun⟩
  | error first =>
      have head : faults.head? = some first := reports
      rw [head, Except.error.injEq, Option.some.injEq]

/-- The faults of two steps are those of the first, then those that the second has after the first
has succeeded. -/
theorem Reports.bind {first second : List ε} {run : Except ε α} {next : α → Except ε β}
    (reports : Reports first run)
    (continues : ∀ value, run = .ok value → Reports second (next value)) :
    Reports (first ++ second) (run >>= next) := by
  cases run with
  | ok value =>
      obtain rfl : first = [] := reports
      exact continues value rfl
  | error cause =>
      have head : first.head? = some cause := reports
      change (first ++ second).head? = some cause
      rw [List.head?_append, head]
      rfl

theorem Reports.map {faults : List ε} {run : Except ε α} {change : α → β}
    (reports : Reports faults run) : Reports faults (change <$> run) := by
  cases run with
  | ok value => exact reports
  | error cause => exact reports

theorem Reports.forM {faults : α → List ε} {check : α → Except ε Unit} {items : List α}
    (each : ∀ item ∈ items, Reports (faults item) (check item)) :
    Reports (items.flatMap faults) (items.forM check) := by
  induction items with
  | nil => exact .ok ()
  | cons item items induction =>
      obtain ⟨first, rest⟩ := List.forall_mem_cons.mp each
      rw [List.flatMap_cons, List.forM]
      exact first.bind fun _ _ => induction rest

theorem Reports.mapM {faults : α → List ε} {step : α → Except ε β} {items : List α}
    (each : ∀ item ∈ items, Reports (faults item) (step item)) :
    Reports (items.flatMap faults) (items.mapM step) := by
  induction items with
  | nil => exact .ok []
  | cons item items induction =>
      obtain ⟨first, rest⟩ := List.forall_mem_cons.mp each
      rw [List.flatMap_cons, List.mapM_cons]
      refine first.bind fun value _ => ?_
      rw [← List.append_nil (items.flatMap faults)]
      exact (induction rest).bind fun values _ => .ok _

/-- Whether a computation does not fail with a cause of some kind. -/
def Avoids (kind : ε → Bool) (run : Except ε α) : Prop :=
  ∀ cause, run = .error cause → kind cause = false

section Avoids

variable {kind : ε → Bool}

theorem Avoids.ok (value : α) : Avoids kind (.ok value) := nofun

theorem Avoids.error {cause : ε} (other : kind cause = false) :
    Avoids kind (.error cause : Except ε α) := by
  rintro _ ⟨⟩
  exact other

theorem Avoids.ite {condition : Prop} [Decidable condition] {run other : Except ε α}
    (first : Avoids kind run) (second : Avoids kind other) :
    Avoids kind (if condition then run else other) := by
  split
  · exact first
  · exact second

theorem Avoids.bind {run : Except ε α} {next : α → Except ε β} (first : Avoids kind run)
    (continues : ∀ value, Avoids kind (next value)) : Avoids kind (run >>= next) := by
  cases run with
  | ok value => exact continues value
  | error cause => exact .error (first cause rfl)

end Avoids

end Checks
end ForeignBindings
