import ForeignBindings.Proofs.Generation

/-!
# A handle deletes its artifact once

A handle can be asked for its state, read, consumed, discarded and used for passes in any order, while
others change the files as they like.  Once a pass or the handle itself has deleted the artifact, the
handle is done with: whatever reappears at the path is neither read nor deleted again.
-/

namespace ForeignBindings
namespace Workspace

variable {ε : Type}

/-- A use of a handle, or a change of the files by others. -/
inductive Action (ε : Type) where
  | state
  | read
  | consume
  | discard
  | generate (options : GenerationOptions ε)
  | others (change : FileTree → FileTree)

/-- What a use of a handle gives back. -/
inductive Answer where
  | state (known : ArtifactState)
  | read (result : Except ArtifactError (Option Metadata))
  | consume (result : Except ArtifactError ArtifactState)
  | discard (result : Except ArtifactError Bool)
  | generate (result : Except GenerationError Generation)
  | none

/-- An action with its answer and the workspaces before and after it. -/
structure Event (ε : Type) where
  /-- What is done. -/
  action : Action ε
  /-- The workspace before. -/
  before : Workspace
  /-- What is given back. -/
  answer : Answer
  /-- The workspace after. -/
  after : Workspace

/-- A result as an answer with the state after it. -/
def outcome {ε σ α β : Type} (answer : Except ε α → β) : EStateM.Result ε σ α → β × σ
  | .ok value after => (answer (.ok value), after)
  | .error cause after => (answer (.error cause), after)

/-- The answer to an action and the workspace after it. -/
def Action.run : Action ε → Workspace → Answer × Workspace
  | .state, before => (.state before.state, before)
  | .read, before => (.read (before.artifact.read before.files), before)
  | .consume, before => outcome .consume (Workspace.consume before)
  | .discard, before => outcome .discard (Workspace.discard before)
  | .generate options, before => outcome .generate (Workspace.generate options before)
  | .others change, before => (.none, { before with files := change before.files })

/-- An action in a workspace as an event. -/
def Action.event (action : Action ε) (before : Workspace) : Event ε :=
  ⟨action, before, (action.run before).1, (action.run before).2⟩

/-- The events of actions one after the other. -/
def events : Workspace → List (Action ε) → List (Event ε)
  | _, [] => []
  | before, action :: actions =>
      action.event before :: events (action.event before).after actions

namespace Event

/-- Whether consuming the artifact or a pass has changed the files. -/
def takes (event : Event ε) : Bool :=
  match event.action with
  | .consume | .generate _ => event.after.files != event.before.files
  | .state | .read | .discard | .others _ => false

/-- Whether consuming the artifact or a pass has succeeded in deleting the artifact. -/
structure Deletes (event : Event ε) : Prop where
  /-- The handle is consumed, or a pass has emitted a text. -/
  succeeded : event.answer = .consume (.ok .consumed) ∨
    ∃ text, event.answer = .generate (.ok (.emitted text))
  /-- The artifact was a file, which is gone, and no other file is. -/
  deleted : ∃ place entry,
    event.before.files.file event.before.artifact.path = .ok (place, entry) ∧
      event.after.files = event.before.files.erase place

/-- Whether a use of a handle finds the artifact consumed and changes nothing.  Discarding does not
ask for the state of the handle, but it does not change it either. -/
def Inert (event : Event ε) : Prop :=
  match event.action with
  | .state => event.answer = .state .consumed ∧ event.after = event.before
  | .read => event.answer = .read (.ok .none) ∧ event.after = event.before
  | .consume => event.answer = .consume (.ok .consumed) ∧ event.after = event.before
  | .generate _ => event.answer = .generate (.ok .unchanged) ∧ event.after = event.before
  | .discard | .others _ => event.after.artifact = event.before.artifact

end Event

/-- Discarding the artifact leaves the handle as it is and is no use that consumes it. -/
theorem discard_event (before : Workspace) :
    ∃ result, (Action.discard.event before : Event ε).answer = .discard result ∧
      (Action.discard.event before : Event ε).after.artifact = before.artifact := by
  simp only [Action.event, Action.run, discard]
  cases before.files.removeFile before.artifact.path with
  | ok files => exact ⟨_, rfl, rfl⟩
  | error cause => cases cause <;> exact ⟨_, rfl, rfl⟩

/-- A handle that has deleted its artifact finds nothing to do. -/
theorem inert_event {before : Workspace} (consumed : before.artifact.consumed = true)
    (action : Action ε) : (action.event before).Inert := by
  have known : before.state = .consumed := by
    rw [Workspace.state, Artifact.state, consumed, if_pos rfl]
  have absent : before.state ≠ .present := by
    intro present
    cases known.symm.trans present
  cases action with
  | state => exact ⟨congrArg _ known, rfl⟩
  | read => exact ⟨congrArg _ (Artifact.read_of_state_ne_present absent), rfl⟩
  | consume =>
      have run : Workspace.consume before = .ok .consumed before := by
        rw [Workspace.consume, known]
      simp only [Action.event, Event.Inert, Action.run, run, outcome, and_self]
  | discard =>
      obtain ⟨_, -, kept⟩ := discard_event (ε := ε) before
      exact kept
  | generate options =>
      have run := generate_of_state_ne_present options absent
      simp only [Action.event, Event.Inert, Action.run, run, outcome, and_self]
  | others change => rfl

namespace Event

variable {event : Event ε}

theorem Inert.artifact (inert : event.Inert) : event.after.artifact = event.before.artifact := by
  obtain ⟨action, before, answer, after⟩ := event
  cases action with
  | state | read | consume | generate => exact congrArg Workspace.artifact inert.2
  | discard | others => exact inert

theorem takes_of_after_eq (same : event.after = event.before) : event.takes = false := by
  rw [takes, same, bne_self_eq_false]
  split <;> rfl

theorem Inert.takes (inert : event.Inert) : event.takes = false := by
  obtain ⟨action, before, answer, after⟩ := event
  cases action with
  | state | read | consume | generate => exact takes_of_after_eq inert.2
  | discard | others => rfl

/-- Where a file is deleted, the files have changed. -/
theorem Deletes.files_ne (deletes : event.Deletes) : event.after.files ≠ event.before.files := by
  obtain ⟨place, entry, found, erased⟩ := deletes.deleted
  obtain ⟨-, stands⟩ := FileTree.resolve_of_file found
  have gone := FileTree.node?_erase_self event.before.files (FileTree.ne_root_of_file stands)
  intro same
  rw [← erased, same, stands] at gone
  cases gone

theorem not_deletes_of_after_eq (same : event.after = event.before) : ¬event.Deletes :=
  fun deletes => deletes.files_ne (congrArg Workspace.files same)

end Event

/-- Consuming the artifact changes nothing, or deletes it for good. -/
theorem consume_event (before : Workspace) :
    (Action.consume.event before : Event ε).after = before ∨
      (Action.consume.event before : Event ε).Deletes ∧
        (Action.consume.event before : Event ε).after.artifact.consumed = true := by
  simp only [Action.event, Action.run, Workspace.consume]
  cases before.state with
  | missing | consumed => exact .inl rfl
  | present =>
      cases removed : before.files.removeFile before.artifact.path with
      | error cause => exact .inl rfl
      | ok files =>
          obtain ⟨place, entry, found, rfl⟩ := FileTree.removeFile_eq_ok removed
          exact .inr ⟨⟨.inl rfl, place, entry, found, rfl⟩, rfl⟩

/-- A pass changes nothing, or deletes the artifact for good. -/
theorem generate_event (options : GenerationOptions ε) (before : Workspace) :
    ((Action.generate options).event before).after = before ∨
      ((Action.generate options).event before).Deletes ∧
        ((Action.generate options).event before).after.artifact.consumed = true := by
  obtain ⟨-, run⟩ | ⟨-, cause, -, run⟩ | ⟨text, after, place, done, run⟩ :=
    generate_cases options before
  · simp only [Action.event, Action.run, run]
    exact .inl rfl
  · simp only [Action.event, Action.run, run]
    exact .inl rfl
  · obtain ⟨entry, found⟩ := done.found
    simp only [Action.event, Action.run, run]
    exact .inr ⟨⟨.inr ⟨text, rfl⟩, place, entry, found, done.files⟩, by rw [outcome, done.handle]⟩

/-- A use of a handle that changes the files by consuming the artifact or by a pass deletes the
artifact, and then the handle is consumed. -/
theorem event_cases (action : Action ε) (before : Workspace) :
    ((action.event before).takes = false ∧ ¬(action.event before).Deletes) ∨
      (action.event before).takes = true ∧ (action.event before).Deletes ∧
        (action.event before).after.artifact.consumed = true := by
  cases action with
  | state | read => exact .inl ⟨rfl, Event.not_deletes_of_after_eq rfl⟩
  | discard =>
      obtain ⟨result, answered, -⟩ := discard_event (ε := ε) before
      refine .inl ⟨rfl, fun deletes => ?_⟩
      obtain told | ⟨text, told⟩ := deletes.succeeded
      · cases answered.symm.trans told
      · cases answered.symm.trans told
  | others change =>
      refine .inl ⟨rfl, fun deletes => ?_⟩
      obtain told | ⟨text, told⟩ := deletes.succeeded
      · cases told
      · cases told
  | consume =>
      obtain same | ⟨deletes, consumed⟩ := consume_event (ε := ε) before
      · exact .inl ⟨Event.takes_of_after_eq same, Event.not_deletes_of_after_eq same⟩
      · exact .inr ⟨bne_iff_ne.mpr deletes.files_ne, deletes, consumed⟩
  | generate options =>
      obtain same | ⟨deletes, consumed⟩ := generate_event options before
      · exact .inl ⟨Event.takes_of_after_eq same, Event.not_deletes_of_after_eq same⟩
      · exact .inr ⟨bne_iff_ne.mpr deletes.files_ne, deletes, consumed⟩

/-- From a consumed handle on, every use of the handle is without effect. -/
theorem inert_of_mem_events {before : Workspace} (consumed : before.artifact.consumed = true)
    {actions : List (Action ε)} {event : Event ε} (inside : event ∈ events before actions) :
    event.Inert := by
  induction actions generalizing before with
  | nil => cases inside
  | cons action actions induction =>
      have first := inert_event consumed action
      obtain rfl | later := List.mem_cons.mp inside
      · exact first
      · exact induction (first.artifact ▸ consumed) later

/-- Once a pass or the handle itself has deleted the artifact, the handle is consumed for good: it is
found consumed, nothing is read, no pass has anything to do, and no use of it changes the files.  So
of all the times that a handle is consumed or used for a pass, the files change at most once, and then
by the loss of the artifact. -/
theorem consumed_handle_is_inert (start : Workspace) (actions : List (Action ε)) :
    ((events start actions).Pairwise fun earlier later => earlier.Deletes → later.Inert) ∧
      (∀ event ∈ events start actions, event.takes = true ↔ event.Deletes) ∧
      (events start actions).countP Event.takes ≤ 1 := by
  induction actions generalizing start with
  | nil => exact ⟨.nil, fun _ inside => absurd inside List.not_mem_nil, Nat.zero_le 1⟩
  | cons action actions induction =>
      obtain ⟨inert, deletes, once⟩ := induction (action.event start).after
      rw [events, List.pairwise_cons, List.forall_mem_cons]
      obtain ⟨keeps, none⟩ | ⟨takes, first, consumed⟩ := event_cases action start
      · refine ⟨⟨fun _ _ first => absurd first none, inert⟩, ⟨?_, deletes⟩, ?_⟩
        · simp [keeps, none]
        · simpa [List.countP_cons, keeps] using once
      · have rest {event : Event ε}
            (later : event ∈ events (action.event start).after actions) : event.Inert :=
          inert_of_mem_events consumed later
        refine ⟨⟨fun _ later _ => rest later, inert⟩, ⟨iff_of_true takes first, deletes⟩, ?_⟩
        have never : (events (action.event start).after actions).countP Event.takes = 0 :=
          List.countP_eq_zero.mpr fun event later => by simp [(rest later).takes]
        rw [List.countP_cons, never, takes]
        exact Nat.le_refl 1

end Workspace
end ForeignBindings
