import ForeignBindings.Generation
import ForeignBindings.Proofs.Files.Frame

/-!
# Generation passes are all or nothing

A pass that fails changes nothing and a pass that finds nothing to do changes nothing.  A pass that
emits a text takes the metadata that the text was made from and no other file, so no further pass
over the same metadata emits anything.
-/

namespace ForeignBindings

variable {ε : Type}

/-- What becomes of an emitted text: the formatter's version of it, or the text itself if there is
no formatter or the formatter fails. -/
inductive Formats (formatter : Option (Glue.Formatter ε)) (source : String) : String → Prop
  | unformatted (absent : formatter = none) : Formats formatter source source
  | formatted {format : Glue.Formatter ε} {text : String} (given : formatter = some format)
      (succeeded : format source = .ok text) : Formats formatter source text
  | kept {format : Glue.Formatter ε} {cause : ε} (given : formatter = some format)
      (failed : format source = .error cause) : Formats formatter source source

theorem formats_applyFormatter (formatter : Option (Glue.Formatter ε)) (source : String) :
    Formats formatter source (Glue.applyFormatter formatter source) := by
  cases formatter with
  | none => exact .unformatted rfl
  | some format =>
      cases result : format source with
      | ok text =>
          have formatted : Glue.applyFormatter (some format) source = text := by
            simp only [Glue.applyFormatter, result]
          exact formatted ▸ .formatted rfl result
      | error cause =>
          have kept : Glue.applyFormatter (some format) source = source := by
            simp only [Glue.applyFormatter, result]
          exact kept.symm ▸ .kept rfl result

/-- Whether a document is metadata of a module whose emitted text becomes the given one. -/
def Yields (options : GenerationOptions ε) (document text : String) : Prop :=
  ∃ metadata module glue,
    Metadata.read document = .ok metadata ∧
      metadata.toModule options.profile options.location = .ok module ∧
      Glue.emit module options.config = .ok glue ∧
      Formats options.formatter glue.text text

/-- Metadata describes no module, or its module cannot be emitted, or there is a text. -/
theorem moduleText_cases (metadata : Metadata) (options : GenerationOptions ε) :
    (∃ cause, metadata.toModule options.profile options.location = .error cause ∧
        metadata.moduleText options = .error (.invalidModule cause)) ∨
      (∃ module cause, metadata.toModule options.profile options.location = .ok module ∧
        Glue.emit module options.config = .error cause ∧
        metadata.moduleText options = .error cause) ∨
      ∃ module glue, metadata.toModule options.profile options.location = .ok module ∧
        Glue.emit module options.config = .ok glue ∧
        metadata.moduleText options = .ok (Glue.applyFormatter options.formatter glue.text) := by
  rw [Metadata.moduleText]
  cases converted : metadata.toModule options.profile options.location with
  | error cause => exact .inl ⟨cause, rfl, rfl⟩
  | ok module =>
      simp only [Glue.generate]
      cases emitted : Glue.emit module options.config with
      | error cause => exact .inr (.inl ⟨module, cause, rfl, emitted, rfl⟩)
      | ok glue => exact .inr (.inr ⟨module, glue, rfl, emitted, rfl⟩)

namespace Artifact

theorem state_eq_present_iff {artifact : Artifact} {files : FileTree} :
    artifact.state files = .present ↔
      artifact.consumed = false ∧ files.isFile artifact.path = true := by
  rw [state]
  cases artifact.consumed <;> cases files.isFile artifact.path <;> simp

theorem state_ne_present_iff {artifact : Artifact} {files : FileTree} :
    artifact.state files ≠ .present ↔
      artifact.consumed = true ∨ files.isFile artifact.path = false := by
  rw [Ne, state_eq_present_iff]
  cases artifact.consumed <;> cases files.isFile artifact.path <;> simp

theorem read_of_state_ne_present {artifact : Artifact} {files : FileTree}
    (absent : artifact.state files ≠ .present) : artifact.read files = .ok none := by
  rw [read]
  cases known : artifact.state files with
  | present => exact absurd known absent
  | missing => rfl
  | consumed => rfl

end Artifact

namespace Workspace

/-- A pass finds nothing to do unless the artifact is present. -/
theorem generate_of_state_ne_present (options : GenerationOptions ε) {workspace : Workspace}
    (absent : workspace.state ≠ .present) :
    generate options workspace = .ok .unchanged workspace := by
  rw [generate, Artifact.read_of_state_ne_present absent]

/-- Why a pass over a present artifact fails. -/
inductive Fails (options : GenerationOptions ε) (workspace : Workspace) : GenerationError → Prop
  /-- The file cannot be read as text. -/
  | unreadable {fault : FileError}
      (refused : workspace.files.readText workspace.artifact.path = .error fault) :
      Fails options workspace (.artifact (.inaccessible workspace.artifact.path fault))
  /-- The text is not metadata. -/
  | malformed {document : String} {fault : Json.Fault}
      (readable : workspace.files.readText workspace.artifact.path = .ok document)
      (refused : Metadata.read document = .error fault) :
      Fails options workspace (.artifact (.invalid fault))
  /-- The metadata describes no module. -/
  | invalid {document : String} {metadata : Metadata} {cause : ModuleError}
      (readable : workspace.files.readText workspace.artifact.path = .ok document)
      (parsed : Metadata.read document = .ok metadata)
      (refused : metadata.toModule options.profile options.location = .error cause) :
      Fails options workspace (.glue (.invalidModule cause))
  /-- The module cannot be emitted. -/
  | unemittable {document : String} {metadata : Metadata} {module : BindingModule}
      {cause : GlueError}
      (readable : workspace.files.readText workspace.artifact.path = .ok document)
      (parsed : Metadata.read document = .ok metadata)
      (converted : metadata.toModule options.profile options.location = .ok module)
      (refused : Glue.emit module options.config = .error cause) :
      Fails options workspace (.glue cause)
  /-- There is a text, but the file cannot be removed. -/
  | unremovable {document text : String} {fault : FileError}
      (readable : workspace.files.readText workspace.artifact.path = .ok document)
      (yields : Yields options document text)
      (refused : workspace.files.removeFile workspace.artifact.path = .error fault) :
      Fails options workspace (.artifact (.inaccessible workspace.artifact.path fault))

/-- A pass over a present artifact either fails and changes nothing, or emits a text and removes the
file that it was made from. -/
theorem generate_of_state_eq_present (options : GenerationOptions ε) {workspace : Workspace}
    (present : workspace.state = .present) :
    (∃ cause, Fails options workspace cause ∧
        generate options workspace = .error cause workspace) ∨
      ∃ document text files,
        workspace.files.readText workspace.artifact.path = .ok document ∧
          Yields options document text ∧
          workspace.files.removeFile workspace.artifact.path = .ok files ∧
          generate options workspace =
            .ok (.emitted text) ⟨files, { workspace.artifact with consumed := true }⟩ := by
  have known : workspace.artifact.state workspace.files = .present := present
  rw [generate, Artifact.read, known]
  cases readable : workspace.files.readText workspace.artifact.path with
  | error fault => exact .inl ⟨_, .unreadable readable, rfl⟩
  | ok document =>
      cases parsed : Metadata.read document with
      | error fault => exact .inl ⟨_, .malformed readable parsed, by simp only [parsed]⟩
      | ok metadata =>
          simp only [parsed]
          obtain ⟨cause, refused, generated⟩ | ⟨module, cause, converted, refused, generated⟩ |
              ⟨module, glue, converted, emitted, generated⟩ := moduleText_cases metadata options
          · exact .inl ⟨_, .invalid readable parsed refused, by rw [generated]⟩
          · exact .inl ⟨_, .unemittable readable parsed converted refused, by rw [generated]⟩
          · have formats := formats_applyFormatter options.formatter glue.text
            have yields : Yields options document _ :=
              ⟨metadata, module, glue, parsed, converted, emitted, formats⟩
            simp only [generated, consume, present]
            cases removed : workspace.files.removeFile workspace.artifact.path with
            | error fault => exact .inl ⟨_, .unremovable readable yields removed, rfl⟩
            | ok files => exact .inr ⟨document, _, files, rfl, yields, rfl, rfl⟩

/-- What a pass has done that has emitted a text, with the artifact at the given place. -/
structure EmittedFrom (options : GenerationOptions ε) (before : Workspace) (place : Place)
    (text : String) (after : Workspace) : Prop where
  /-- The handle had not deleted the artifact before. -/
  unused : before.artifact.consumed = false
  /-- The text was made from what the artifact held. -/
  source : ∃ document, before.files.readText before.artifact.path = .ok document ∧
    Yields options document text
  /-- The artifact was a file. -/
  found : ∃ entry, before.files.file before.artifact.path = .ok (place, entry)
  /-- The artifact is removed and nothing else. -/
  files : after.files = before.files.erase place
  /-- The path of the artifact leads to nothing any more. -/
  gone : after.files.contains before.artifact.path = false
  /-- The handle has deleted the artifact. -/
  handle : after.artifact = { before.artifact with consumed := true }
  /-- Whatever happens to the files, the same handle gives further passes nothing to do. -/
  again : ∀ {ε' : Type} (further : GenerationOptions ε') (files : FileTree),
    generate further ⟨files, after.artifact⟩ = .ok .unchanged ⟨files, after.artifact⟩
  /-- Any other handle on the artifact gives a further pass nothing to do. -/
  fresh : ∀ {ε' : Type} (further : GenerationOptions ε') (other : Artifact),
    before.files.resolve other.path = .ok place →
      generate further ⟨after.files, other⟩ = .ok .unchanged ⟨after.files, other⟩

theorem EmittedFrom.state {options : GenerationOptions ε} {before after : Workspace}
    {place : Place} {text : String} (done : EmittedFrom options before place text after) :
    after.state = .consumed := by
  rw [Workspace.state, Artifact.state, done.handle]
  rfl

theorem emittedFrom_of_removeFile {options : GenerationOptions ε} {before : Workspace}
    {document text : String} {files : FileTree} (present : before.state = .present)
    (readable : before.files.readText before.artifact.path = .ok document)
    (yields : Yields options document text)
    (removed : before.files.removeFile before.artifact.path = .ok files) :
    ∃ place, EmittedFrom options before place text
      ⟨files, { before.artifact with consumed := true }⟩ := by
  obtain ⟨unused, -⟩ := Artifact.state_eq_present_iff.mp present
  obtain ⟨place, entry, found, rfl⟩ := FileTree.removeFile_eq_ok removed
  obtain ⟨resolved, stands⟩ := FileTree.resolve_of_file found
  refine ⟨place, unused, ⟨document, readable, yields⟩, ⟨entry, found⟩, rfl, ?_, rfl, ?_, ?_⟩
  · exact FileTree.contains_of_find_error (FileTree.find_erase stands resolved)
  · intro ε' further files
    exact generate_of_state_ne_present further (Artifact.state_ne_present_iff.mpr (.inl rfl))
  · intro ε' further other same
    have missing := FileTree.isFile_of_find_error (FileTree.find_erase stands same)
    exact generate_of_state_ne_present further (Artifact.state_ne_present_iff.mpr (.inr missing))

/-- A pass finds nothing to do, fails and changes nothing, or emits a text and takes the artifact. -/
theorem generate_cases (options : GenerationOptions ε) (before : Workspace) :
    (before.state ≠ .present ∧ generate options before = .ok .unchanged before) ∨
      (before.state = .present ∧ ∃ cause, Fails options before cause ∧
        generate options before = .error cause before) ∨
      ∃ text after place, EmittedFrom options before place text after ∧
        generate options before = .ok (.emitted text) after := by
  by_cases present : before.state = .present
  · obtain ⟨cause, fails, run⟩ | ⟨document, text, files, readable, yields, removed, run⟩ :=
      generate_of_state_eq_present options present
    · exact .inr (.inl ⟨present, cause, fails, run⟩)
    · obtain ⟨place, done⟩ := emittedFrom_of_removeFile present readable yields removed
      exact .inr (.inr ⟨text, _, place, done, run⟩)
  · exact .inl ⟨present, generate_of_state_ne_present options present⟩

theorem eq_of_generate_error {options : GenerationOptions ε} {before after : Workspace}
    {cause : GenerationError} (failed : generate options before = .error cause after) :
    after = before := by
  obtain ⟨_, run⟩ | ⟨_, _, _, run⟩ | ⟨_, _, _, _, run⟩ := generate_cases options before
  all_goals
    rw [failed] at run
    cases run
  rfl

theorem eq_of_generate_unchanged {options : GenerationOptions ε} {before after : Workspace}
    (idle : generate options before = .ok .unchanged after) : after = before := by
  obtain ⟨_, run⟩ | ⟨_, _, _, run⟩ | ⟨_, _, _, _, run⟩ := generate_cases options before
  all_goals
    rw [idle] at run
    cases run
  rfl

theorem emittedFrom_of_generate {options : GenerationOptions ε} {before after : Workspace}
    {text : String} (emitted : generate options before = .ok (.emitted text) after) :
    ∃ place, EmittedFrom options before place text after := by
  obtain ⟨_, run⟩ | ⟨_, _, _, run⟩ | ⟨_, _, place, done, run⟩ := generate_cases options before
  all_goals
    rw [emitted] at run
    cases run
  exact ⟨place, done⟩

/-- The result of a pass tells everything about what the pass has found and changed. -/
theorem generate_all_or_nothing (options : GenerationOptions ε) (before : Workspace) :
    match generate options before with
    | .error cause after =>
        after = before ∧ before.state = .present ∧ Fails options before cause
    | .ok .unchanged after =>
        after = before ∧
          (before.artifact.consumed = true ∨ before.files.isFile before.artifact.path = false)
    | .ok (.emitted text) after => ∃ place, EmittedFrom options before place text after := by
  obtain ⟨absent, run⟩ | ⟨present, cause, fails, run⟩ | ⟨text, after, place, done, run⟩ :=
    generate_cases options before
  · rw [run]
    exact ⟨rfl, Artifact.state_ne_present_iff.mp absent⟩
  · rw [run]
    exact ⟨rfl, present, fails⟩
  · rw [run]
    exact ⟨place, done⟩

end Workspace
end ForeignBindings
