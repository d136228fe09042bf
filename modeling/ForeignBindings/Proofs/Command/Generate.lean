import ForeignBindings.Proofs.Command.Course

/-!
# What a failed run leaves behind

Without a build, a run makes the output directory, generates the text of the module and writes it.
The pass that generates the text takes the artifact with it, so whether a failed run can be
repeated depends on the step that failed.
-/

namespace ForeignBindings

theorem Path.join_ne_directory {directory name : String} (named : 0 < name.length) :
    join directory name ≠ directory := by
  intro same
  have longer : directory.length < (join directory name).length := by
    rw [join]
    split <;> simp only [String.length_append] <;> omega
  rw [same] at longer
  omega

namespace GenerateOptions

theorem course_of_execute {options : GenerateOptions} {programs : Programs}
    {before after : Workspace} {cause : CommandError}
    (failed : options.execute programs none before = .error cause after) :
    Course options programs none before (.error cause after) := by
  have run : options.writeBindings programs none before = .error cause after := failed
  exact run ▸ course_writeBindings options programs none before

/-- Whether a run without a build gets as far as writing the module and cannot write it. -/
def WriteFails (options : GenerateOptions) (programs : Programs) (before : Workspace) : Prop :=
  ∃ files text emptied fault,
    FileTree.createDirectories options.outDirectory before.files = .ok () files ∧
      Workspace.generate (options.generation programs) ⟨files, before.artifact⟩ =
        .ok (.emitted text) emptied ∧
      emptied.files.writeFile options.outFile (Text.utf8 text) = .error fault

theorem execute_of_writeFails {options : GenerateOptions} {programs : Programs}
    {before : Workspace} (fails : options.WriteFails programs before) :
    ∃ fault after, options.execute programs none before =
      .error (.notWritten options.outFile fault) after := by
  obtain ⟨files, text, emptied, fault, prepared, emitted, refused⟩ := fails
  refine ⟨fault, emptied, ?_⟩
  change options.writeBindings programs none before = _
  simp only [writeBindings, bind, EStateM.bind, onFiles, prepared, EStateM.adaptExcept, emitted,
    writeModule_of_error refused]

/-- A failure to write the output file comes after everything else has succeeded. -/
theorem write_of_course {options : GenerateOptions} {programs : Programs}
    {before after : Workspace} {fault : FileError}
    (course : Course options programs none before
      (.error (.notWritten options.outFile fault) after)) :
    ∃ files text,
      FileTree.createDirectories options.outDirectory before.files = .ok () files ∧
        Workspace.generate (options.generation programs) ⟨files, before.artifact⟩ =
          .ok (.emitted text) after ∧
        after.files.writeFile options.outFile (Text.utf8 text) = .error fault := by
  generalize same : CommandError.notWritten options.outFile fault = cause at course
  cases course with
  | unprepared stopped =>
      injection same with path
      exact absurd path (Path.join_ne_directory (by decide))
  | failed prepared stopped => cases same
  | refused prepared emitted stopped =>
      cases same
      exact ⟨_, _, prepared, emitted, stopped⟩

/-- The cause tells whether the module could not be written. -/
theorem writeFails_iff_of_execute {options : GenerateOptions} {programs : Programs}
    {before after : Workspace} {cause : CommandError}
    (failed : options.execute programs none before = .error cause after) :
    options.WriteFails programs before ↔ ∃ fault, cause = .notWritten options.outFile fault := by
  constructor
  · intro fails
    obtain ⟨fault, left, run⟩ := execute_of_writeFails fails
    rw [failed] at run
    cases run
    exact ⟨fault, rfl⟩
  · rintro ⟨fault, rfl⟩
    obtain ⟨files, text, prepared, emitted, refused⟩ :=
      write_of_course (course_of_execute failed)
    exact ⟨files, text, after, fault, prepared, emitted, refused⟩

/-- Making the output directory leaves the artifact, even if it fails. -/
theorem file_of_createDirectories_error {directory path : String} {before after : FileTree}
    {fault : FileError} {place : Place} {entry : FileEntry}
    (present : before.file path = .ok (place, entry))
    (stopped : FileTree.createDirectories directory before = .error fault after) :
    after.file path = .ok (place, entry) := by
  have grows := FileTree.extends_createDirectories directory before
  rw [FileTree.filesAfter_of_error stopped] at grows
  exact grows.file present

theorem file_of_createDirectories_ok {directory path : String} {before after : FileTree}
    {place : Place} {entry : FileEntry} (present : before.file path = .ok (place, entry))
    (prepared : FileTree.createDirectories directory before = .ok () after) :
    after.file path = .ok (place, entry) := by
  have grows := FileTree.extends_createDirectories directory before
  rw [FileTree.filesAfter_of_ok prepared] at grows
  exact grows.file present

/-- A failed run keeps the artifact unless it is the writing of the module that fails. -/
theorem artifact_kept_of_course {options : GenerateOptions} {programs : Programs}
    {before after : Workspace} {cause : CommandError} {place : Place} {entry : FileEntry}
    (present : before.files.file before.artifact.path = .ok (place, entry))
    (course : Course options programs none before (.error cause after))
    (earlier : ¬options.WriteFails programs before) :
    after.artifact = before.artifact ∧
      after.files.file before.artifact.path = .ok (place, entry) := by
  cases course with
  | unprepared stopped => exact ⟨rfl, file_of_createDirectories_error present stopped⟩
  | failed prepared stopped =>
      have unchanged := Workspace.eq_of_generate_error stopped
      subst unchanged
      exact ⟨rfl, file_of_createDirectories_ok present prepared⟩
  | refused prepared emitted stopped =>
      exact absurd ⟨_, _, _, _, prepared, emitted, stopped⟩ earlier

/-- A run that cannot write the module has already deleted the artifact. -/
theorem artifact_gone_of_course {options : GenerateOptions} {programs : Programs}
    {before after : Workspace} {fault : FileError}
    (course : Course options programs none before
      (.error (.notWritten options.outFile fault) after)) :
    after.state = .consumed ∧ after.files.contains before.artifact.path = false := by
  obtain ⟨files, text, prepared, emitted, refused⟩ := write_of_course course
  obtain ⟨place, done⟩ := Workspace.emittedFrom_of_generate emitted
  exact ⟨done.state, done.gone⟩

/-- A failed run without a build keeps the artifact as it was, unless the module cannot be written:
then the artifact is gone, and with it the source of the text. -/
theorem artifact_kept_iff_of_execute {options : GenerateOptions} {programs : Programs}
    {before after : Workspace} {cause : CommandError} {place : Place} {entry : FileEntry}
    (present : before.files.file before.artifact.path = .ok (place, entry))
    (failed : options.execute programs none before = .error cause after) :
    ((after.artifact = before.artifact ∧
        after.files.file before.artifact.path = .ok (place, entry)) ↔
      ¬options.WriteFails programs before) ∧
    (options.WriteFails programs before ↔
      ∃ fault, cause = .notWritten options.outFile fault) ∧
    (options.WriteFails programs before →
      after.state = .consumed ∧ after.files.contains before.artifact.path = false) := by
  have course := course_of_execute failed
  have told := writeFails_iff_of_execute failed
  have gone : options.WriteFails programs before →
      after.state = .consumed ∧ after.files.contains before.artifact.path = false := by
    intro fails
    obtain ⟨fault, rfl⟩ := told.mp fails
    exact artifact_gone_of_course course
  refine ⟨⟨?_, artifact_kept_of_course present course⟩, told, gone⟩
  rintro ⟨-, found⟩ fails
  have missing := (gone fails).2
  rw [FileTree.contains_of_file found] at missing
  cases missing

/-- The least metadata of a package, a JSON object with its name. -/
def addDocument : String := "\x7b\"name\": \"add\"\x7d"

/-- Metadata that waits where a directory stands in the place of the output file. -/
def blockedWorkspace : Workspace where
  files :=
    { nodes :=
        [(["bindings.json"], .file { content := Text.utf8 addDocument }),
          (["bindings"], .directory), (["bindings", "bindings.ts"], .directory)]
      workingDirectory := [] }
  artifact := { path := "bindings.json" }

/-- A run without a build and without a formatter. -/
def plainOptions : GenerateOptions where
  profile := .debug
  location := .localPath "target"
  outDirectory := "bindings"
  lazyInit := false
  build := false
  formatter := .none
  extraArguments := []

theorem artifact_kept_iff_of_execute_blockedWorkspace :
    ∃ place entry cause after,
      blockedWorkspace.files.file blockedWorkspace.artifact.path = .ok (place, entry) ∧
      plainOptions.execute Programs.none none blockedWorkspace = .error cause after ∧
      ((after.artifact = blockedWorkspace.artifact ∧
          after.files.file blockedWorkspace.artifact.path = .ok (place, entry)) ↔
        ¬plainOptions.WriteFails Programs.none blockedWorkspace) ∧
      (plainOptions.WriteFails Programs.none blockedWorkspace ↔
        ∃ fault, cause = .notWritten plainOptions.outFile fault) ∧
      (plainOptions.WriteFails Programs.none blockedWorkspace →
        after.state = .consumed ∧
          after.files.contains blockedWorkspace.artifact.path = false) := by
  have fails : plainOptions.WriteFails Programs.none blockedWorkspace :=
    ⟨_, _, _, _, rfl, rfl, rfl⟩
  obtain ⟨fault, after, failed⟩ := execute_of_writeFails fails
  have present : blockedWorkspace.files.file blockedWorkspace.artifact.path =
      .ok (["bindings.json"], { content := Text.utf8 addDocument }) := rfl
  exact ⟨_, _, _, after, present, failed, artifact_kept_iff_of_execute present failed⟩

/-- A run that fails can lose the artifact of a handle that was still good. -/
theorem artifact_lost_blockedWorkspace :
    blockedWorkspace.state = .present ∧
      ∃ cause after,
        plainOptions.execute Programs.none none blockedWorkspace = .error cause after ∧
          after.files.contains blockedWorkspace.artifact.path = false := by
  refine ⟨rfl, .notWritten "bindings/bindings.ts" .isDirectory, ?_⟩
  exact ⟨_, rfl, rfl⟩

end GenerateOptions
end ForeignBindings
