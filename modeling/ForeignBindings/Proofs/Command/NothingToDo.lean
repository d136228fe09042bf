import ForeignBindings.Proofs.Command.Generate
import ForeignBindings.Proofs.Files.Directories
import ForeignBindings.Proofs.Files.Places

/-!
# Runs without metadata

A run makes the output directory before it looks for metadata.  So a run that finds none ends as it
should only where the directory exists: elsewhere it makes directories for nothing, or fails because
it cannot make them.
-/

namespace ForeignBindings
namespace GenerateOptions

variable {options : GenerateOptions} {programs : Programs} {builder : Option Builder}
  {build : Option BuildOutcome} {before built : Workspace}

/-- A run that ends without a text and without a change has found its output directory. -/
theorem hasDirectory_of_writeBindings
    (run : options.writeBindings programs build built = .ok ⟨build, none⟩ built) :
    built.files.HasDirectory options.outDirectory := by
  have course := course_writeBindings options programs build built
  rw [run] at course
  cases course with
  | idle prepared unchanged =>
      have same := Workspace.eq_of_generate_unchanged unchanged
      rw [same]
      exact FileTree.hasDirectory_of_createDirectories prepared

/-- A run that is ready to look for metadata and finds none changes nothing more. -/
theorem writeBindings_of_missing {files : FileTree}
    (prepared : FileTree.createDirectories options.outDirectory built.files = .ok () files)
    (missing : built.artifact.state files ≠ .present) :
    options.writeBindings programs build built =
      .ok ⟨build, none⟩ { built with files } := by
  have idle : Workspace.generate (options.generation programs) ⟨files, built.artifact⟩ =
      .ok .unchanged ⟨files, built.artifact⟩ :=
    Workspace.generate_of_state_ne_present (options.generation programs) missing
  simp only [writeBindings, bind, EStateM.bind, onFiles, prepared, EStateM.adaptExcept, idle]
  rfl

theorem writeBindings_of_unprepared {fault : FileError} {files : FileTree}
    (stopped : FileTree.createDirectories options.outDirectory built.files = .error fault files) :
    options.writeBindings programs build built =
      .error (.notWritten options.outDirectory fault) { built with files } := by
  simp only [writeBindings, bind, EStateM.bind, onFiles, stopped]

/-- If no file stands where metadata is expected, a run makes directories at most, and it fails
exactly if it cannot make them. -/
theorem writeBindings_of_free
    (free : built.files.fileAt (built.files.spelled built.artifact.path) = none) :
    ∃ files, FileTree.AddsDirectories built.files files ∧
      (options.writeBindings programs build built = .ok ⟨build, none⟩ { built with files } ∨
        ∃ fault, options.writeBindings programs build built =
          .error (.notWritten options.outDirectory fault) { built with files }) := by
  have adds := FileTree.addsDirectories_createDirectories options.outDirectory built.files
  cases made : FileTree.createDirectories options.outDirectory built.files with
  | error fault files =>
      rw [FileTree.filesAfter_of_error made] at adds
      exact ⟨files, adds, .inr ⟨fault, writeBindings_of_unprepared made⟩⟩
  | ok _ files =>
      rw [FileTree.filesAfter_of_ok made] at adds
      have absent : files.fileAt (files.spelled built.artifact.path) = none := by
        rw [FileTree.spelled_congr adds.workingDirectory, (adds.keepsFile _).file, free]
      have missing : built.artifact.state files ≠ .present :=
        Artifact.state_ne_present_iff.mpr (.inr (FileTree.isFile_of_fileAt_eq_none absent))
      exact ⟨files, adds, .inl (writeBindings_of_missing made missing)⟩

/-- A run that finds no metadata after its build leaves everything as the build has left it exactly
if the output directory is there.  Otherwise it makes directories, which may fail. -/
theorem unchanged_iff_hasDirectory_of_missing
    (ran : builder.mapM options.runBuild before = .ok build built)
    (proceeds : options.stopsAfter build = false) (missing : built.state ≠ .present) :
    (options.execute programs builder before = .ok ⟨build, none⟩ built ↔
      built.files.HasDirectory options.outDirectory) ∧
    (built.files.fileAt (built.files.spelled built.artifact.path) = none →
      ∃ files, FileTree.AddsDirectories built.files files ∧
        (options.execute programs builder before = .ok ⟨build, none⟩ { built with files } ∨
          ∃ fault, options.execute programs builder before =
            .error (.notWritten options.outDirectory fault) { built with files })) := by
  rw [execute_of_not_stopsAfter ran proceeds]
  refine ⟨⟨hasDirectory_of_writeBindings, fun there => ?_⟩, writeBindings_of_free⟩
  exact writeBindings_of_missing (FileTree.createDirectories_of_hasDirectory there) missing

/-- No metadata, and a file in the place of the output directory. -/
def occupiedWorkspace : Workspace where
  files := { nodes := [(["bindings"], .file { content := [] })], workingDirectory := [] }
  artifact := { path := "bindings.json" }

theorem unchanged_iff_hasDirectory_of_missing_occupiedWorkspace :
    (none : Option Builder).mapM plainOptions.runBuild occupiedWorkspace =
        .ok none occupiedWorkspace ∧
      plainOptions.stopsAfter none = false ∧ occupiedWorkspace.state ≠ .present ∧
      ¬occupiedWorkspace.files.HasDirectory plainOptions.outDirectory ∧
      (plainOptions.execute Programs.none none occupiedWorkspace =
          .ok ⟨none, none⟩ occupiedWorkspace ↔
        occupiedWorkspace.files.HasDirectory plainOptions.outDirectory) := by
  have missing : occupiedWorkspace.state ≠ .present := by decide
  refine ⟨rfl, rfl, missing, ?_, (unchanged_iff_hasDirectory_of_missing rfl rfl missing).1⟩
  rintro ⟨-, leads⟩
  exact absurd leads (by decide)

/-- A run without metadata can fail. -/
theorem execute_fails_occupiedWorkspace :
    occupiedWorkspace.artifact.consumed = false ∧
      occupiedWorkspace.files.contains occupiedWorkspace.artifact.path = false ∧
      plainOptions.execute Programs.none none occupiedWorkspace =
        .error (.notWritten "bindings" .alreadyExists) occupiedWorkspace :=
  ⟨rfl, rfl, rfl⟩

end GenerateOptions
end ForeignBindings
