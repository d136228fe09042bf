import ForeignBindings.Command.Generate
import ForeignBindings.Proofs.Generation

/-!
# The course of a run

A run builds first, if it is asked to.  If the build lets it go on, it makes the output directory,
generates the text of the module and writes it, and it ends with the first of these steps that
cannot be taken or leaves nothing to do.
-/

namespace ForeignBindings
namespace GenerateOptions

variable {options : GenerateOptions} {programs : Programs} {builder : Option Builder}
  {build : Option BuildOutcome} {before built : Workspace}

theorem execute_of_build_error {cause : CommandError} {after : Workspace}
    (failed : builder.mapM options.runBuild before = .error cause after) :
    options.execute programs builder before = .error cause after := by
  simp only [execute, bind, EStateM.bind, failed]

theorem execute_of_stopsAfter (ran : builder.mapM options.runBuild before = .ok build built)
    (stops : options.stopsAfter build = true) :
    options.execute programs builder before = .ok ⟨build, none⟩ built := by
  simp only [execute, bind, EStateM.bind, ran, stops, if_true]
  rfl

theorem execute_of_not_stopsAfter
    (ran : builder.mapM options.runBuild before = .ok build built)
    (proceeds : options.stopsAfter build = false) :
    options.execute programs builder before = options.writeBindings programs build built := by
  simp only [execute, bind, EStateM.bind, ran, proceeds, Bool.false_eq_true, if_false]

theorem writeModule_of_error {text : String} {workspace : Workspace} {fault : FileError}
    (refused : workspace.files.writeFile options.outFile (Text.utf8 text) = .error fault) :
    options.writeModule text workspace = .error (.notWritten options.outFile fault) workspace := by
  simp only [writeModule, onFiles, refused]

theorem writeModule_of_ok {text : String} {workspace : Workspace} {files : FileTree}
    (written : workspace.files.writeFile options.outFile (Text.utf8 text) = .ok files) :
    options.writeModule text workspace = .ok () { workspace with files } := by
  simp only [writeModule, onFiles, written]

/-- How a run goes on after the build, up to its result. -/
inductive Course (options : GenerateOptions) (programs : Programs) (build : Option BuildOutcome)
    (built : Workspace) : EStateM.Result CommandError Workspace GenerateReport → Prop
  /-- The output directory cannot be made. -/
  | unprepared {fault : FileError} {files : FileTree}
      (stopped : FileTree.createDirectories options.outDirectory built.files =
        .error fault files) :
      Course options programs build built
        (.error (.notWritten options.outDirectory fault) ⟨files, built.artifact⟩)
  /-- The pass fails. -/
  | failed {files : FileTree} {cause : GenerationError} {after : Workspace}
      (prepared : FileTree.createDirectories options.outDirectory built.files = .ok () files)
      (stopped : Workspace.generate (options.generation programs) ⟨files, built.artifact⟩ =
        .error cause after) :
      Course options programs build built (.error (.generation cause) after)
  /-- The pass finds nothing to do. -/
  | idle {files : FileTree} {after : Workspace}
      (prepared : FileTree.createDirectories options.outDirectory built.files = .ok () files)
      (unchanged : Workspace.generate (options.generation programs) ⟨files, built.artifact⟩ =
        .ok .unchanged after) :
      Course options programs build built (.ok ⟨build, none⟩ after)
  /-- The pass emits a text that cannot be written. -/
  | refused {files : FileTree} {text : String} {emptied : Workspace} {fault : FileError}
      (prepared : FileTree.createDirectories options.outDirectory built.files = .ok () files)
      (emitted : Workspace.generate (options.generation programs) ⟨files, built.artifact⟩ =
        .ok (.emitted text) emptied)
      (stopped : emptied.files.writeFile options.outFile (Text.utf8 text) = .error fault) :
      Course options programs build built (.error (.notWritten options.outFile fault) emptied)
  /-- The pass emits a text that is written. -/
  | written {files : FileTree} {text : String} {emptied : Workspace} {filled : FileTree}
      (prepared : FileTree.createDirectories options.outDirectory built.files = .ok () files)
      (emitted : Workspace.generate (options.generation programs) ⟨files, built.artifact⟩ =
        .ok (.emitted text) emptied)
      (taken : emptied.files.writeFile options.outFile (Text.utf8 text) = .ok filled) :
      Course options programs build built
        (.ok ⟨build, some options.outFile⟩ { emptied with files := filled })

theorem course_writeBindings (options : GenerateOptions) (programs : Programs)
    (build : Option BuildOutcome) (built : Workspace) :
    Course options programs build built (options.writeBindings programs build built) := by
  simp only [writeBindings, bind, EStateM.bind, onFiles]
  cases prepared : FileTree.createDirectories options.outDirectory built.files with
  | error fault files => exact .unprepared prepared
  | ok _ files =>
      simp only [EStateM.adaptExcept]
      cases emitted : Workspace.generate (options.generation programs)
          ⟨files, built.artifact⟩ with
      | error cause after => exact .failed prepared emitted
      | ok generation emptied =>
          cases generation with
          | unchanged => exact .idle prepared emitted
          | emitted text =>
              cases taken : emptied.files.writeFile options.outFile (Text.utf8 text) with
              | ok filled =>
                  simp only [EStateM.bind, writeModule_of_ok taken]
                  exact .written prepared emitted taken
              | error fault =>
                  simp only [EStateM.bind, writeModule_of_error taken]
                  exact .refused prepared emitted taken

end GenerateOptions
end ForeignBindings
