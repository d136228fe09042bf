import ForeignBindings.Command.Emit
import ForeignBindings.Proofs.Command.Generate
import ForeignBindings.Proofs.Files.Places

/-!
# What a run does to the output file

A run writes the output file at its very end, once the text exists and the artifact is gone.  So the
file changes only if the run reports it, and then it holds what the emit command shows for the
metadata that the build has left.
-/

namespace ForeignBindings

theorem FileTree.isFile_of_readText {files : FileTree} {path document : String}
    (readable : files.readText path = .ok document) : files.isFile path = true := by
  rw [isFile]
  cases found : files.file path with
  | error fault => simp [readText, readBytes, found, bind, Except.bind] at readable
  | ok target => rfl

/-- The text of a file is what its bytes spell. -/
theorem FileTree.exists_fileAt_of_readText {files : FileTree} {path document : String}
    (readable : files.readText path = .ok document) :
    ∃ entry, files.fileAt (files.spelled path) = some entry ∧
      Text.ofUtf8? entry.content = some document := by
  cases found : files.file path with
  | error fault => simp [readText, readBytes, found, bind, Except.bind] at readable
  | ok target =>
      obtain ⟨place, entry⟩ := target
      obtain ⟨rfl, stands⟩ := fileAt_of_file found
      refine ⟨entry, stands, ?_⟩
      simp only [readText, readBytes, found, bind, Except.bind] at readable
      cases allowed : entry.readable with
      | false => simp [allowed] at readable
      | true =>
          simp only [allowed, if_true] at readable
          cases spelt : Text.ofUtf8? entry.content with
          | none => simp [spelt] at readable
          | some text =>
              simp only [spelt, Except.ok.injEq] at readable
              rw [readable]

theorem Artifact.read_of_readText {files : FileTree} {path document : String}
    {metadata : Metadata} (readable : files.readText path = .ok document)
    (parsed : Metadata.read document = .ok metadata) :
    Artifact.read { path } files = .ok (some metadata) := by
  have present : Artifact.state { path } files = .present :=
    state_eq_present_iff.mpr ⟨rfl, FileTree.isFile_of_readText readable⟩
  simp only [Artifact.read, present, readable, parsed]

namespace GenerateOptions

/-- What the emit command is asked to do with a metadata file to show the same module. -/
def emission (options : GenerateOptions) (metadata : String) : EmitOptions where
  metadata := metadata
  profile := options.profile
  location := options.location
  output := none
  lazyInit := options.lazyInit

/-- Without a formatter, a text that is made from a document is what the emit command shows for
every file that holds the document. -/
theorem render_of_yields {options : GenerateOptions} {programs : Programs}
    {document text : String} (plain : options.formatter = .none)
    (yields : Yields (options.generation programs) document text) {files : FileTree}
    {path : String} (readable : files.readText path = .ok document) :
    (options.emission path).render files = .ok text := by
  obtain ⟨metadata, module, glue, parsed, converted, emitted, formats⟩ := yields
  have unformatted : (options.generation programs).formatter = none := by
    rw [generation, plain]
    rfl
  have whole : text = glue.text := by
    cases formats with
    | unformatted absent => rfl
    | formatted given succeeded =>
        rw [unformatted] at given
        cases given
    | kept given failed => rfl
  have config : (options.generation programs).config =
      { Glue.Config.default with lazyInit := options.lazyInit } := rfl
  have profile : (options.generation programs).profile = options.profile := rfl
  have location : (options.generation programs).location = options.location := rfl
  rw [config] at emitted
  rw [profile, location] at converted
  simp only [EmitOptions.render, emission, Artifact.read_of_readText readable parsed,
    Metadata.moduleText, converted, Glue.generate, emitted, bind, Except.bind, pure, Except.pure,
    Glue.applyFormatter, whole]

end GenerateOptions

/-- Whether a builder leaves the file at a place alone, however it is run and however it ends. -/
def Builder.Spares (builder : Builder) (place : Place) : Prop :=
  ∀ arguments files,
    FileTree.KeepsFile place files (FileTree.filesAfter (builder.run arguments) files)

/-- Whether the file at a place is the same in two workspaces, and the handle as well. -/
structure Workspace.Keeps (place : Place) (before after : Workspace) : Prop where
  /-- The file is the same. -/
  files : FileTree.KeepsFile place before.files after.files
  /-- The handle is the same. -/
  artifact : after.artifact = before.artifact

theorem Workspace.Keeps.refl (place : Place) (workspace : Workspace) :
    Keeps place workspace workspace :=
  ⟨.refl place workspace.files, rfl⟩

theorem Workspace.Keeps.trans {place : Place} {first second third : Workspace}
    (left : Keeps place first second) (right : Keeps place second third) :
    Keeps place first third :=
  ⟨left.files.trans right.files, right.artifact.trans left.artifact⟩

namespace GenerateOptions

/-- Whether a step of the command keeps the file at a place, whether it succeeds or fails. -/
def Spares {α : Type} (step : EStateM CommandError Workspace α) (place : Place)
    (before : Workspace) : Prop :=
  match step before with
  | .ok _ after | .error _ after => Workspace.Keeps place before after

theorem spares_pure {α : Type} (value : α) (place : Place) (before : Workspace) :
    Spares (pure value) place before :=
  .refl place before

theorem spares_bind {α β : Type} {first : EStateM CommandError Workspace α}
    {next : α → EStateM CommandError Workspace β} {place : Place} {before : Workspace}
    (start : Spares first place before)
    (rest : ∀ {value after}, first before = .ok value after → Spares (next value) place after) :
    Spares (first >>= next) place before := by
  rw [Spares] at start ⊢
  cases ran : first before with
  | error cause after =>
      simp only [ran] at start
      simp only [bind, EStateM.bind, ran]
      exact start
  | ok value middle =>
      simp only [ran] at start
      have later := rest ran
      rw [Spares] at later
      simp only [bind, EStateM.bind, ran]
      cases final : next value middle with
      | ok result after =>
          simp only [final] at later
          exact start.trans later
      | error cause after =>
          simp only [final] at later
          exact start.trans later

/-- Discarding what an earlier build left behind takes the artifact only. -/
theorem spares_discard {place : Place} {before : Workspace}
    (apart : place ≠ before.files.spelled before.artifact.path) :
    Spares (onArtifact Workspace.discard) place before := by
  simp only [Spares, onArtifact, EStateM.adaptExcept, Workspace.discard]
  cases removed : before.files.removeFile before.artifact.path with
  | ok files => exact ⟨FileTree.keepsFile_removeFile removed apart, rfl⟩
  | error fault => cases fault <;> exact .refl place before

theorem spares_build {fault : FileError → CommandError} {builder : Builder} {place : Place}
    (spares : builder.Spares place) (arguments : List String) (before : Workspace) :
    Spares (onFiles fault (builder.run arguments)) place before := by
  have keeps := spares arguments before.files
  simp only [Spares, onFiles]
  cases ran : builder.run arguments before.files with
  | ok outcome files =>
      rw [FileTree.filesAfter_of_ok ran] at keeps
      exact ⟨keeps, rfl⟩
  | error cause files =>
      rw [FileTree.filesAfter_of_error ran] at keeps
      exact ⟨keeps, rfl⟩

theorem spares_runBuild {options : GenerateOptions} {builder : Builder} {place : Place}
    {before : Workspace} (spares : builder.Spares place)
    (apart : place ≠ before.files.spelled before.artifact.path) :
    Spares (options.runBuild builder) place before := by
  have build (after : Workspace) :
      Spares (onFiles (.buildNotRun builder.program) (builder.run options.buildArguments))
        place after :=
    spares_build spares options.buildArguments after
  rw [runBuild]
  split
  · exact build before
  · exact spares_bind (spares_discard apart) fun {_ after} _ => build after

theorem spares_mapM_runBuild {options : GenerateOptions} {builder : Option Builder}
    {place : Place} {before : Workspace} (spares : ∀ known ∈ builder, known.Spares place)
    (apart : place ≠ before.files.spelled before.artifact.path) :
    Spares (builder.mapM options.runBuild) place before := by
  cases builder with
  | none => exact spares_pure none place before
  | some known =>
      have build : Spares (options.runBuild known) place before :=
        spares_runBuild (spares known rfl) apart
      have whole : (some known).mapM options.runBuild =
          options.runBuild known >>= fun outcome => pure (some outcome) := rfl
      rw [whole]
      exact spares_bind build fun {outcome after} _ => spares_pure (some outcome) place after

/-- Whether a text is what the emit command shows for the metadata that the file at a place
holds. -/
def Renders (options : GenerateOptions) (files : FileTree) (place : Place) (text : String) : Prop :=
  ∃ entry document, files.fileAt place = some entry ∧
    Text.ofUtf8? entry.content = some document ∧
    ∀ (others : FileTree) (path : String), others.readText path = .ok document →
      (options.emission path).render others = .ok text

/-- Whether the file at a place holds a text and nothing else, unless a device stands there, which
holds nothing. -/
def Holds (files : FileTree) (place : Place) (text : String) : Prop :=
  (∃ entry, files.fileAt place = some entry ∧ entry.content = Text.utf8 text) ∨
    ∃ device, files.node? place = some (.device device)

theorem holds_of_writeFile {before after : FileTree} {path text : String}
    (taken : before.writeFile path (Text.utf8 text) = .ok after) :
    Holds after (before.spelled path) text := by
  obtain ⟨entry, content, below, rfl⟩ | ⟨device, stands, rfl⟩ := FileTree.writeFile_eq_ok taken
  · have filled := FileTree.node?_insert_self before below (.file entry)
    exact .inl ⟨entry, FileTree.fileAt_of_node filled, content⟩
  · exact .inr ⟨device, stands⟩

/-- A path that leads to nothing still does so when a file is written at another place. -/
theorem free_of_writeFile {before after : FileTree} {path other : String} {content : List UInt8}
    (taken : before.writeFile path content = .ok after)
    (apart : before.spelled other ≠ before.spelled path)
    (free : before.node? (before.spelled other) = none) : after.contains other = false := by
  obtain ⟨entry, -, -, rfl⟩ | ⟨device, -, rfl⟩ := FileTree.writeFile_eq_ok taken
  · exact FileTree.contains_of_free ((FileTree.node?_insert_of_ne before apart _).trans free)
  · exact FileTree.contains_of_free free

/-- A pass that emits a text takes the file where the artifact's path leads and nothing else. -/
theorem keepsFile_of_emittedFrom {ε : Type} {options : GenerationOptions ε}
    {before after : Workspace} {place taken : Place} {text : String}
    (done : Workspace.EmittedFrom options before taken text after)
    (apart : before.files.spelled before.artifact.path ≠ place) :
    FileTree.KeepsFile place before.files after.files ∧
      after.files.node? (before.files.spelled before.artifact.path) = none := by
  obtain ⟨entry, found⟩ := done.found
  obtain ⟨resolved, stands⟩ := FileTree.resolve_of_file found
  obtain rfl := FileTree.eq_spelled_of_resolve resolved
  rw [done.files]
  exact ⟨FileTree.keepsFile_erase before.files apart.symm,
    FileTree.node?_erase_self before.files (FileTree.ne_root_of_file stands)⟩

variable {options : GenerateOptions} {programs : Programs} {builder : Option Builder}
  {build : Option BuildOutcome} {before built : Workspace}
  {result : EStateM.Result CommandError Workspace GenerateReport}

/-- The text of a pass comes from what stands in the artifact's place, also if the path leads there
only after directories are made. -/
theorem renders_of_emittedFrom {files : FileTree} {emptied : Workspace} {place : Place}
    {text : String} (plain : options.formatter = .none)
    (same : ∀ place, FileTree.KeepsFile place built.files files)
    (done : Workspace.EmittedFrom (options.generation programs) ⟨files, built.artifact⟩ place text
      emptied) :
    Renders options built.files (built.files.spelled built.artifact.path) text := by
  obtain ⟨document, readable, yields⟩ := done.source
  obtain ⟨entry, stands, spelt⟩ := FileTree.exists_fileAt_of_readText readable
  rw [FileTree.spelled_congr (same []).workingDirectory, (same _).file] at stands
  exact ⟨entry, document, stands, spelt, fun others path held => render_of_yields plain yields held⟩

/-- How the output file has changed when a run ends with a result. -/
inductive Output (options : GenerateOptions) (builder : Option Builder) (before : Workspace) :
    EStateM.Result CommandError Workspace GenerateReport → Prop
  /-- A run that fails has left the file as it was. -/
  | failed {cause : CommandError} {after : Workspace}
      (same : after.files.fileAt (before.files.spelled options.outFile) =
        before.files.fileAt (before.files.spelled options.outFile)) :
      Output options builder before (.error cause after)
  /-- A run that reports no file has left it as it was. -/
  | unreported {build : Option BuildOutcome} {after : Workspace}
      (same : after.files.fileAt (before.files.spelled options.outFile) =
        before.files.fileAt (before.files.spelled options.outFile)) :
      Output options builder before (.ok ⟨build, none⟩ after)
  /-- A run that reports the file has put the text into it that the emit command shows for the
  metadata that the build has left, and the metadata is gone.  The build has not stopped the run and
  the handle was still good. -/
  | reported {build : Option BuildOutcome} {built after : Workspace} {text : String}
      (ran : builder.mapM options.runBuild before = .ok build built)
      (proceeds : options.stopsAfter build = false) (unused : before.artifact.consumed = false)
      (renders : Renders options built.files
        (before.files.spelled before.artifact.path) text)
      (holds : Holds after.files (before.files.spelled options.outFile) text)
      (gone : after.files.contains before.artifact.path = false) :
      Output options builder before (.ok ⟨build, some options.outFile⟩ after)

theorem output_of_course (plain : options.formatter = .none)
    (apart : before.files.spelled before.artifact.path ≠ before.files.spelled options.outFile)
    (ran : builder.mapM options.runBuild before = .ok build built)
    (proceeds : options.stopsAfter build = false)
    (keeps : Workspace.Keeps (before.files.spelled options.outFile) before built)
    (course : Course options programs build built result) :
    Output options builder before result := by
  have prepares (place : Place) :=
    FileTree.keepsFile_createDirectories options.outDirectory built.files place
  cases course with
  | unprepared stopped =>
      rw [FileTree.filesAfter_of_error stopped] at prepares
      exact .failed (keeps.files.trans (prepares _)).file
  | failed prepared stopped =>
      rw [FileTree.filesAfter_of_ok prepared] at prepares
      rw [Workspace.eq_of_generate_error stopped]
      exact .failed (keeps.files.trans (prepares _)).file
  | idle prepared unchanged =>
      rw [FileTree.filesAfter_of_ok prepared] at prepares
      rw [Workspace.eq_of_generate_unchanged unchanged]
      exact .unreported (keeps.files.trans (prepares _)).file
  | @refused files text emptied fault prepared emitted stopped =>
      rw [FileTree.filesAfter_of_ok prepared] at prepares
      obtain ⟨place, done⟩ := Workspace.emittedFrom_of_generate emitted
      have ready := keeps.files.trans (prepares _)
      have spells := FileTree.spelled_congr ready.workingDirectory
      obtain ⟨kept, -⟩ := keepsFile_of_emittedFrom done (by rwa [spells, keeps.artifact])
      exact .failed (ready.trans kept).file
  | @written files text emptied filled prepared emitted taken =>
      rw [FileTree.filesAfter_of_ok prepared] at prepares
      obtain ⟨place, done⟩ := Workspace.emittedFrom_of_generate emitted
      have ready := keeps.files.trans (prepares _)
      have spells := FileTree.spelled_congr ready.workingDirectory
      obtain ⟨kept, free⟩ := keepsFile_of_emittedFrom done (by rwa [spells, keeps.artifact])
      have places := FileTree.spelled_congr (ready.trans kept).workingDirectory
      have renders := renders_of_emittedFrom plain prepares done
      rw [FileTree.spelled_congr keeps.files.workingDirectory, keeps.artifact] at renders
      have holds := holds_of_writeFile taken
      rw [places] at holds
      have gone : filled.contains before.artifact.path = false := by
        refine free_of_writeFile taken ?_ ?_
        · rwa [places, places]
        · rw [places, ← spells, ← keeps.artifact]
          exact free
      exact .reported ran proceeds (keeps.artifact ▸ done.unused) renders holds gone

/-- The output file changes only to a complete and current module.  A builder may do what it likes
to any other file, the artifact included. -/
theorem output_changes_only_to_current_module (plain : options.formatter = .none)
    (spares : ∀ known ∈ builder, known.Spares (before.files.spelled options.outFile))
    (apart : before.files.spelled before.artifact.path ≠ before.files.spelled options.outFile) :
    Output options builder before (options.execute programs builder before) := by
  have keeps : Spares (builder.mapM options.runBuild) _ before :=
    spares_mapM_runBuild spares apart.symm
  rw [Spares] at keeps
  cases ran : builder.mapM options.runBuild before with
  | error cause after =>
      rw [ran] at keeps
      rw [execute_of_build_error ran]
      exact .failed keeps.files.file
  | ok build built =>
      rw [ran] at keeps
      cases proceeds : options.stopsAfter build with
      | true =>
          rw [execute_of_stopsAfter ran proceeds]
          exact .unreported keeps.files.file
      | false =>
          rw [execute_of_not_stopsAfter ran proceeds]
          exact output_of_course plain apart ran proceeds keeps
            (course_writeBindings options programs build built)

theorem steps_outFileName : Path.steps outFileName = [outFileName] := by decide

theorem steps_artifactFileName : Path.steps Artifact.fileName = [Artifact.fileName] := by decide

/-- The artifact of a build and the output file never share a place, whatever their directories. -/
theorem spelled_ofDirectory_ne_outFile (options : GenerateOptions) (files : FileTree)
    (workingDirectory : String) (given : Option String) :
    files.spelled (Artifact.ofDirectory workingDirectory given).path ≠
      files.spelled options.outFile := by
  obtain ⟨above, artifact⟩ := files.exists_spelled_join (given.getD workingDirectory)
    steps_artifactFileName fun _ => rfl
  obtain ⟨beyond, output⟩ := files.exists_spelled_join options.outDirectory
    steps_outFileName fun _ => rfl
  rw [Artifact.ofDirectory, outFile, artifact, output]
  intro same
  have names : [Artifact.fileName] = [outFileName] := List.append_inj_right' same rfl
  exact absurd names (by decide)

/-- A build that succeeds and leaves a document in place of metadata. -/
def leavingBuilder (document : String) : Builder where
  program := "cargo"
  run := fun _ files =>
    match files.writeFile Artifact.fileName (Text.utf8 document) with
    | .ok written => .ok .succeeded written
    | .error cause => .error cause files

theorem spelled_fileName (files : FileTree) :
    files.spelled Artifact.fileName = files.workingDirectory ++ [Artifact.fileName] := by
  have relative : Path.isRooted Artifact.fileName = false := by decide
  simp only [FileTree.spelled, FileTree.start, steps_artifactFileName, relative,
    Bool.false_eq_true, if_false, List.foldl_cons, List.foldl_nil]
  rfl

theorem spares_leavingBuilder (document : String) (above : Place) :
    (leavingBuilder document).Spares (above ++ [outFileName]) := by
  intro arguments files
  have different : above ++ [outFileName] ≠ files.spelled Artifact.fileName := by
    rw [spelled_fileName]
    intro same
    have names : [outFileName] = [Artifact.fileName] := List.append_inj_right' same rfl
    exact absurd names (by decide)
  simp only [leavingBuilder, FileTree.filesAfter]
  cases written : files.writeFile Artifact.fileName (Text.utf8 document) with
  | ok after => exact FileTree.keepsFile_writeFile written different
  | error cause => exact .refl _ files

/-- No files at all, and a handle on the artifact of a build. -/
def emptyWorkspace : Workspace where
  files := { nodes := [], workingDirectory := [] }
  artifact := .ofDirectory "" none

/-- The same after a build that leaves a document. -/
def leftWorkspace (document : String) : Workspace where
  files :=
    { nodes := [(["bindings.json"], .file { content := Text.utf8 document })]
      workingDirectory := [] }
  artifact := .ofDirectory "" none

theorem runBuild_emptyWorkspace :
    (some (leavingBuilder addDocument)).mapM plainOptions.runBuild emptyWorkspace =
      .ok (some .succeeded) (leftWorkspace addDocument) := rfl

theorem exists_execute_emptyWorkspace :
    ∃ after, plainOptions.execute Programs.none (some (leavingBuilder addDocument))
      emptyWorkspace = .ok ⟨some .succeeded, some plainOptions.outFile⟩ after := by
  obtain ⟨after, writes⟩ : ∃ after,
      plainOptions.writeBindings Programs.none (some .succeeded) (leftWorkspace addDocument) =
        .ok ⟨some .succeeded, some plainOptions.outFile⟩ after := ⟨_, rfl⟩
  exact ⟨after, (execute_of_not_stopsAfter runBuild_emptyWorkspace rfl).trans writes⟩

theorem output_changes_only_to_current_module_emptyWorkspace :
    plainOptions.formatter = .none ∧
      (∀ known ∈ some (leavingBuilder addDocument),
        known.Spares (emptyWorkspace.files.spelled plainOptions.outFile)) ∧
      emptyWorkspace.files.spelled emptyWorkspace.artifact.path ≠
        emptyWorkspace.files.spelled plainOptions.outFile ∧
      ∃ after text,
        plainOptions.execute Programs.none (some (leavingBuilder addDocument)) emptyWorkspace =
            .ok ⟨some .succeeded, some plainOptions.outFile⟩ after ∧
          Renders plainOptions (leftWorkspace addDocument).files ["bindings.json"] text ∧
          Holds after.files ["bindings", "bindings.ts"] text ∧
          after.files.contains "bindings.json" = false := by
  have output : emptyWorkspace.files.spelled plainOptions.outFile =
      ["bindings"] ++ [outFileName] := by decide
  have artifact : emptyWorkspace.files.spelled emptyWorkspace.artifact.path =
      ["bindings.json"] := by decide
  have named : emptyWorkspace.artifact.path = "bindings.json" := by decide
  have spares : ∀ known ∈ some (leavingBuilder addDocument),
      known.Spares (emptyWorkspace.files.spelled plainOptions.outFile) := by
    rintro known ⟨⟩
    rw [output]
    exact spares_leavingBuilder addDocument ["bindings"]
  have apart : emptyWorkspace.files.spelled emptyWorkspace.artifact.path ≠
      emptyWorkspace.files.spelled plainOptions.outFile :=
    spelled_ofDirectory_ne_outFile plainOptions emptyWorkspace.files "" none
  obtain ⟨after, run⟩ := exists_execute_emptyWorkspace
  have changes : Output plainOptions (some (leavingBuilder addDocument)) emptyWorkspace
      (plainOptions.execute Programs.none (some (leavingBuilder addDocument)) emptyWorkspace) :=
    output_changes_only_to_current_module rfl spares apart
  rw [run] at changes
  cases changes with
  | @reported build built after text left proceeds unused renders holds gone =>
      rw [runBuild_emptyWorkspace] at left
      cases left
      rw [artifact] at renders
      rw [output] at holds
      rw [named] at gone
      exact ⟨rfl, spares, apart, after, text, run, renders, holds, gone⟩

end GenerateOptions
end ForeignBindings
