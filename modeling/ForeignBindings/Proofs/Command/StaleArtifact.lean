import ForeignBindings.Proofs.Command.Output
import ForeignBindings.Proofs.Files.Agreement

/-!
# What an earlier build left behind

Unless its location is trusted, a run with a build discards the artifact before the build.  From
there on, runs that started with different artifacts cannot be told apart: they end with the same
report or the same error and leave the same files.  Only an artifact that the system does not let go
makes a difference, because then there is no build.
-/

namespace ForeignBindings

namespace Workspace

/-- Whether two workspaces hold the same files and the same handle. -/
structure Same (first second : Workspace) : Prop where
  /-- The files are the same. -/
  files : FileTree.Same first.files second.files
  /-- The handle is the same. -/
  artifact : second.artifact = first.artifact

variable {first second : Workspace}

theorem Same.read (same : Same first second) :
    second.artifact.read second.files = first.artifact.read first.files := by
  simp only [Artifact.read, Artifact.state, same.artifact, same.files.isFile, same.files.readText]

theorem Same.state (same : Same first second) : second.state = first.state := by
  simp only [Workspace.state, Artifact.state, same.artifact, same.files.isFile]

theorem respects_consume : Respects Same consume := by
  intro first second same
  rw [consume, consume, same.state, same.artifact]
  split
  · have removed := same.files.removeFile first.artifact.path
    generalize first.files.removeFile first.artifact.path = left at removed ⊢
    generalize second.files.removeFile first.artifact.path = right at removed ⊢
    cases removed with
    | ok files => exact .ok ⟨files, rfl⟩
    | error cause => exact .error same
  · exact .ok same

theorem respects_discard : Respects Same discard := by
  intro first second same
  rw [discard, discard, same.artifact]
  have removed := same.files.removeFile first.artifact.path
  generalize first.files.removeFile first.artifact.path = left at removed ⊢
  generalize second.files.removeFile first.artifact.path = right at removed ⊢
  cases removed with
  | ok files => exact .ok ⟨files, rfl⟩
  | error cause => cases cause <;> first | exact .ok same | exact .error same

theorem respects_generate {ε : Type} (options : GenerationOptions ε) :
    Respects Same (generate options) := by
  intro first second same
  rw [generate, generate, same.read]
  split
  · exact .error same
  · exact .ok same
  · split
    · exact .error same
    · have consumed := respects_consume same
      generalize consume first = left at consumed ⊢
      generalize consume second = right at consumed ⊢
      cases consumed with
      | ok states => exact .ok states
      | error states => exact .error states

end Workspace

/-- Whether what a builder does depends on the files only.  It may look at every file, and at what
it finds in the place of the artifact. -/
def Builder.SeesFilesOnly (builder : Builder) : Prop :=
  ∀ arguments, Respects FileTree.Same (builder.run arguments)

namespace GenerateOptions

variable {options : GenerateOptions} {programs : Programs} {builder : Builder}

theorem respects_onFiles {α : Type} {change : EStateM FileError FileTree α}
    (respects : Respects FileTree.Same change) (fault : FileError → CommandError) :
    Respects Workspace.Same (onFiles fault change) := by
  intro first second same
  have changed := respects same.files
  simp only [onFiles]
  generalize change first.files = left at changed ⊢
  generalize change second.files = right at changed ⊢
  cases changed with
  | ok files => exact .ok ⟨files, same.artifact⟩
  | error files => exact .error ⟨files, same.artifact⟩

theorem respects_writeModule (options : GenerateOptions) (text : String) :
    Respects Workspace.Same (options.writeModule text) :=
  respects_onFiles (FileTree.respects_writeFile () options.outFile (Text.utf8 text)) _

theorem respects_writeBindings (options : GenerateOptions) (programs : Programs)
    (build : Option BuildOutcome) :
    Respects Workspace.Same (options.writeBindings programs build) := by
  refine respects_bind ?_ fun _ => respects_bind ?_ fun generation => ?_
  · exact respects_onFiles (FileTree.respects_createDirectories _) _
  · exact respects_adaptExcept _ (Workspace.respects_generate _)
  · cases generation with
    | unchanged => exact respects_pure _
    | emitted text => exact respects_bind (respects_writeModule options text) fun _ => respects_pure _

/-- What a run with a build does once the artifact is discarded. -/
def buildAndWrite (options : GenerateOptions) (programs : Programs) (builder : Builder) :
    EStateM CommandError Workspace GenerateReport := do
  let outcome ← onFiles (.buildNotRun builder.program) (builder.run options.buildArguments)
  if options.stopsAfter (some outcome) then return ⟨some outcome, none⟩
  options.writeBindings programs (some outcome)

theorem respects_buildAndWrite (sees : builder.SeesFilesOnly) :
    Respects Workspace.Same (options.buildAndWrite programs builder) := by
  refine respects_bind (respects_onFiles (sees _) _) fun outcome => ?_
  split
  · exact respects_pure _
  · exact respects_writeBindings options programs _

/-- An untrusted run with a build discards the artifact first. -/
theorem execute_of_untrusted (untrusted : options.trusted = false) (programs : Programs)
    (builder : Builder) :
    options.execute programs (some builder) =
      onArtifact Workspace.discard >>= fun _ => options.buildAndWrite programs builder := by
  have discards : options.runBuild builder =
      onArtifact Workspace.discard >>= fun _ =>
        onFiles (.buildNotRun builder.program) (builder.run options.buildArguments) := by
    rw [runBuild, untrusted]
    rfl
  funext before
  simp only [execute, Option.mapM_some, discards, buildAndWrite, Functor.map, EStateM.map, bind,
    EStateM.bind]
  cases onArtifact Workspace.discard before with
  | error cause after => rfl
  | ok removed after =>
      simp only
      cases onFiles (.buildNotRun builder.program) (builder.run options.buildArguments) after with
      | error cause after => rfl
      | ok outcome after => rfl

end GenerateOptions

namespace Workspace

/-- Where the artifact of a workspace stands, if there is one. -/
def artifactPlace (workspace : Workspace) : Place :=
  workspace.files.spelled workspace.artifact.path

/-- Whether the artifact of a workspace is a file, or nothing stands in its place. -/
inductive HasFileOrNothing (workspace : Workspace) : Prop
  | nothing (free : workspace.files.node? workspace.artifactPlace = none)
  | file {entry : FileEntry}
      (found : workspace.files.file workspace.artifact.path = .ok (workspace.artifactPlace, entry))

/-- Whether the artifact of a workspace is a file that the system does not let go. -/
def IsProtected (workspace : Workspace) : Prop :=
  ∃ entry, workspace.files.file workspace.artifact.path = .ok (workspace.artifactPlace, entry) ∧
    entry.removable = false

/-- Whether two workspaces differ in their artifacts only. -/
structure SameButArtifact (first second : Workspace) : Prop where
  /-- The handle is the same, whatever its state. -/
  handle : second.artifact = first.artifact
  /-- The files are the same but for the artifact. -/
  files : FileTree.SameApart first.artifactPlace first.files second.files
  /-- The artifact of the first workspace is a file or missing. -/
  first : first.HasFileOrNothing
  /-- The artifact of the second workspace is a file or missing. -/
  second : second.HasFileOrNothing

namespace SameButArtifact

variable {first second : Workspace}

theorem place (alike : SameButArtifact first second) :
    second.artifactPlace = first.artifactPlace := by
  rw [artifactPlace, artifactPlace, alike.handle,
    FileTree.spelled_congr alike.files.workingDirectory]

theorem symm (alike : SameButArtifact first second) : SameButArtifact second first :=
  ⟨alike.handle.symm, alike.place ▸ alike.files.symm, alike.second, alike.first⟩

end SameButArtifact

/-- A protected artifact cannot be discarded, whatever it holds. -/
theorem discard_of_isProtected {workspace : Workspace} (kept : workspace.IsProtected) :
    discard workspace =
      .error (.inaccessible workspace.artifact.path .permissionDenied) workspace := by
  obtain ⟨entry, found, irremovable⟩ := kept
  simp [discard, FileTree.removeFile, found, bind, Except.bind, irremovable]

/-- Whether discarding the artifact of a workspace succeeds and takes nothing else. -/
def Discards (workspace : Workspace) : Prop :=
  ∃ removed files, discard workspace = .ok removed ⟨files, workspace.artifact⟩ ∧
    files.node? workspace.artifactPlace = none ∧
    FileTree.SameApart workspace.artifactPlace workspace.files files

theorem discards_of_file {workspace : Workspace} {entry : FileEntry}
    (found : workspace.files.file workspace.artifact.path = .ok (workspace.artifactPlace, entry))
    (unprotected : ¬workspace.IsProtected) : workspace.Discards := by
  have removable : entry.removable = true :=
    Bool.ne_false_iff.mp fun irremovable => unprotected ⟨entry, found, irremovable⟩
  obtain ⟨-, stands⟩ := FileTree.resolve_of_file found
  refine ⟨true, workspace.files.erase workspace.artifactPlace, ?_, ?_,
    FileTree.sameApart_erase _ _⟩
  · simp [discard, FileTree.removeFile, found, bind, Except.bind, removable]
  · exact FileTree.node?_erase_self _ (FileTree.ne_root_of_file stands)

theorem discards_of_resolve {workspace : Workspace}
    (resolved : workspace.files.resolve workspace.artifact.path = .ok workspace.artifactPlace)
    (free : workspace.files.node? workspace.artifactPlace = none) : workspace.Discards := by
  have missing : workspace.files.removeFile workspace.artifact.path = .error .notFound := by
    simp only [FileTree.removeFile, FileTree.file, FileTree.find, resolved, bind, Except.bind, free]
  exact ⟨false, workspace.files, by simp only [discard, missing], free, rfl, fun _ _ => rfl⟩

/-- The path of an artifact can be followed as well where the artifact is missing. -/
theorem SameButArtifact.discards {first second : Workspace} {entry : FileEntry}
    (alike : SameButArtifact first second)
    (found : first.files.file first.artifact.path = .ok (first.artifactPlace, entry))
    (unprotected : ¬second.IsProtected) : second.Discards := by
  obtain ⟨resolved, stands⟩ := FileTree.resolve_of_file found
  cases alike.second with
  | file found => exact discards_of_file found unprotected
  | nothing free =>
      have plain : first.files.node? first.artifactPlace ≠ some .directory := by
        rw [stands]
        exact nofun
      refine discards_of_resolve ?_ free
      rw [alike.handle, alike.place]
      exact (alike.files.keepsDirectories plain).resolve resolved

theorem SameButArtifact.same_of_discards {first second : Workspace} {left right : FileTree}
    (alike : SameButArtifact first second)
    (left_free : left.node? first.artifactPlace = none)
    (left_apart : FileTree.SameApart first.artifactPlace first.files left)
    (right_free : right.node? second.artifactPlace = none)
    (right_apart : FileTree.SameApart second.artifactPlace second.files right) :
    Same ⟨left, first.artifact⟩ ⟨right, second.artifact⟩ := by
  rw [alike.place] at right_free right_apart
  refine ⟨?_, alike.handle⟩
  exact ((left_apart.symm.trans alike.files).trans right_apart).same
    (right_free.trans left_free.symm)

end Workspace

namespace GenerateOptions

variable {options : GenerateOptions} {programs : Programs} {builder : Builder}
  {first second : Workspace}

theorem execute_of_isProtected (untrusted : options.trusted = false) {workspace : Workspace}
    (kept : workspace.IsProtected) :
    options.execute programs (some builder) workspace =
      .error (.generation (.artifact (.inaccessible workspace.artifact.path .permissionDenied)))
        workspace := by
  simp only [execute_of_untrusted untrusted, bind, EStateM.bind, onArtifact, EStateM.adaptExcept,
    Workspace.discard_of_isProtected kept]

theorem execute_of_discard (untrusted : options.trusted = false) {workspace after : Workspace}
    {removed : Bool} (discarded : Workspace.discard workspace = .ok removed after) :
    options.execute programs (some builder) workspace =
      options.buildAndWrite programs builder after := by
  simp only [execute_of_untrusted untrusted, bind, EStateM.bind, onArtifact, EStateM.adaptExcept,
    discarded]

theorem alike_execute_of_discards (untrusted : options.trusted = false)
    (sees : builder.SeesFilesOnly) (alike : first.SameButArtifact second)
    (first_discards : first.Discards) (second_discards : second.Discards) :
    Alike Workspace.Same (options.execute programs (some builder) first)
      (options.execute programs (some builder) second) := by
  obtain ⟨_, left, left_discarded, left_free, left_apart⟩ := first_discards
  obtain ⟨_, right, right_discarded, right_free, right_apart⟩ := second_discards
  rw [execute_of_discard untrusted left_discarded, execute_of_discard untrusted right_discarded]
  exact respects_buildAndWrite sees
    (alike.same_of_discards left_free left_apart right_free right_apart)

theorem respects_execute (untrusted : options.trusted = false) (sees : builder.SeesFilesOnly) :
    Respects Workspace.Same (options.execute programs (some builder)) := by
  rw [execute_of_untrusted untrusted]
  exact respects_bind (respects_adaptExcept _ Workspace.respects_discard) fun _ =>
    respects_buildAndWrite sees

/-- What an earlier build left behind does not influence an untrusted run with a build, as long as
the system lets it go: whether there was an artifact and whatever it held, the run ends with the same
report or the same error and leaves the same files. -/
theorem execute_ignores_stale_artifact (untrusted : options.trusted = false)
    (sees : builder.SeesFilesOnly) (alike : first.SameButArtifact second)
    (first_unprotected : ¬first.IsProtected) (second_unprotected : ¬second.IsProtected) :
    Alike Workspace.Same (options.execute programs (some builder) first)
      (options.execute programs (some builder) second) := by
  have both (first_discards : first.Discards) (second_discards : second.Discards) :
      Alike Workspace.Same (options.execute programs (some builder) first)
        (options.execute programs (some builder) second) :=
    alike_execute_of_discards untrusted sees alike first_discards second_discards
  cases alike.first with
  | file found =>
      exact both (Workspace.discards_of_file found first_unprotected)
        (alike.discards found second_unprotected)
  | nothing first_free =>
      cases alike.second with
      | file found =>
          exact both (alike.symm.discards found first_unprotected)
            (Workspace.discards_of_file found second_unprotected)
      | nothing second_free =>
          -- Without an artifact on either side the workspaces hold the same from the start.
          rw [alike.place] at second_free
          have files := alike.files.same (second_free.trans first_free.symm)
          exact respects_execute untrusted sees ⟨files, alike.handle⟩

/-- The working directory with nothing in it but a file in the place of the artifact. -/
def occupiedBy (entry : FileEntry) : Workspace where
  files := { nodes := [(["bindings.json"], .file entry)], workingDirectory := [] }
  artifact := .ofDirectory "" none

theorem seesFilesOnly_leavingBuilder (document : String) :
    (leavingBuilder document).SeesFilesOnly := fun _ =>
  FileTree.respects_writeFile BuildOutcome.succeeded Artifact.fileName (Text.utf8 document)

theorem sameButArtifact_emptyWorkspace {entry : FileEntry}
    (found : (occupiedBy entry).files.file (occupiedBy entry).artifact.path =
      .ok (["bindings.json"], entry)) : (occupiedBy entry).SameButArtifact emptyWorkspace := by
  have named : (occupiedBy entry).artifact.path = Artifact.fileName := by
    change (Artifact.ofDirectory "" none).path = Artifact.fileName
    decide
  have place : (occupiedBy entry).artifactPlace = ["bindings.json"] := by
    rw [Workspace.artifactPlace, named, spelled_fileName]
    rfl
  refine ⟨rfl, ⟨rfl, fun other apart => ?_⟩, .file (place ▸ found), .nothing rfl⟩
  exact (FileTree.node?_insert_of_ne emptyWorkspace.files (place ▸ apart) _).symm

/-- A stale document and no artifact at all make no difference. -/
theorem execute_ignores_stale_artifact_leftWorkspace :
    plainOptions.trusted = false ∧ (leavingBuilder addDocument).SeesFilesOnly ∧
      (leftWorkspace "stale").SameButArtifact emptyWorkspace ∧
      ¬(leftWorkspace "stale").IsProtected ∧ ¬emptyWorkspace.IsProtected ∧
      Alike Workspace.Same
        (plainOptions.execute Programs.none (some (leavingBuilder addDocument))
          (leftWorkspace "stale"))
        (plainOptions.execute Programs.none (some (leavingBuilder addDocument)) emptyWorkspace) := by
  have found : (leftWorkspace "stale").files.file (leftWorkspace "stale").artifact.path =
      .ok (["bindings.json"], { content := Text.utf8 "stale" }) := rfl
  have missing : emptyWorkspace.files.file emptyWorkspace.artifact.path = .error .notFound := rfl
  have alike : (leftWorkspace "stale").SameButArtifact emptyWorkspace :=
    sameButArtifact_emptyWorkspace found
  have unprotected : ¬(leftWorkspace "stale").IsProtected := by
    rintro ⟨entry, known, irremovable⟩
    rw [found] at known
    cases known
    cases irremovable
  have absent : ¬emptyWorkspace.IsProtected := by
    rintro ⟨entry, known, -⟩
    rw [missing] at known
    cases known
  have sees := seesFilesOnly_leavingBuilder addDocument
  exact ⟨rfl, sees, alike, unprotected, absent,
    execute_ignores_stale_artifact rfl sees alike unprotected absent⟩

/-- An artifact that the system does not let go stops the run before the build, which takes place
where there is no artifact. -/
theorem protected_artifact_stops_execute :
    plainOptions.trusted = false ∧ (leavingBuilder addDocument).SeesFilesOnly ∧
      (occupiedBy { content := Text.utf8 "stale", removable := false }).SameButArtifact
        emptyWorkspace ∧
      ¬Alike Workspace.Same
        (plainOptions.execute Programs.none (some (leavingBuilder addDocument))
          (occupiedBy { content := Text.utf8 "stale", removable := false }))
        (plainOptions.execute Programs.none (some (leavingBuilder addDocument)) emptyWorkspace) := by
  have kept : (occupiedBy { content := Text.utf8 "stale", removable := false }).IsProtected :=
    ⟨_, rfl, rfl⟩
  refine ⟨rfl, seesFilesOnly_leavingBuilder addDocument, sameButArtifact_emptyWorkspace rfl, ?_⟩
  intro alike
  obtain ⟨after, completed⟩ := exists_execute_emptyWorkspace
  rw [execute_of_isProtected rfl kept, completed] at alike
  cases alike

end GenerateOptions
end ForeignBindings
