import ForeignBindings.Files.Tree
import ForeignBindings.Metadata.Reader

/-!
# Metadata artifacts

The file through which a native build hands over metadata.  It serves once: a handle that has
deleted the file stays consumed, whatever happens to the path afterwards.  A missing file means that
there is nothing to do.
-/

namespace ForeignBindings

/-- What a handle knows about its artifact. -/
inductive ArtifactState where
  | missing
  | present
  | consumed
  deriving DecidableEq, Repr

/-- The name of a state. -/
def ArtifactState.name : ArtifactState → String
  | .missing => "missing"
  | .present => "present"
  | .consumed => "consumed"

/-- Why an artifact cannot be used. -/
inductive ArtifactError where
  | inaccessible (path : String) (cause : FileError)
  | invalid (fault : Json.Fault)
  deriving DecidableEq, Repr

/-- The wording of a cause. -/
def ArtifactError.message : ArtifactError → String
  | .inaccessible path cause =>
      "cannot access metadata artifact " ++ path ++ ": " ++ cause.message
  | .invalid fault => "invalid metadata: " ++ fault.message

/-- A handle on an artifact. -/
structure Artifact where
  /-- Where the file is expected. -/
  path : String
  /-- Whether this handle has deleted the file. -/
  consumed : Bool := false
  deriving DecidableEq, Repr

namespace Artifact

/-- The name of the file. -/
def fileName : String := "bindings.json"

/-- The environment variable that names another directory for the file. -/
def directoryVariable : String := "FFIGLUE_METADATA_DIR"

/-- The handle for a build that runs in a directory, unless another directory is given. -/
def ofDirectory (workingDirectory : String) (given : Option String) : Artifact :=
  { path := Path.join (given.getD workingDirectory) fileName }

/-- What a handle knows about its artifact. -/
def state (artifact : Artifact) (files : FileTree) : ArtifactState :=
  if artifact.consumed then .consumed
  else if files.isFile artifact.path then .present
  else .missing

/-- The metadata of a present artifact. -/
def read (artifact : Artifact) (files : FileTree) : Except ArtifactError (Option Metadata) :=
  match artifact.state files with
  | .present =>
      match files.readText artifact.path with
      | .error cause => .error (.inaccessible artifact.path cause)
      | .ok text =>
          match Metadata.read text with
          | .error fault => .error (.invalid fault)
          | .ok metadata => .ok (some metadata)
  | _ => .ok none

end Artifact

/-- The files and the handle that a run works on. -/
structure Workspace where
  /-- The files. -/
  files : FileTree
  /-- The handle. -/
  artifact : Artifact
  deriving DecidableEq, Repr

namespace Workspace

/-- What the handle knows about its artifact. -/
def state (workspace : Workspace) : ArtifactState :=
  workspace.artifact.state workspace.files

/-- Deletes a present artifact for good; in any other state nothing is done. -/
def consume : EStateM ArtifactError Workspace ArtifactState := fun workspace =>
  match workspace.state with
  | .present =>
      match workspace.files.removeFile workspace.artifact.path with
      | .ok files => .ok .consumed ⟨files, { workspace.artifact with consumed := true }⟩
      | .error cause => .error (.inaccessible workspace.artifact.path cause) workspace
  | state => .ok state workspace

/-- Deletes what an earlier build left behind and tells whether there was anything. -/
def discard : EStateM ArtifactError Workspace Bool := fun workspace =>
  match workspace.files.removeFile workspace.artifact.path with
  | .ok files => .ok true { workspace with files }
  | .error .notFound => .ok false workspace
  | .error cause => .error (.inaccessible workspace.artifact.path cause) workspace

end Workspace
end ForeignBindings
