import ForeignBindings.Artifact
import ForeignBindings.Glue.Emission
import ForeignBindings.Metadata.Conversion

/-!
# Generation passes

A pass turns the metadata of an artifact into the text of a module and then deletes the artifact.
The artifact goes only when the text exists, so a pass that fails can be repeated.
-/

namespace ForeignBindings

/-- Why no text is generated. -/
inductive GenerationError where
  | artifact (cause : ArtifactError)
  | glue (cause : GlueError)
  deriving DecidableEq, Repr

/-- The wording of a cause. -/
def GenerationError.message : GenerationError → String
  | .artifact cause => cause.message
  | .glue cause => cause.message

/-- What a pass has produced. -/
inductive Generation where
  /-- No metadata was waiting. -/
  | unchanged
  | emitted (text : String)
  deriving DecidableEq, Repr

/-- The text of a pass, if there is one. -/
def Generation.text? : Generation → Option String
  | .unchanged => none
  | .emitted text => some text

/-- How metadata becomes the text of a module. -/
structure GenerationOptions (ε : Type) where
  /-- How the library was built. -/
  profile : Profile
  /-- Where the library is loaded from. -/
  location : LibraryLocation
  /-- How the module is emitted. -/
  config : Glue.Config
  /-- What formats the text, if anything does. -/
  formatter : Option (Glue.Formatter ε)

/-- The text of the module that metadata describes. -/
def Metadata.moduleText {ε : Type} (metadata : Metadata) (options : GenerationOptions ε) :
    Except GlueError String :=
  match metadata.toModule options.profile options.location with
  | .error cause => .error (.invalidModule cause)
  | .ok module => Glue.generate module options.config options.formatter

namespace Workspace

/-- One generation pass. -/
def generate {ε : Type} (options : GenerationOptions ε) :
    EStateM GenerationError Workspace Generation := fun workspace =>
  match workspace.artifact.read workspace.files with
  | .error cause => .error (.artifact cause) workspace
  | .ok none => .ok .unchanged workspace
  | .ok (some metadata) =>
      match metadata.moduleText options with
      | .error cause => .error (.glue cause) workspace
      | .ok text =>
          match consume workspace with
          | .error cause unchanged => .error (.artifact cause) unchanged
          | .ok _ consumed => .ok (.emitted text) consumed

end Workspace
end ForeignBindings
