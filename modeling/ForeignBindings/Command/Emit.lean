import ForeignBindings.Command.Error

/-!
# The emit command

Renders a metadata file, which is read and never consumed.
-/

namespace ForeignBindings

/-- What the emit command is asked to do. -/
structure EmitOptions where
  /-- The metadata file. -/
  metadata : String
  /-- How the library was built. -/
  profile : Profile
  /-- Where the library is loaded from. -/
  location : LibraryLocation
  /-- The file to write, if not the standard output. -/
  output : Option String
  /-- Whether the library is loaded by an exported function. -/
  lazyInit : Bool
  deriving DecidableEq, Repr

namespace EmitOptions

/-- The text of the module that the metadata file describes. -/
def render (options : EmitOptions) (files : FileTree) : Except CommandError String :=
  match Artifact.read { path := options.metadata } files with
  | .error cause => .error (.generation (.artifact cause))
  | .ok none => .error (.missingMetadata options.metadata)
  | .ok (some metadata) =>
      let generation : GenerationOptions Unit :=
        { profile := options.profile
          location := options.location
          config := { Glue.Config.default with lazyInit := options.lazyInit }
          formatter := none }
      match metadata.moduleText generation with
      | .error cause => .error (.generation (.glue cause))
      | .ok text => .ok text

/-- Renders the metadata file and writes the text to a file, or gives it to be printed, also if
the file is the output of the program. -/
def execute (options : EmitOptions) : EStateM CommandError FileTree String := fun files =>
  match options.render files with
  | .error cause => .error cause files
  | .ok text =>
      match options.output with
      | none => .ok text files
      | some path =>
          match files.writeFile path (Text.utf8 text) with
          | .ok written =>
              .ok (if files.device? path = some .output then text else "") written
          | .error cause => .error (.notWritten path cause) files

end EmitOptions
end ForeignBindings
