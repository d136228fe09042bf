import ForeignBindings.Command.Build
import ForeignBindings.Command.Error
import ForeignBindings.Glue.CommandFormatter

/-!
# The generate command

Builds the library, if a builder is given, and then generates the bindings from whatever metadata
is present.  A remote location marks a trusted release: its metadata is neither discarded before the
build nor distrusted after a build that failed.
-/

namespace ForeignBindings

/-- What the generate command is asked to do. -/
structure GenerateOptions where
  /-- How the library is built. -/
  profile : Profile
  /-- Where the library is loaded from. -/
  location : LibraryLocation
  /-- The directory that the bindings are written to. -/
  outDirectory : String
  /-- Whether the library is loaded by an exported function. -/
  lazyInit : Bool
  /-- Whether the library is built first. -/
  build : Bool
  /-- Which program formats the module. -/
  formatter : FormatterChoice
  /-- Further arguments of the build. -/
  extraArguments : List String
  deriving DecidableEq, Repr

/-- What the generate command has done. -/
structure GenerateReport where
  /-- How the build has ended, if there was one. -/
  build : Option BuildOutcome
  /-- The file that was written, if any. -/
  written : Option String
  deriving DecidableEq, Repr

/-- The exit code to pass on. -/
def GenerateReport.exitCode (report : GenerateReport) : Nat :=
  (report.build.map BuildOutcome.exitCode).getD 0

namespace GenerateOptions

/-- The name of the generated file. -/
def outFileName : String := "bindings.ts"

/-- The generated file. -/
def outFile (options : GenerateOptions) : String :=
  Path.join options.outDirectory outFileName

/-- Whether metadata counts that the build did not vouch for. -/
def trusted (options : GenerateOptions) : Bool :=
  options.location.isRemote

/-- The arguments of the build. -/
def buildArguments (options : GenerateOptions) : List String :=
  ForeignBindings.buildArguments (options.profile == .release) options.extraArguments

/-- How metadata becomes the text of the module. -/
def generation (options : GenerateOptions) (programs : Programs) :
    GenerationOptions FormatError :=
  { profile := options.profile
    location := options.location
    config := { Glue.Config.default with lazyInit := options.lazyInit }
    formatter := options.formatter.formatter?.map fun formatter => formatter.format programs }

/-- A change of the files as a step of the command. -/
def onFiles {α : Type} (fault : FileError → CommandError) (change : EStateM FileError FileTree α) :
    EStateM CommandError Workspace α := fun workspace =>
  match change workspace.files with
  | .ok value files => .ok value { workspace with files }
  | .error cause files => .error (fault cause) { workspace with files }

/-- A use of the artifact as a step of the command. -/
def onArtifact {α : Type} (use : EStateM ArtifactError Workspace α) :
    EStateM CommandError Workspace α :=
  EStateM.adaptExcept (fun cause => .generation (.artifact cause)) use

/-- Runs the build.  What an earlier build left behind goes first, unless it is trusted. -/
def runBuild (options : GenerateOptions) (builder : Builder) :
    EStateM CommandError Workspace BuildOutcome := do
  unless options.trusted do
    let _ ← onArtifact Workspace.discard
  onFiles (.buildNotRun builder.program) (builder.run options.buildArguments)

/-- Whether a build has failed in a way that leaves the bindings as they are. -/
def stopsAfter (options : GenerateOptions) : Option BuildOutcome → Bool
  | some (.failed _) => !options.trusted
  | _ => false

/-- Writes the text of the module. -/
def writeModule (options : GenerateOptions) (text : String) : EStateM CommandError Workspace Unit :=
  onFiles (.notWritten options.outFile) fun files =>
    match files.writeFile options.outFile (Text.utf8 text) with
    | .ok written => .ok () written
    | .error cause => .error cause files

/-- Generates the bindings after a build that has ended as given. -/
def writeBindings (options : GenerateOptions) (programs : Programs)
    (build : Option BuildOutcome) : EStateM CommandError Workspace GenerateReport := do
  onFiles (.notWritten options.outDirectory) (FileTree.createDirectories options.outDirectory)
  match ← EStateM.adaptExcept .generation (Workspace.generate (options.generation programs)) with
  | .unchanged => return ⟨build, none⟩
  | .emitted text =>
      options.writeModule text
      return ⟨build, some options.outFile⟩

/-- Runs the command. -/
def execute (options : GenerateOptions) (programs : Programs) (builder : Option Builder) :
    EStateM CommandError Workspace GenerateReport := do
  let build ← builder.mapM options.runBuild
  if options.stopsAfter build then return ⟨build, none⟩
  options.writeBindings programs build

end GenerateOptions
end ForeignBindings
