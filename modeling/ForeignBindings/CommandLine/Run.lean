import ForeignBindings.CommandLine.Invocation
import ForeignBindings.CommandLine.Usage

/-!
# Runs

A whole run of the program: from the words of the command line and the files to what is printed, the
exit code and the files afterwards.
-/

namespace ForeignBindings
namespace CommandLine

/-- What a run finds around it. -/
structure Environment where
  /-- The path of the working directory. -/
  workingDirectory : String
  /-- The directory of the artifact, if it is not the working directory. -/
  metadataDirectory : Option String
  /-- The programs that can be run. -/
  programs : Programs
  /-- The program that builds the library. -/
  builder : Builder

/-- What a run shows. -/
structure Outcome where
  /-- The exit code. -/
  exitCode : Nat
  /-- What is printed. -/
  output : String
  /-- What is printed to the error output. -/
  complaint : String
  deriving DecidableEq, Repr

namespace Outcome

/-- A run that has printed a text and nothing else. -/
def printed (text : String) : Outcome := ⟨0, text, ""⟩

/-- A run that has failed for a reason. -/
def failed (reason : String) : Outcome := ⟨1, "", "error: " ++ reason ++ "\n"⟩

/-- A run whose command line asks for nothing that can be run. -/
def rejected (fault : Fault) : Outcome :=
  match fault with
  | .help => .printed usage
  | .nothingGiven => ⟨fault.exitCode, "", usage⟩
  | _ => ⟨fault.exitCode, "", "error: " ++ fault.message ++ "\n"⟩

end Outcome

/-- Runs a command. -/
def Command.run (environment : Environment) (files : FileTree) : Command → Outcome × FileTree
  | .generate options =>
      let artifact :=
        Artifact.ofDirectory environment.workingDirectory environment.metadataDirectory
      let builder := if options.build then some environment.builder else none
      match options.execute environment.programs builder ⟨files, artifact⟩ with
      | .ok report workspace => (⟨report.exitCode, "", ""⟩, workspace.files)
      | .error cause workspace => (.failed cause.message, workspace.files)
  | .emit options =>
      match options.execute files with
      | .ok text written => (.printed text, written)
      | .error cause unchanged => (.failed cause.message, unchanged)
  | .locate options => (.printed options.text, files)

/-- Runs a command line. -/
def run (environment : Environment) (words : List String) (files : FileTree) :
    Outcome × FileTree :=
  match parse words with
  | .error fault => (.rejected fault, files)
  | .ok invocation => invocation.command.run environment files

end CommandLine
end ForeignBindings
