import ForeignBindings.CommandLine.Run
import ForeignBindings.Files.Standard

/-!
# The program

The outer layer: the files that a command line can touch are read into a tree, the run is computed,
and what has changed is written back.  No other program is started, so a build or a formatter counts
as missing.
-/

namespace ForeignBindings
namespace CommandLine

/-- The paths that an invocation can touch. -/
def touchedPaths (environment : Environment) (invocation : Invocation) : List String :=
  match invocation.command with
  | .generate options =>
      [(Artifact.ofDirectory environment.workingDirectory environment.metadataDirectory).path,
        options.outFile]
  | .emit options => options.metadata :: options.output.toList
  | .locate _ => []

/-- The absolute path of a place. -/
def placePath (place : Place) : String := "/" ++ "/".intercalate place

/-- Reads what stands at a place whose directory exists. -/
def readNode? (place : Place) : IO (Option FileNode) := do
  try
    let bytes ← IO.FS.readBinFile (placePath place)
    return some (.file { content := bytes.data.toList })
  catch
    | .noFileOrDirectory .. => return none
    | .permissionDenied .. => return some (.file ⟨[], false, false, false, false⟩)
    | _ => return some .directory

/-- Reads what stands at a place into a tree. -/
def readPlace (files : FileTree) (place : Place) : IO FileTree := do
  if (files.node? place).isSome then return files
  match ← readNode? place with
  | some node => return files.insert place node
  | none => return files

/-- Reads everything along the steps from a place into a tree, as far as directories lead. -/
def readAlong (files : FileTree) (place : Place) : List String → IO FileTree
  | [] => readPlace files place
  | step :: steps => do
      let files ← readPlace files place
      if files.node? place = some .directory then
        readAlong files (FileTree.enter place step) steps
      else return files

/-- Reads everything along a path into a tree. -/
def readPath (files : FileTree) (path : String) : IO FileTree :=
  readAlong files (files.start path) (Path.steps path)

/-- Makes what stands at a place of a tree anew if it was not the same before. -/
def writeNode (before : FileTree) (place : Place) (node : FileNode) : IO Unit := do
  if before.node? place = some node then return
  match node with
  | .directory => IO.FS.createDir (placePath place)
  | .file entry => IO.FS.writeBinFile (placePath place) ⟨entry.content.toArray⟩
  | .device _ => return

/-- Writes the changes between two trees; directories come before what they hold. -/
def writeChanges (before after : FileTree) : IO Unit := do
  for (place, _) in before.nodes do
    if (after.node? place).isNone then IO.FS.removeFile (placePath place)
  for (place, node) in after.nodes.reverse do
    writeNode before place node

/-- The tree of the files that a command line can touch. -/
def readFiles (environment : Environment) (words : List String) : IO FileTree := do
  let place := Path.steps environment.workingDirectory
  let devices := FileTree.standardDevices.map fun entry => (entry.1, FileNode.device entry.2)
  let files ← readAlong ⟨devices, place⟩ [] place
  match parse words with
  | .error _ => return files
  | .ok invocation => (touchedPaths environment invocation).foldlM readPath files

/-- Runs a command line on the files of the system. -/
def runOnSystem (environment : Environment) (words : List String) : IO Outcome := do
  let files ← readFiles environment words
  let (outcome, after) := run environment words files
  writeChanges files after
  return outcome

/-- What a run finds around it on the system. -/
def systemEnvironment : IO Environment := do
  let workingDirectory ← IO.currentDir
  let metadataDirectory ← IO.getEnv Artifact.directoryVariable
  return {
    workingDirectory := toString workingDirectory
    metadataDirectory
    programs := Programs.none
    builder := ⟨"cargo", fun _ files => .error .notFound files⟩ }

/-- Runs a command line on the system; what the system refuses is a failure of the run. -/
def runAndReport (words : List String) : IO Outcome := do
  try
    runOnSystem (← systemEnvironment) words
  catch cause =>
    return .failed (toString cause)

end CommandLine
end ForeignBindings

open ForeignBindings in
/-- The entry point. -/
def main (words : List String) : IO UInt32 := do
  let outcome ← CommandLine.runAndReport words
  IO.print outcome.output
  IO.eprint outcome.complaint
  return outcome.exitCode.toUInt32
