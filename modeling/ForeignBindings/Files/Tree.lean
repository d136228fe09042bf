import ForeignBindings.Files.Error
import ForeignBindings.Files.Path
import ForeignBindings.Text.Utf8

/-!
# File trees

Files, directories and devices by place.  A place is the list of names that leads to it from the
root, so every path that names the same file resolves to the same place.  There are no links.  A change that
fails leaves every file as it was; only creating a chain of directories can fail half-way.
-/

namespace ForeignBindings

/-- A file. -/
structure FileEntry where
  /-- The bytes of the file. -/
  content : List UInt8
  /-- Whether the content can be read. -/
  readable : Bool := true
  /-- Whether the content can be replaced. -/
  writable : Bool := true
  /-- Whether the file can be removed. -/
  removable : Bool := true
  /-- Whether the file is a program. -/
  executable : Bool := false
  deriving DecidableEq, Repr

/-- What stands at a place without being a file or a directory. -/
inductive Device where
  /-- Takes everything and holds nothing. -/
  | sink
  /-- Takes nothing. -/
  | full
  /-- Gives zero bytes without end. -/
  | zeros
  /-- What the program reads. -/
  | input
  /-- What the program prints. -/
  | output
  /-- What the program prints apart from its output. -/
  | errors
  /-- The terminal, which a program need not have. -/
  | terminal
  deriving DecidableEq, Repr

/-- What stands at a place. -/
inductive FileNode where
  | file (entry : FileEntry)
  | directory
  | device (device : Device)
  deriving DecidableEq, Repr

/-- The names that lead to a file or a directory from the root. -/
abbrev Place := List String

/-- Files and directories with the directory that relative paths start from. -/
structure FileTree where
  /-- The places below the root that are taken, the latest entry of a place first. -/
  nodes : List (Place × FileNode)
  /-- Where relative paths start. -/
  workingDirectory : Place
  deriving DecidableEq, Repr

namespace FileTree

/-- What stands at a place; the root is always a directory. -/
def node? (tree : FileTree) : Place → Option FileNode
  | [] => some .directory
  | place => tree.nodes.lookup place

/-- Puts a file or a directory at a place. -/
def insert (tree : FileTree) (place : Place) (node : FileNode) : FileTree :=
  { tree with nodes := (place, node) :: tree.nodes.filter (·.1 != place) }

/-- Empties a place. -/
def erase (tree : FileTree) (place : Place) : FileTree :=
  { tree with nodes := tree.nodes.filter (·.1 != place) }

private theorem lookup_filter_of_ne {nodes : List (Place × FileNode)} {place other : Place}
    (different : other ≠ place) :
    (nodes.filter (·.1 != place)).lookup other = nodes.lookup other := by
  induction nodes with
  | nil => rfl
  | cons entry rest induction =>
      obtain ⟨key, node⟩ := entry
      by_cases same : key = place
      · subst same
        simp [List.lookup_cons, induction, beq_eq_false_iff_ne.mpr different]
      · by_cases found : other = key
        · subst found
          simp [same]
        · simp [same, List.lookup_cons, induction]

private theorem lookup_filter_self (nodes : List (Place × FileNode)) (place : Place) :
    (nodes.filter (·.1 != place)).lookup place = none := by
  induction nodes with
  | nil => rfl
  | cons entry rest induction =>
      obtain ⟨key, node⟩ := entry
      by_cases same : key = place
      · simp [same, induction]
      · simp [same, List.lookup_cons, induction, beq_eq_false_iff_ne.mpr (Ne.symm same)]

@[simp]
theorem node?_root (tree : FileTree) : tree.node? [] = some .directory := rfl

theorem node?_insert_self (tree : FileTree) {place : Place} (below : place ≠ [])
    (node : FileNode) : (tree.insert place node).node? place = some node := by
  cases place with
  | nil => exact absurd rfl below
  | cons name rest => simp [node?, insert]

theorem node?_insert_of_ne (tree : FileTree) {place other : Place} (different : other ≠ place)
    (node : FileNode) : (tree.insert place node).node? other = tree.node? other := by
  cases other with
  | nil => rfl
  | cons name rest =>
      simp only [node?, insert, List.lookup_cons, beq_eq_false_iff_ne.mpr different]
      exact lookup_filter_of_ne different

theorem node?_erase_self (tree : FileTree) {place : Place} (below : place ≠ []) :
    (tree.erase place).node? place = none := by
  cases place with
  | nil => exact absurd rfl below
  | cons name rest => exact lookup_filter_self tree.nodes (name :: rest)

theorem node?_erase_of_ne (tree : FileTree) {place other : Place} (different : other ≠ place) :
    (tree.erase place).node? other = tree.node? other := by
  cases other with
  | nil => rfl
  | cons name rest => exact lookup_filter_of_ne different

/-- The place that a step from a place leads to. -/
def enter (place : Place) : String → Place
  | "." => place
  | ".." => place.dropLast
  | name => place ++ [name]

/-- Follows steps from a place.  Each step has to start in a directory, so that `..` leads back to
a directory that exists, but the last one may lead to a place that is free. -/
def walk (tree : FileTree) (place : Place) : List String → Except FileError Place
  | [] => .ok place
  | step :: steps =>
      match tree.node? place with
      | some .directory =>
          if Path.exceedsName step then .error .nameTooLong
          else tree.walk (enter place step) steps
      | some _ => .error .notDirectory
      | none => .error .notFound

/-- The place where the steps of a path start. -/
def start (tree : FileTree) (path : String) : Place :=
  if Path.isRooted path then [] else tree.workingDirectory

/-- The place that a path leads to. -/
def resolve (tree : FileTree) (path : String) : Except FileError Place :=
  if path.isEmpty then .error .notFound
  else if Path.exceedsPath path then .error .nameTooLong
  else tree.walk (tree.start path) (Path.steps path)

/-- The place of a path and what stands there; only a directory is an answer for a path that ends
in a slash. -/
def find (tree : FileTree) (path : String) : Except FileError (Place × FileNode) := do
  let place ← tree.resolve path
  match tree.node? place with
  | none => .error .notFound
  | some .directory => .ok (place, .directory)
  | some node => if Path.endsInSlash path then .error .notDirectory else .ok (place, node)

/-- The file that a path leads to. -/
def file (tree : FileTree) (path : String) : Except FileError (Place × FileEntry) := do
  match ← tree.find path with
  | (place, .file entry) => .ok (place, entry)
  | (_, .directory) => .error .isDirectory
  | (_, .device _) => .error .permissionDenied

/-- Whether a path leads to a file. -/
def isFile (tree : FileTree) (path : String) : Bool :=
  (tree.file path).isOk

/-- Whether a path leads to a directory. -/
def isDirectory (tree : FileTree) (path : String) : Bool :=
  match tree.find path with
  | .ok (_, .directory) => true
  | _ => false

/-- The device that a path leads to. -/
def device? (tree : FileTree) (path : String) : Option Device :=
  match tree.find path with
  | .ok (_, .device device) => some device
  | _ => none

/-- Whether a path leads to anything. -/
def contains (tree : FileTree) (path : String) : Bool :=
  (tree.find path).isOk

/-- The bytes of the file that a path leads to. -/
def readBytes (tree : FileTree) (path : String) : Except FileError (List UInt8) := do
  let (_, entry) ← tree.file path
  if entry.readable then .ok entry.content else .error .permissionDenied

/-- The text of the file that a path leads to. -/
def readText (tree : FileTree) (path : String) : Except FileError String := do
  let bytes ← tree.readBytes path
  match Text.ofUtf8? bytes with
  | some text => .ok text
  | none => .error .invalidUtf8

/-- Removes the file that a path leads to. -/
def removeFile (tree : FileTree) (path : String) : Except FileError FileTree := do
  let (place, entry) ← tree.file path
  if entry.removable then .ok (tree.erase place) else .error .permissionDenied

/-- What writing to a device changes in the tree: nothing, if the device takes it. -/
def writeDevice (tree : FileTree) : Device → Except FileError FileTree
  | .full => .error .noSpace
  | .terminal => .error .noDevice
  | _ => .ok tree

/-- Replaces the content of the file that a path leads to, or makes a file there. -/
def writeFile (tree : FileTree) (path : String) (content : List UInt8) :
    Except FileError FileTree := do
  let place ← tree.resolve path
  if Path.endsInSlash path then .error .isDirectory
  else
    match tree.node? place with
    | some .directory => .error .isDirectory
    | some (.file entry) =>
        if entry.writable then .ok (tree.insert place (.file { entry with content }))
        else .error .permissionDenied
    | some (.device device) => tree.writeDevice device
    | none => .ok (tree.insert place (.file { content }))

/-- Makes a directory at the end of steps from a place. -/
def createDirectory (tree : FileTree) (start : Place) (steps : List String) :
    Except FileError FileTree := do
  let place ← tree.walk start steps
  match tree.node? place with
  | some _ => .error .alreadyExists
  | none => .ok (tree.insert place .directory)

/-- Whether steps from a place lead to a directory. -/
def leadsToDirectory (tree : FileTree) (start : Place) (steps : List String) : Bool :=
  match tree.walk start steps with
  | .ok place => tree.node? place == some .directory
  | .error _ => false

/-- Makes a directory that may exist already. -/
def ensureDirectory (start : Place) (steps : List String) : EStateM FileError FileTree Unit :=
  fun tree =>
    match tree.createDirectory start steps with
    | .ok created => .ok () created
    | .error cause =>
        if tree.leadsToDirectory start steps then .ok () tree else .error cause tree

/-- Makes a directory, given the steps to it and to the directories above it, the nearest first.
The directories above are made only as far as they are missing. -/
def ensureChain (start : Place) : List (List String) → EStateM FileError FileTree Unit
  | [] => return
  | steps :: above => fun tree =>
      match ensureDirectory start steps tree with
      | .error .notFound unchanged =>
          match ensureChain start above unchanged with
          | .ok () prepared => ensureDirectory start steps prepared
          | .error cause unfinished => .error cause unfinished
      | result => result

/-- The steps to the directories above the end of steps, the nearest first. -/
def stepsAbove (steps : List String) : List (List String) :=
  let named := steps.filter (· != ".")
  (List.range named.length).reverse.map named.take

/-- Makes the directory of a path and every directory above it that is missing. -/
def createDirectories (path : String) : EStateM FileError FileTree Unit := fun tree =>
  if Path.exceedsPath path then .error .nameTooLong tree
  else
    let steps := Path.steps path
    ensureChain (tree.start path) (steps :: stepsAbove steps) tree

/-- The files below the working directory by their relative paths. -/
def filesBelow (tree : FileTree) : List (String × List UInt8) :=
  tree.nodes.filterMap fun entry =>
    match entry.2 with
    | .directory | .device _ => none
    | .file file =>
        if tree.workingDirectory.isPrefixOf entry.1 then
          some ("/".intercalate (entry.1.drop tree.workingDirectory.length), file.content)
        else none

end FileTree
end ForeignBindings
