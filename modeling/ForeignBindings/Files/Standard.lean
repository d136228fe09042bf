import ForeignBindings.Files.Tree

/-!
# The standard tree

The directories and devices that every system has.
-/

namespace ForeignBindings
namespace FileTree

/-- The directories of every system. -/
def standardDirectories : List Place :=
  [["bin"], ["boot"], ["dev"], ["dev", "fd"], ["dev", "shm"], ["etc"], ["home"], ["lib"], ["media"],
    ["mnt"], ["opt"], ["proc"], ["proc", "self"], ["proc", "self", "fd"], ["root"], ["run"],
    ["sbin"], ["srv"], ["sys"], ["tmp"], ["usr"], ["usr", "bin"], ["usr", "lib"],
    ["usr", "local"], ["usr", "local", "bin"], ["usr", "sbin"], ["usr", "share"], ["var"],
    ["var", "tmp"]]

/-- The devices of every system. -/
def standardDevices : List (Place × Device) :=
  [(["dev", "null"], .sink), (["dev", "full"], .full), (["dev", "zero"], .zeros),
    (["dev", "tty"], .terminal), (["dev", "stdin"], .input), (["dev", "stdout"], .output),
    (["dev", "stderr"], .errors), (["dev", "fd", "0"], .input), (["dev", "fd", "1"], .output),
    (["dev", "fd", "2"], .errors), (["proc", "self", "fd", "0"], .input),
    (["proc", "self", "fd", "1"], .output), (["proc", "self", "fd", "2"], .errors)]

/-- The file that lists the users. -/
def userTable : String := "root:x:0:0:root:/root:/bin/bash\n"

/-- The tree of a system on which nobody has worked yet, seen from a directory. -/
def standard (workingDirectory : Place) : FileTree where
  nodes :=
    (workingDirectory, .directory) ::
      (["etc", "passwd"], .file { content := Text.utf8 userTable }) ::
      standardDirectories.map (fun place => (place, .directory)) ++
      standardDevices.map fun entry => (entry.1, .device entry.2)
  workingDirectory

end FileTree
end ForeignBindings
