import ForeignBindings.Files.Tree

/-!
# What changes of a file tree leave alone

A path keeps its place as long as the directories on its way stay.  Removing a file takes nothing
but that file, and making directories only adds to what there is.
-/

namespace ForeignBindings
namespace FileTree

/-- Whether every directory of a tree is still there in another tree, and relative paths still
start at the same place. -/
structure KeepsDirectories (before after : FileTree) : Prop where
  /-- Relative paths start where they did. -/
  workingDirectory : after.workingDirectory = before.workingDirectory
  /-- Directories stay. -/
  directory : ∀ {place}, before.node? place = some .directory →
    after.node? place = some .directory

theorem KeepsDirectories.walk {before after : FileTree} (keeps : KeepsDirectories before after)
    {place target : Place} {steps : List String} (walked : before.walk place steps = .ok target) :
    after.walk place steps = .ok target := by
  induction steps generalizing place with
  | nil => exact walked
  | cons step steps induction =>
      rw [FileTree.walk] at walked ⊢
      cases stands : before.node? place with
      | none => simp [stands] at walked
      | some node =>
          cases node with
          | directory =>
              rw [stands] at walked
              rw [keeps.directory stands]
              by_cases long : Path.exceedsName step
              · simp [long] at walked
              · simp only [long, Bool.false_eq_true, if_false] at walked ⊢
                exact induction walked
          | file entry => simp [stands] at walked
          | device device => simp [stands] at walked

theorem KeepsDirectories.resolve {before after : FileTree}
    (keeps : KeepsDirectories before after) {path : String} {place : Place}
    (resolved : before.resolve path = .ok place) : after.resolve path = .ok place := by
  rw [FileTree.resolve] at resolved ⊢
  by_cases empty : path.isEmpty
  · simp [empty] at resolved
  · by_cases long : Path.exceedsPath path
    · simp [empty, long] at resolved
    · simp only [empty, long, Bool.false_eq_true, if_false] at resolved ⊢
      rw [start, keeps.workingDirectory]
      exact keeps.walk resolved

/-- A path leads to the same thing if its place holds the same. -/
theorem KeepsDirectories.find {before after : FileTree} (keeps : KeepsDirectories before after)
    {path : String} {place : Place} (resolved : before.resolve path = .ok place)
    (same : after.node? place = before.node? place) : after.find path = before.find path := by
  rw [FileTree.find, FileTree.find, resolved, keeps.resolve resolved]
  simp only [bind, Except.bind, same]

/-- A path that leads to a file resolves to the place of the file. -/
theorem resolve_of_file {tree : FileTree} {path : String} {place : Place} {entry : FileEntry}
    (found : tree.file path = .ok (place, entry)) :
    tree.resolve path = .ok place ∧ tree.node? place = some (.file entry) := by
  rw [file, find] at found
  cases resolved : tree.resolve path with
  | error fault => simp [resolved, bind, Except.bind] at found
  | ok target =>
      simp only [resolved, bind, Except.bind] at found
      cases stands : tree.node? target with
      | none => simp [stands] at found
      | some node =>
          cases node with
          | directory => simp [stands] at found
          | device device =>
              by_cases slash : Path.endsInSlash path <;> simp [stands, slash] at found
          | file other =>
              by_cases slash : Path.endsInSlash path
              · simp [stands, slash] at found
              · simp only [stands, slash, Bool.false_eq_true, if_false, Except.ok.injEq,
                  Prod.mk.injEq] at found
                obtain ⟨rfl, rfl⟩ := found
                exact ⟨rfl, stands⟩

theorem contains_of_file {tree : FileTree} {path : String} {place : Place} {entry : FileEntry}
    (found : tree.file path = .ok (place, entry)) : tree.contains path = true := by
  rw [contains]
  cases target : tree.find path with
  | error fault => simp [file, target, bind, Except.bind] at found
  | ok _ => rfl

theorem ne_root_of_file {tree : FileTree} {place : Place} {entry : FileEntry}
    (stands : tree.node? place = some (.file entry)) : place ≠ [] := by
  rintro rfl
  simp at stands

theorem removeFile_eq_ok {tree after : FileTree} {path : String}
    (removed : tree.removeFile path = .ok after) :
    ∃ place entry, tree.file path = .ok (place, entry) ∧ after = tree.erase place := by
  rw [removeFile] at removed
  cases found : tree.file path with
  | error fault => simp [found, bind, Except.bind] at removed
  | ok target =>
      obtain ⟨place, entry⟩ := target
      simp only [found, bind, Except.bind] at removed
      split at removed
      · exact ⟨place, entry, rfl, (Except.ok.inj removed).symm⟩
      · cases removed

theorem keepsDirectories_erase {tree : FileTree} {place : Place} {entry : FileEntry}
    (stands : tree.node? place = some (.file entry)) :
    KeepsDirectories tree (tree.erase place) := by
  refine ⟨rfl, fun {other} directory => ?_⟩
  have different : other ≠ place := by
    rintro rfl
    simp [stands] at directory
  rw [node?_erase_of_ne tree different]
  exact directory

/-- Once a file is removed, every path that led to it leads to nothing. -/
theorem find_erase {tree : FileTree} {path : String} {place : Place} {entry : FileEntry}
    (stands : tree.node? place = some (.file entry)) (resolved : tree.resolve path = .ok place) :
    (tree.erase place).find path = .error .notFound := by
  rw [find, (keepsDirectories_erase stands).resolve resolved]
  simp only [bind, Except.bind, node?_erase_self tree (ne_root_of_file stands)]

theorem contains_of_find_error {tree : FileTree} {path : String} {fault : FileError}
    (missing : tree.find path = .error fault) : tree.contains path = false := by
  rw [contains, missing]
  rfl

theorem isFile_of_find_error {tree : FileTree} {path : String} {fault : FileError}
    (missing : tree.find path = .error fault) : tree.isFile path = false := by
  rw [isFile, file, missing]
  rfl

/-- Whether everything that stands in a tree still stands in another tree. -/
structure Extends (before after : FileTree) : Prop where
  /-- Relative paths start where they did. -/
  workingDirectory : after.workingDirectory = before.workingDirectory
  /-- Whatever stood at a place stands there still. -/
  node : ∀ {place node}, before.node? place = some node → after.node? place = some node

namespace Extends

theorem keepsDirectories {before after : FileTree} (grows : Extends before after) :
    KeepsDirectories before after :=
  ⟨grows.workingDirectory, grows.node⟩

/-- A file stays where its path leads. -/
theorem file {before after : FileTree} (grows : Extends before after) {path : String}
    {place : Place} {entry : FileEntry} (found : before.file path = .ok (place, entry)) :
    after.file path = .ok (place, entry) := by
  obtain ⟨resolved, stands⟩ := resolve_of_file found
  have same : after.node? place = before.node? place := by rw [stands, grows.node stands]
  rw [FileTree.file, grows.keepsDirectories.find resolved same, ← FileTree.file]
  exact found

end Extends

/-- Whether a tree differs from another tree only by further directories. -/
structure AddsDirectories (before after : FileTree) : Prop where
  /-- Relative paths start where they did. -/
  workingDirectory : after.workingDirectory = before.workingDirectory
  /-- What stands at a place has stood there before, or it is a directory at a free place. -/
  node : ∀ place, after.node? place = before.node? place ∨
    before.node? place = none ∧ after.node? place = some .directory

namespace AddsDirectories

theorem refl (tree : FileTree) : AddsDirectories tree tree := ⟨rfl, fun _ => .inl rfl⟩

theorem trans {first second third : FileTree} (left : AddsDirectories first second)
    (right : AddsDirectories second third) : AddsDirectories first third := by
  refine ⟨right.workingDirectory.trans left.workingDirectory, fun place => ?_⟩
  obtain kept | ⟨free, made⟩ := right.node place
  · rw [kept]
    exact left.node place
  · obtain same | ⟨-, already⟩ := left.node place
    · exact .inr ⟨same ▸ free, made⟩
    · rw [free] at already
      cases already

theorem toExtends {before after : FileTree} (adds : AddsDirectories before after) :
    Extends before after := by
  refine ⟨adds.workingDirectory, fun {place node} stands => ?_⟩
  obtain kept | ⟨free, -⟩ := adds.node place
  · exact kept.trans stands
  · rw [free] at stands
    cases stands

end AddsDirectories

theorem addsDirectories_insert {tree : FileTree} {place : Place}
    (free : tree.node? place = none) : AddsDirectories tree (tree.insert place .directory) := by
  have below : place ≠ [] := by
    rintro rfl
    simp at free
  refine ⟨rfl, fun other => ?_⟩
  by_cases same : other = place
  · subst same
    exact .inr ⟨free, node?_insert_self tree below .directory⟩
  · exact .inl (node?_insert_of_ne tree same .directory)

/-- A directory is made at a free place that its steps lead to. -/
theorem createDirectory_eq_ok {tree after : FileTree} {start : Place} {steps : List String}
    (created : tree.createDirectory start steps = .ok after) :
    ∃ place, tree.walk start steps = .ok place ∧ tree.node? place = none ∧
      after = tree.insert place .directory := by
  rw [createDirectory] at created
  cases walked : tree.walk start steps with
  | error fault => simp [walked, bind, Except.bind] at created
  | ok place =>
      simp only [walked, bind, Except.bind] at created
      cases stands : tree.node? place with
      | some node => simp [stands] at created
      | none =>
          simp only [stands, Except.ok.injEq] at created
          exact ⟨place, rfl, stands, created.symm⟩

/-- The files that a change leaves behind, whether it succeeds or fails. -/
def filesAfter {α : Type} (change : EStateM FileError FileTree α) (tree : FileTree) : FileTree :=
  match change tree with
  | .ok _ after | .error _ after => after

theorem filesAfter_of_ok {α : Type} {change : EStateM FileError FileTree α}
    {tree after : FileTree} {value : α} (run : change tree = .ok value after) :
    filesAfter change tree = after := by
  rw [filesAfter, run]

theorem filesAfter_of_error {α : Type} {change : EStateM FileError FileTree α}
    {tree after : FileTree} {fault : FileError} (run : change tree = .error fault after) :
    filesAfter change tree = after := by
  rw [filesAfter, run]

theorem addsDirectories_ensureDirectory (start : Place) (steps : List String) (tree : FileTree) :
    AddsDirectories tree (filesAfter (ensureDirectory start steps) tree) := by
  rw [filesAfter, ensureDirectory]
  cases created : tree.createDirectory start steps with
  | ok after =>
      obtain ⟨place, -, free, rfl⟩ := createDirectory_eq_ok created
      exact addsDirectories_insert free
  | error fault => cases tree.leadsToDirectory start steps <;> exact .refl tree

/-- The directories above are made only if something on the way to a directory is missing. -/
theorem filesAfter_ensureChain_cons (start : Place) (steps : List String)
    (above : List (List String)) (tree : FileTree) :
    let first := filesAfter (ensureDirectory start steps) tree
    let second := filesAfter (ensureChain start above) first
    filesAfter (ensureChain start (steps :: above)) tree = first ∨
      filesAfter (ensureChain start (steps :: above)) tree = second ∨
      filesAfter (ensureChain start (steps :: above)) tree =
        filesAfter (ensureDirectory start steps) second := by
  intro first second
  cases made : ensureDirectory start steps tree with
  | ok _ after =>
      left
      simp [first, filesAfter, ensureChain, made]
  | error fault after =>
      have reached : first = after := filesAfter_of_error made
      by_cases missing : fault = .notFound
      · subst missing
        right
        cases prepared : ensureChain start above after with
        | ok _ ready =>
            right
            simp [second, reached, filesAfter, ensureChain, made, prepared]
        | error _ unfinished =>
            left
            simp [second, reached, filesAfter, ensureChain, made, prepared]
      · left
        simp only [reached, filesAfter, ensureChain, made]
        cases fault <;> first | rfl | exact absurd rfl missing

theorem addsDirectories_ensureChain (start : Place) (chain : List (List String))
    (tree : FileTree) : AddsDirectories tree (filesAfter (ensureChain start chain) tree) := by
  induction chain generalizing tree with
  | nil => exact .refl tree
  | cons steps above induction =>
      have first := addsDirectories_ensureDirectory start steps tree
      have second := first.trans (induction _)
      have third := second.trans (addsDirectories_ensureDirectory start steps _)
      obtain same | same | same := filesAfter_ensureChain_cons start steps above tree
      · exact same ▸ first
      · exact same ▸ second
      · exact same ▸ third

/-- Making the directories of a path makes nothing else and takes nothing away, even if it fails
half-way. -/
theorem addsDirectories_createDirectories (path : String) (tree : FileTree) :
    AddsDirectories tree (filesAfter (createDirectories path) tree) := by
  rw [filesAfter, createDirectories]
  by_cases long : Path.exceedsPath path
  · rw [if_pos long]
    exact .refl tree
  · rw [if_neg long]
    exact addsDirectories_ensureChain _ _ tree

theorem extends_createDirectories (path : String) (tree : FileTree) :
    Extends tree (filesAfter (createDirectories path) tree) :=
  (addsDirectories_createDirectories path tree).toExtends

end FileTree
end ForeignBindings
