import ForeignBindings.Proofs.Files.Places

/-!
# Trees that hold the same

One file system can be stored as a tree in several ways.  No path and no change can tell such trees
apart: paths lead to the same places, and a change succeeds on all of them or fails on all of them
for the same cause, and leaves trees that hold the same again.
-/

namespace ForeignBindings

section Alike

variable {ε ε' σ α β : Type} {same : σ → σ → Prop}

/-- Whether two results have the same value or the same cause, in related states. -/
inductive Alike (same : σ → σ → Prop) :
    EStateM.Result ε σ α → EStateM.Result ε σ α → Prop
  | ok {value : α} {first second : σ} (states : same first second) :
      Alike same (.ok value first) (.ok value second)
  | error {cause : ε} {first second : σ} (states : same first second) :
      Alike same (.error cause first) (.error cause second)

/-- Whether a step has like results in related states. -/
def Respects (same : σ → σ → Prop) (step : EStateM ε σ α) : Prop :=
  ∀ ⦃first second⦄, same first second → Alike same (step first) (step second)

theorem respects_pure (value : α) : Respects same (pure value : EStateM ε σ α) :=
  fun _ _ states => .ok states

theorem respects_bind {start : EStateM ε σ α} {next : α → EStateM ε σ β}
    (start_respects : Respects same start) (next_respects : ∀ value, Respects same (next value)) :
    Respects same (start >>= next) := by
  intro first second states
  have started := start_respects states
  simp only [bind, EStateM.bind]
  generalize start first = left at started ⊢
  generalize start second = right at started ⊢
  cases started with
  | ok states => exact next_respects _ states
  | error states => exact .error states

theorem respects_adaptExcept (change : ε → ε') {step : EStateM ε σ α}
    (respects : Respects same step) : Respects same (EStateM.adaptExcept change step) := by
  intro first second states
  have stepped := respects states
  simp only [EStateM.adaptExcept]
  generalize step first = left at stepped ⊢
  generalize step second = right at stepped ⊢
  cases stepped with
  | ok states => exact .ok states
  | error states => exact .error states

end Alike

namespace FileTree

/-- Whether the same stands at every place of two trees, and relative paths start at the same
place. -/
structure Same (first second : FileTree) : Prop where
  /-- Relative paths start at the same place. -/
  workingDirectory : second.workingDirectory = first.workingDirectory
  /-- Every place holds the same. -/
  node : ∀ place, second.node? place = first.node? place

/-- Whether two trees hold the same but at one place. -/
structure SameApart (place : Place) (first second : FileTree) : Prop where
  /-- Relative paths start at the same place. -/
  workingDirectory : second.workingDirectory = first.workingDirectory
  /-- Every other place holds the same. -/
  node : ∀ other, other ≠ place → second.node? other = first.node? other

namespace SameApart

variable {place : Place} {first second third : FileTree}

theorem symm (same : SameApart place first second) : SameApart place second first :=
  ⟨same.workingDirectory.symm, fun other apart => (same.node other apart).symm⟩

theorem trans (left : SameApart place first second) (right : SameApart place second third) :
    SameApart place first third :=
  ⟨right.workingDirectory.trans left.workingDirectory, fun other apart =>
    (right.node other apart).trans (left.node other apart)⟩

theorem same (apart : SameApart place first second)
    (here : second.node? place = first.node? place) : Same first second := by
  refine ⟨apart.workingDirectory, fun other => ?_⟩
  by_cases there : other = place
  · exact there ▸ here
  · exact apart.node other there

/-- The directories of a tree are those of another tree if the place where they differ is none. -/
theorem keepsDirectories (apart : SameApart place first second)
    (plain : first.node? place ≠ some .directory) : KeepsDirectories first second := by
  refine ⟨apart.workingDirectory, fun {other} directory => ?_⟩
  have different : other ≠ place := by
    rintro rfl
    exact plain directory
  exact (apart.node other different).trans directory

end SameApart

theorem sameApart_erase (tree : FileTree) (place : Place) :
    SameApart place tree (tree.erase place) :=
  ⟨rfl, fun _ apart => node?_erase_of_ne tree apart⟩

namespace Same

variable {first second : FileTree}

theorem insert (same : Same first second) (place : Place) (node : FileNode) :
    Same (first.insert place node) (second.insert place node) := by
  refine ⟨same.workingDirectory, fun other => ?_⟩
  by_cases here : other = place
  · subst here
    cases other with
    | nil => rfl
    | cons name above =>
        have below : name :: above ≠ [] := List.cons_ne_nil name above
        rw [node?_insert_self second below, node?_insert_self first below]
  · rw [node?_insert_of_ne second here, node?_insert_of_ne first here, same.node]

theorem erase (same : Same first second) (place : Place) :
    Same (first.erase place) (second.erase place) := by
  refine ⟨same.workingDirectory, fun other => ?_⟩
  by_cases here : other = place
  · subst here
    cases other with
    | nil => rfl
    | cons name above =>
        have below : name :: above ≠ [] := List.cons_ne_nil name above
        rw [node?_erase_self second below, node?_erase_self first below]
  · rw [node?_erase_of_ne second here, node?_erase_of_ne first here, same.node]

theorem walk (same : Same first second) (place : Place) (steps : List String) :
    second.walk place steps = first.walk place steps := by
  induction steps generalizing place with
  | nil => rfl
  | cons step steps induction =>
      rw [FileTree.walk, FileTree.walk, same.node]
      split
      · rw [induction]
      · rfl
      · rfl

theorem start (same : Same first second) (path : String) : second.start path = first.start path := by
  rw [FileTree.start, FileTree.start, same.workingDirectory]

theorem resolve (same : Same first second) (path : String) :
    second.resolve path = first.resolve path := by
  rw [FileTree.resolve, FileTree.resolve, same.start, same.walk]

theorem find (same : Same first second) (path : String) : second.find path = first.find path := by
  rw [FileTree.find, FileTree.find, same.resolve]
  simp only [same.node]

theorem file (same : Same first second) (path : String) : second.file path = first.file path := by
  rw [FileTree.file, FileTree.file, same.find]

theorem isFile (same : Same first second) (path : String) :
    second.isFile path = first.isFile path := by
  rw [FileTree.isFile, FileTree.isFile, same.file]

theorem readText (same : Same first second) (path : String) :
    second.readText path = first.readText path := by
  rw [FileTree.readText, FileTree.readText, FileTree.readBytes, FileTree.readBytes, same.file]

theorem leadsToDirectory (same : Same first second) (start : Place) (steps : List String) :
    second.leadsToDirectory start steps = first.leadsToDirectory start steps := by
  rw [FileTree.leadsToDirectory, FileTree.leadsToDirectory, same.walk]
  simp only [same.node]

end Same

/-- Whether two changes have succeeded with trees that hold the same, or failed for one cause. -/
inductive SameOutcome : Except FileError FileTree → Except FileError FileTree → Prop
  | ok {first second : FileTree} (same : Same first second) :
      SameOutcome (.ok first) (.ok second)
  | error (cause : FileError) : SameOutcome (.error cause) (.error cause)

namespace Same

variable {first second : FileTree}

theorem removeFile (same : Same first second) (path : String) :
    SameOutcome (first.removeFile path) (second.removeFile path) := by
  rw [FileTree.removeFile, FileTree.removeFile, same.file]
  cases first.file path with
  | error cause => exact .error cause
  | ok target =>
      obtain ⟨place, entry⟩ := target
      cases removable : entry.removable with
      | true => simpa only [bind, Except.bind, removable] using .ok (same.erase place)
      | false => simpa [bind, Except.bind, removable] using .error _

theorem writeDevice (same : Same first second) (device : Device) :
    SameOutcome (first.writeDevice device) (second.writeDevice device) := by
  cases device <;> first | exact .ok same | exact .error _

theorem writeFile (same : Same first second) (path : String) (content : List UInt8) :
    SameOutcome (first.writeFile path content) (second.writeFile path content) := by
  rw [FileTree.writeFile, FileTree.writeFile, same.resolve]
  cases first.resolve path with
  | error cause => exact .error cause
  | ok place =>
      simp only [bind, Except.bind, same.node]
      split
      · exact .error _
      · split
        · exact .error _
        · split
          · exact .ok (same.insert place _)
          · exact .error _
        · exact same.writeDevice _
        · exact .ok (same.insert place _)

theorem createDirectory (same : Same first second) (start : Place) (steps : List String) :
    SameOutcome (first.createDirectory start steps) (second.createDirectory start steps) := by
  rw [FileTree.createDirectory, FileTree.createDirectory, same.walk]
  cases first.walk start steps with
  | error cause => exact .error cause
  | ok place =>
      simp only [bind, Except.bind, same.node]
      split
      · exact .error _
      · exact .ok (same.insert place .directory)

end Same

/-- A step that writes a file, and leaves the tree as it is if that fails. -/
theorem respects_writeFile {α : Type} (value : α) (path : String) (content : List UInt8) :
    Respects Same fun files : FileTree =>
      (match files.writeFile path content with
      | .ok written => .ok value written
      | .error cause => .error cause files : EStateM.Result FileError FileTree α) := by
  intro first second same
  have written := same.writeFile path content
  simp only
  generalize first.writeFile path content = left at written ⊢
  generalize second.writeFile path content = right at written ⊢
  cases written with
  | ok files => exact .ok files
  | error cause => exact .error same

theorem respects_ensureDirectory (start : Place) (steps : List String) :
    Respects Same (ensureDirectory start steps) := by
  intro first second same
  have created := same.createDirectory start steps
  rw [ensureDirectory, ensureDirectory, same.leadsToDirectory]
  generalize first.createDirectory start steps = left at created ⊢
  generalize second.createDirectory start steps = right at created ⊢
  cases created with
  | ok made => exact .ok made
  | error cause =>
      cases first.leadsToDirectory start steps with
      | true => exact .ok same
      | false => exact .error same

theorem respects_ensureChain (start : Place) (chain : List (List String)) :
    Respects Same (ensureChain start chain) := by
  induction chain with
  | nil => exact respects_pure ()
  | cons steps above induction =>
      intro first second same
      have made := respects_ensureDirectory start steps same
      simp only [ensureChain]
      generalize ensureDirectory start steps first = left at made ⊢
      generalize ensureDirectory start steps second = right at made ⊢
      cases made with
      | ok made => exact .ok made
      | @error cause _ _ unmade =>
          cases cause
          case notFound =>
            have prepared := induction unmade
            simp only
            generalize ensureChain start above _ = left at prepared ⊢
            generalize ensureChain start above _ = right at prepared ⊢
            cases prepared with
            | ok ready => exact respects_ensureDirectory start steps ready
            | error unfinished => exact .error unfinished
          all_goals exact .error unmade

theorem respects_createDirectories (path : String) :
    Respects Same (createDirectories path) := by
  intro first second same
  rw [createDirectories, createDirectories, same.start]
  split
  · exact .error same
  · exact respects_ensureChain _ _ same

end FileTree
end ForeignBindings
