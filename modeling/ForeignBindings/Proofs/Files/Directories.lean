import ForeignBindings.Proofs.Files.Frame

/-!
# What making directories achieves

Once the directories of a path are made, the path leads to a directory.  If it has led to one
before, nothing is made.
-/

namespace ForeignBindings
namespace FileTree

theorem leadsToDirectory_iff {tree : FileTree} {start : Place} {steps : List String} :
    tree.leadsToDirectory start steps = true ↔
      ∃ place, tree.walk start steps = .ok place ∧ tree.node? place = some .directory := by
  rw [leadsToDirectory]
  cases walked : tree.walk start steps with
  | error fault => simp
  | ok place => simp

theorem createDirectory_of_leadsToDirectory {tree : FileTree} {start : Place}
    {steps : List String} (there : tree.leadsToDirectory start steps = true) :
    tree.createDirectory start steps = .error .alreadyExists := by
  obtain ⟨place, walked, stands⟩ := leadsToDirectory_iff.mp there
  simp only [createDirectory, walked, bind, Except.bind, stands]

theorem leadsToDirectory_of_createDirectory {tree after : FileTree} {start : Place}
    {steps : List String} (created : tree.createDirectory start steps = .ok after) :
    after.leadsToDirectory start steps = true := by
  obtain ⟨place, walked, free, rfl⟩ := createDirectory_eq_ok created
  have below : place ≠ [] := by
    rintro rfl
    simp at free
  have keeps := (addsDirectories_insert free).toExtends.keepsDirectories
  exact leadsToDirectory_iff.mpr ⟨place, keeps.walk walked, node?_insert_self tree below _⟩

theorem ensureDirectory_of_leadsToDirectory {tree : FileTree} {start : Place}
    {steps : List String} (there : tree.leadsToDirectory start steps = true) :
    ensureDirectory start steps tree = .ok () tree := by
  simp only [ensureDirectory, createDirectory_of_leadsToDirectory there, there, if_true]

theorem leadsToDirectory_of_ensureDirectory {tree after : FileTree} {start : Place}
    {steps : List String} (made : ensureDirectory start steps tree = .ok () after) :
    after.leadsToDirectory start steps = true := by
  rw [ensureDirectory] at made
  cases created : tree.createDirectory start steps with
  | ok grown =>
      simp only [created] at made
      cases made
      exact leadsToDirectory_of_createDirectory created
  | error fault =>
      simp only [created] at made
      split at made
      next there =>
          cases made
          exact there
      next => cases made

/-- The first directory of a chain is there once the chain is made, whether it is made at the
first attempt or after the directories above it. -/
theorem leadsToDirectory_of_ensureChain {tree after : FileTree} {start : Place}
    {steps : List String} {above : List (List String)}
    (made : ensureChain start (steps :: above) tree = .ok () after) :
    after.leadsToDirectory start steps = true := by
  simp only [ensureChain] at made
  split at made
  · split at made
    next => exact leadsToDirectory_of_ensureDirectory made
    next => cases made
  · exact leadsToDirectory_of_ensureDirectory made

/-- Whether a path leads to a directory that can be asked for. -/
structure HasDirectory (tree : FileTree) (path : String) : Prop where
  /-- The system takes the path. -/
  short : Path.exceedsPath path = false
  /-- The steps of the path lead to a directory; no steps at all lead to the working directory. -/
  leads : tree.leadsToDirectory (tree.start path) (Path.steps path) = true

theorem createDirectories_of_hasDirectory {tree : FileTree} {path : String}
    (there : tree.HasDirectory path) : createDirectories path tree = .ok () tree := by
  simp only [createDirectories, there.short, Bool.false_eq_true, if_false, ensureChain,
    ensureDirectory_of_leadsToDirectory there.leads]

theorem hasDirectory_of_createDirectories {tree after : FileTree} {path : String}
    (made : createDirectories path tree = .ok () after) : after.HasDirectory path := by
  have adds := addsDirectories_createDirectories path tree
  rw [filesAfter_of_ok made] at adds
  rw [createDirectories] at made
  by_cases long : Path.exceedsPath path
  · simp [long] at made
  · simp only [long, Bool.false_eq_true, if_false] at made
    refine ⟨by simpa using long, ?_⟩
    rw [start, adds.workingDirectory]
    exact leadsToDirectory_of_ensureChain made

end FileTree
end ForeignBindings
