import ForeignBindings.Proofs.Files.Frame

/-!
# The places that paths spell out

A path that can be followed leads to the place that its steps spell out, and the steps can be
spelled out before the directories on the way exist.  So what a run does to the file of a path can
be told by the place, whatever directories the run makes.
-/

namespace ForeignBindings

namespace Path

theorem parts_cons_of_ne {letter : Char} {rest first : List Char} {others : List (List Char)}
    (inside : letter ≠ '/') (known : parts rest = first :: others) :
    parts (letter :: rest) = (letter :: first) :: others := by
  simp only [parts, known]

theorem exists_parts (letters : List Char) : ∃ first others, parts letters = first :: others := by
  induction letters with
  | nil => exact ⟨[], [], rfl⟩
  | cons letter rest induction =>
      obtain ⟨first, others, known⟩ := induction
      by_cases slash : letter = '/'
      · subst slash
        exact ⟨[], parts rest, by simp only [parts]⟩
      · exact ⟨_, _, parts_cons_of_ne slash known⟩

theorem parts_append_slash (left right : List Char) :
    parts (left ++ '/' :: right) = parts left ++ parts right := by
  induction left with
  | nil => simp only [List.nil_append, parts, List.cons_append]
  | cons letter rest induction =>
      by_cases slash : letter = '/'
      · subst slash
        simp only [List.cons_append, parts, induction]
      · obtain ⟨first, others, known⟩ := exists_parts rest
        have joined : parts (rest ++ '/' :: right) = first :: (others ++ parts right) := by
          rw [induction, known, List.cons_append]
        rw [List.cons_append, parts_cons_of_ne slash joined, parts_cons_of_ne slash known,
          List.cons_append]

theorem steps_append_slash (left right : String) :
    steps (left ++ "/" ++ right) = steps left ++ steps right := by
  have letters : (left ++ "/" ++ right).toList = left.toList ++ '/' :: right.toList := by
    simp
  simp only [steps, letters, parts_append_slash, List.filter_append, List.map_append]

/-- The last step to a file in a directory is the name of the file. -/
theorem steps_join (directory : String) {name : String} (single : steps name = [name]) :
    steps (join directory name) = steps directory ++ [name] := by
  rw [join]
  split
  next empty =>
      have nothing : directory = "" := by
        simpa using empty
      rw [nothing, String.empty_append, single]
      rfl
  next slash =>
      obtain ⟨before, ends⟩ := List.getLast?_eq_some_iff.mp slash
      have front : directory = String.ofList before ++ "/" ++ "" := by
        apply String.toList_injective
        simp [ends]
      have whole : directory ++ name = String.ofList before ++ "/" ++ name := by
        apply String.toList_injective
        simp [ends]
      rw [whole, front, steps_append_slash, steps_append_slash, single]
      simp [steps, parts]
  next => rw [steps_append_slash, single]

end Path

namespace FileTree

/-- The place that the steps of a path spell out, whether or not they can be followed. -/
def spelled (tree : FileTree) (path : String) : Place :=
  (Path.steps path).foldl enter (tree.start path)

theorem eq_foldl_of_walk {tree : FileTree} {place target : Place} {steps : List String}
    (walked : tree.walk place steps = .ok target) : target = steps.foldl enter place := by
  induction steps generalizing place with
  | nil => exact (Except.ok.inj walked).symm
  | cons step steps induction =>
      rw [walk] at walked
      split at walked
      · split at walked
        · cases walked
        · exact induction walked
      · cases walked
      · cases walked

/-- A path that can be followed leads to the place that it spells out. -/
theorem eq_spelled_of_resolve {tree : FileTree} {path : String} {place : Place}
    (resolved : tree.resolve path = .ok place) : place = tree.spelled path := by
  rw [resolve] at resolved
  split at resolved
  · cases resolved
  · split at resolved
    · cases resolved
    · exact eq_foldl_of_walk resolved

theorem spelled_congr {before after : FileTree}
    (same : after.workingDirectory = before.workingDirectory) (path : String) :
    after.spelled path = before.spelled path := by
  rw [spelled, spelled, start, start, same]

/-- The last name of the place of a file in a directory is the name of the file. -/
theorem exists_spelled_join (tree : FileTree) (directory : String) {name : String}
    (single : Path.steps name = [name]) (plain : ∀ place, enter place name = place ++ [name]) :
    ∃ above, tree.spelled (Path.join directory name) = above ++ [name] := by
  rw [spelled, Path.steps_join directory single, List.foldl_append]
  exact ⟨_, plain _⟩

/-- A path leads to nothing if nothing stands at the place that it spells out. -/
theorem contains_of_free {tree : FileTree} {path : String}
    (free : tree.node? (tree.spelled path) = none) : tree.contains path = false := by
  rw [contains, find]
  cases resolved : tree.resolve path with
  | error fault => rfl
  | ok place =>
      rw [← eq_spelled_of_resolve resolved] at free
      simp only [bind, Except.bind, free]
      rfl

/-- The file at a place, if a file stands there. -/
def fileAt (tree : FileTree) (place : Place) : Option FileEntry :=
  match tree.node? place with
  | some (.file entry) => some entry
  | _ => none

theorem fileAt_congr {before after : FileTree} {place : Place}
    (same : after.node? place = before.node? place) : after.fileAt place = before.fileAt place := by
  rw [fileAt, fileAt, same]

theorem fileAt_of_node {tree : FileTree} {place : Place} {entry : FileEntry}
    (stands : tree.node? place = some (.file entry)) : tree.fileAt place = some entry := by
  rw [fileAt, stands]

theorem fileAt_of_file {tree : FileTree} {path : String} {place : Place} {entry : FileEntry}
    (found : tree.file path = .ok (place, entry)) :
    place = tree.spelled path ∧ tree.fileAt place = some entry := by
  obtain ⟨resolved, stands⟩ := resolve_of_file found
  exact ⟨eq_spelled_of_resolve resolved, fileAt_of_node stands⟩

/-- A path leads to no file if no file stands at the place that it spells out. -/
theorem isFile_of_fileAt_eq_none {tree : FileTree} {path : String}
    (absent : tree.fileAt (tree.spelled path) = none) : tree.isFile path = false := by
  rw [isFile]
  cases found : tree.file path with
  | error fault => rfl
  | ok target =>
      obtain ⟨spelled, stands⟩ := fileAt_of_file found
      rw [spelled, absent] at stands
      cases stands

/-- Whether the file at a place is the same in two trees, and relative paths start at the same
place. -/
structure KeepsFile (place : Place) (before after : FileTree) : Prop where
  /-- Relative paths start where they did. -/
  workingDirectory : after.workingDirectory = before.workingDirectory
  /-- The file is the same, or there is none in either tree. -/
  file : after.fileAt place = before.fileAt place

namespace KeepsFile

variable {place : Place} {first second third : FileTree}

theorem refl (place : Place) (tree : FileTree) : KeepsFile place tree tree := ⟨rfl, rfl⟩

theorem trans (left : KeepsFile place first second) (right : KeepsFile place second third) :
    KeepsFile place first third :=
  ⟨right.workingDirectory.trans left.workingDirectory, right.file.trans left.file⟩

end KeepsFile

theorem AddsDirectories.keepsFile {before after : FileTree}
    (adds : AddsDirectories before after) (place : Place) : KeepsFile place before after := by
  refine ⟨adds.workingDirectory, ?_⟩
  obtain kept | ⟨free, made⟩ := adds.node place
  · exact fileAt_congr kept
  · rw [fileAt, fileAt, free, made]

theorem keepsFile_createDirectories (path : String) (tree : FileTree) (place : Place) :
    KeepsFile place tree (filesAfter (createDirectories path) tree) :=
  (addsDirectories_createDirectories path tree).keepsFile place

theorem keepsFile_erase (tree : FileTree) {place removed : Place} (different : place ≠ removed) :
    KeepsFile place tree (tree.erase removed) :=
  ⟨rfl, fileAt_congr (node?_erase_of_ne tree different)⟩

theorem keepsFile_removeFile {tree after : FileTree} {path : String} {place : Place}
    (removed : tree.removeFile path = .ok after) (different : place ≠ tree.spelled path) :
    KeepsFile place tree after := by
  obtain ⟨target, entry, found, rfl⟩ := removeFile_eq_ok removed
  obtain ⟨spelled, -⟩ := fileAt_of_file found
  exact keepsFile_erase tree (spelled ▸ different)

/-- Writing puts the content into a file at the place of the path, or gives it to a device there,
and changes nothing else. -/
theorem writeFile_eq_ok {tree after : FileTree} {path : String} {content : List UInt8}
    (written : tree.writeFile path content = .ok after) :
    (∃ entry, entry.content = content ∧ tree.spelled path ≠ [] ∧
        after = tree.insert (tree.spelled path) (.file entry)) ∨
      ∃ device, tree.node? (tree.spelled path) = some (.device device) ∧ after = tree := by
  rw [writeFile] at written
  cases resolved : tree.resolve path with
  | error fault => simp [resolved, bind, Except.bind] at written
  | ok place =>
      obtain rfl := eq_spelled_of_resolve resolved
      simp only [resolved, bind, Except.bind] at written
      split at written
      · cases written
      · cases stands : tree.node? (tree.spelled path) with
        | none =>
            simp only [stands, Except.ok.injEq] at written
            refine .inl ⟨_, rfl, ?_, written.symm⟩
            intro root
            simp [root] at stands
        | some node =>
            cases node with
            | directory => simp [stands] at written
            | file entry =>
                simp only [stands] at written
                split at written
                · exact .inl ⟨_, rfl, ne_root_of_file stands, (Except.ok.inj written).symm⟩
                · cases written
            | device device =>
                simp only [stands] at written
                refine .inr ⟨device, rfl, ?_⟩
                cases device <;> first | cases written; rfl | cases written

theorem keepsFile_writeFile {tree after : FileTree} {path : String} {content : List UInt8}
    {place : Place} (written : tree.writeFile path content = .ok after)
    (different : place ≠ tree.spelled path) : KeepsFile place tree after := by
  obtain ⟨entry, -, -, rfl⟩ | ⟨device, -, rfl⟩ := writeFile_eq_ok written
  · exact ⟨rfl, fileAt_congr (node?_insert_of_ne tree different _)⟩
  · exact .refl place after

end FileTree
end ForeignBindings
