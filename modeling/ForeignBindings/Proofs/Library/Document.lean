import ForeignBindings.Library.View
import ForeignBindings.Proofs.Json.Normal
import ForeignBindings.Proofs.Library.Listing
import Mathlib.Data.List.Perm.Basic

/-!
# Reading the document of a library

The document holds an object with a member for each platform: a file, or an object with a file for
each architecture.  Normal documents sort their members, so the files come in another order.
-/

namespace ForeignBindings

/-- The file of a member of the object of a platform. -/
def readArch? (os : String) (arch : String × Json) : Option ListedFile :=
  match arch.2 with
  | .string name => some ⟨os, some arch.1, name⟩
  | _ => none

/-- The files of a member of the object of all platforms. -/
def readPlatform? (platform : String × Json) : Option (List ListedFile) :=
  match platform.2 with
  | .string name => some [⟨platform.1, none, name⟩]
  | .object arches => arches.mapM (readArch? platform.1)
  | _ => none

/-- What a document tells. -/
def Listing.ofDocument? : Json → Option Listing
  | .object members => do
      let .string base ← Json.member? members "base" | none
      let .string policy ← Json.member? members "policy" | none
      let .object platforms ← Json.member? members "files" | none
      let files ← platforms.mapM readPlatform?
      return ⟨base, policy, files.flatten⟩
  | _ => none

theorem exists_mapM_of_forall₂ {α β γ : Type} {step : α → Option β} {agrees : β → γ → Prop}
    {items : List α} {goals : List γ}
    (each : List.Forall₂ (fun item goal => ∃ result, step item = some result ∧ agrees result goal)
      items goals) :
    ∃ results, items.mapM step = some results ∧ List.Forall₂ agrees results goals := by
  induction each with
  | nil => exact ⟨[], rfl, .nil⟩
  | cons first _ induction =>
      obtain ⟨result, stepped, agreed⟩ := first
      obtain ⟨results, rest, others⟩ := induction
      refine ⟨result :: results, ?_, .cons agreed others⟩
      rw [List.mapM_cons, stepped, rest]
      rfl

/-- A step that succeeds for the items of a list succeeds for them in another order, and what it
gives agrees with what is expected in that order. -/
theorem exists_mapM_of_perm {α β γ δ : Type} (step : β → Option γ) (agrees : γ → δ → Prop)
    {source : List α} {before : α → β} (after : α → δ) {items : List β}
    (perm : items.Perm (source.map before))
    (each : ∀ item ∈ source, ∃ result, step (before item) = some result ∧
      agrees result (after item)) :
    ∃ results sorted, items.mapM step = some results ∧ List.Forall₂ agrees results sorted ∧
      sorted.Perm (source.map after) := by
  have pointwise : List.Forall₂
      (fun item goal => ∃ result, step item = some result ∧ agrees result goal)
      (source.map before) (source.map after) := by
    rw [List.forall₂_map_left_iff, List.forall₂_map_right_iff, List.forall₂_same]
    exact each
  obtain ⟨sorted, steps, reordered⟩ := List.perm_comp_forall₂ perm pointwise
  obtain ⟨results, stepped, agreed⟩ := exists_mapM_of_forall₂ steps
  exact ⟨results, sorted, stepped, agreed, reordered⟩

theorem exists_readPlatform? (os : String) {names : FileNames} (distinct : names.Distinct) :
    ∃ files, readPlatform? (os, (LocatedLibrary.filesJson names).normalize) = some files ∧
      files.Perm (names.listed os) := by
  cases names with
  | single file => exact ⟨[⟨os, none, file⟩], rfl, .refl _⟩
  | perArch files =>
      have apart : ((files.map fun file => (file.1, Json.string file.2)).map Prod.fst).Nodup := by
        rw [List.map_map]
        exact distinct
      have reordered := Json.normalizeMembers_perm_map apart
      rw [List.map_map] at reordered
      obtain ⟨results, sorted, read, same, perm⟩ := exists_mapM_of_perm (readArch? os) Eq
        (fun file : String × String => (⟨os, some file.1, file.2⟩ : ListedFile)) reordered
        fun file inside => ⟨_, rfl, rfl⟩
      rw [List.forall₂_eq_eq_eq] at same
      exact ⟨results, read, same ▸ perm⟩

/-- The document of a library tells what the library holds, with the files in some order. -/
theorem ofDocument?_toJson {library : LocatedLibrary}
    (distinct : (library.files.map Prod.fst).Nodup)
    (arches_distinct : ∀ platform ∈ library.files, platform.2.Distinct) :
    ∃ files, Listing.ofDocument? library.toJson = some { library.listing with files } ∧
      files.Perm library.listing.files := by
  let platforms := library.files.map fun platform =>
    (platform.1, LocatedLibrary.filesJson platform.2)
  let members := [("base", Json.string library.base),
    ("policy", Json.string library.policy.spelling), ("files", Json.object platforms)]
  have names : (members.map Prod.fst).Nodup := by simp [members]
  have base := Json.member?_normalizeMembers names List.mem_cons_self
  have policy := Json.member?_normalizeMembers names
    (List.mem_cons_of_mem _ List.mem_cons_self)
  have files := Json.member?_normalizeMembers names
    (List.mem_cons_of_mem _ (List.mem_cons_of_mem _ List.mem_cons_self))
  have apart : (platforms.map Prod.fst).Nodup := by
    rw [List.map_map]
    exact distinct
  have reordered := Json.normalizeMembers_perm_map apart
  rw [List.map_map] at reordered
  obtain ⟨results, sorted, read, agreed, perm⟩ := exists_mapM_of_perm readPlatform? List.Perm
    (fun platform : String × FileNames => platform.2.listed platform.1) reordered
    fun platform inside => exists_readPlatform? platform.1 (arches_distinct platform inside)
  have whole : library.toJson = .object (Json.normalizeMembers members) := rfl
  refine ⟨results.flatten, ?_, (List.Perm.flatten_congr agreed).trans perm.flatten⟩
  rw [whole, Listing.ofDocument?, base, policy, files]
  simp only [Json.normalize, Option.bind_eq_bind, Option.bind_some, read]
  rfl

end ForeignBindings
