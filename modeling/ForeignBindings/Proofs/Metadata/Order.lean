import ForeignBindings.Generation
import ForeignBindings.Proofs.Module.WellFormed

/-!
# The order of metadata does not matter

Two documents that list the same functions and types in different orders, with the same precomputed
declarations for their types, give the same module, the same text and the same errors.  One error
alone depends on the order: of several unions that ask for a packed layout, the first of the
document is named.
-/

namespace ForeignBindings

/-- An entry of a map is found by its name. -/
theorem Entries.find?_eq_some_iff {α : Type} {entries : Entries α} {name : String} {value : α} :
    entries.find? name = some value ↔ (name, value) ∈ entries.toList := by
  obtain ⟨entries, distinct⟩ := entries
  simp only [find?, Option.map_eq_some_iff]
  constructor
  · rintro ⟨⟨found, _⟩, search, rfl⟩
    obtain rfl : found = name := by simpa using List.find?_some search
    exact List.mem_of_find?_eq_some search
  · intro inside
    cases search : entries.find? fun entry => entry.1 == name with
    | none => simpa using List.find?_eq_none.mp search (name, value) inside
    | some found =>
        have same : found.1 = name := by simpa using List.find?_some search
        have only : found = (name, value) := List.inj_on_of_nodup_map distinct
          (List.mem_of_find?_eq_some search) inside same
        exact ⟨found, rfl, by rw [only]⟩

namespace Metadata

open Checks

/-- The precomputed declarations of types that are declared. -/
def declaredHostTypes (metadata : Metadata) : List (String × String) :=
  metadata.hostTypes.toList.filter fun entry => metadata.typeDefs.contains entry.1

/-- Whether two documents say the same in different orders; precomputed declarations of types that
are not declared count for nothing. -/
structure Rearranges (metadata other : Metadata) : Prop where
  /-- The package name is the same. -/
  name : metadata.name = other.name
  /-- The byte order is the same. -/
  littleEndian : metadata.littleEndian = other.littleEndian
  /-- The functions are the same in any order. -/
  symbols : metadata.symbols.toList.Perm other.symbols.toList
  /-- The types are the same in any order. -/
  typeDefs : metadata.typeDefs.toList.Perm other.typeDefs.toList
  /-- The precomputed declarations of declared types are the same in any order. -/
  hostTypes : metadata.declaredHostTypes.Perm other.declaredHostTypes

/-- Whether a document declares a union of the given name with a packed layout. -/
def AsksPackedUnion (metadata : Metadata) (name : String) : Prop :=
  ∃ body, (name, Body.union body) ∈ metadata.typeDefs.toList ∧ body.layout = .fixed

/-- The declaration of an entry with its precomputed text. -/
def entryDecl (metadata : Metadata) (entry : String × Body) : Except ModuleError TypeDecl := do
  let decl ← entry.2.toDecl entry.1
  return { decl with hostText := metadata.hostTypes.find? entry.1 }

theorem toDecls_eq_mapM (metadata : Metadata) :
    metadata.toDecls = metadata.typeDefs.toList.mapM metadata.entryDecl := rfl

/-- A declaration is refused only as a union with a packed layout. -/
theorem toDecl_eq_error {name : String} {body : Body} {cause : ModuleError}
    (refused : body.toDecl name = .error cause) :
    cause = .fixedLayoutUnion name ∧ ∃ union, body = .union union ∧ union.layout = .fixed := by
  cases body with
  | struct body => cases refused
  | bare fields => cases refused
  | union body =>
      simp only [Body.toDecl, UnionBody.toDecl] at refused
      cases layout : body.layout with
      | fixed =>
          rw [layout] at refused
          cases refused
          exact ⟨rfl, body, rfl, layout⟩
      | structured =>
          rw [layout] at refused
          cases refused

theorem name_of_toDecl {name : String} {body : Body} {decl : TypeDecl}
    (converted : body.toDecl name = .ok decl) : decl.name = name := by
  cases body with
  | struct body =>
      cases converted
      rfl
  | bare fields =>
      cases converted
      rfl
  | union body =>
      obtain ⟨union, -, converted⟩ := bind_eq_ok_iff.mp converted
      cases converted
      rfl

theorem name_of_entryDecl {metadata : Metadata} {entry : String × Body} {decl : TypeDecl}
    (converted : metadata.entryDecl entry = .ok decl) : decl.name = entry.1 := by
  obtain ⟨decl, declOf, finished⟩ := bind_eq_ok_iff.mp converted
  cases finished
  have named : decl.name = entry.1 := name_of_toDecl declOf
  exact named

theorem entryDecl_eq_error {metadata : Metadata} {entry : String × Body} {cause : ModuleError}
    (refused : metadata.entryDecl entry = .error cause) :
    entry.2.toDecl entry.1 = .error cause := by
  rw [entryDecl] at refused
  cases converted : entry.2.toDecl entry.1 with
  | error fault =>
      rw [converted] at refused
      exact refused
  | ok decl =>
      rw [converted] at refused
      cases refused

/-- Declared types have the same precomputed declarations in both documents. -/
theorem Rearranges.find?_hostTypes {metadata other : Metadata} (same : metadata.Rearranges other)
    {entry : String × Body} (declared : entry ∈ metadata.typeDefs.toList) :
    metadata.hostTypes.find? entry.1 = other.hostTypes.find? entry.1 := by
  have here : metadata.typeDefs.contains entry.1 = true :=
    List.any_eq_true.mpr ⟨entry, declared, by simp⟩
  have there : other.typeDefs.contains entry.1 = true :=
    List.any_eq_true.mpr ⟨entry, same.typeDefs.mem_iff.mp declared, by simp⟩
  ext text
  have moved := same.hostTypes.mem_iff (a := (entry.1, text))
  simpa [declaredHostTypes, here, there, ← Entries.find?_eq_some_iff] using moved

theorem Rearranges.entryDecl_eq {metadata other : Metadata} (same : metadata.Rearranges other)
    {entry : String × Body} (declared : entry ∈ metadata.typeDefs.toList) :
    metadata.entryDecl entry = other.entryDecl entry := by
  rw [entryDecl, entryDecl, same.find?_hostTypes declared]

theorem Rearranges.symm {metadata other : Metadata} (same : metadata.Rearranges other) :
    other.Rearranges metadata :=
  ⟨same.name.symm, same.littleEndian.symm, same.symbols.symm, same.typeDefs.symm,
    same.hostTypes.symm⟩

theorem names_of_toDecls {metadata : Metadata} {decls : List TypeDecl}
    (converted : metadata.toDecls = .ok decls) :
    decls.map TypeDecl.name = metadata.typeDefs.names :=
  map_eq_of_mapM_eq_ok (fun _ _ _ => name_of_entryDecl) converted

theorem toDecls_eq_error {metadata : Metadata} {cause : ModuleError}
    (refused : metadata.toDecls = .error cause) :
    ∃ union, metadata.AsksPackedUnion union ∧ cause = .fixedLayoutUnion union := by
  obtain ⟨⟨name, body⟩, declared, refused⟩ := exists_of_mapM_eq_error refused
  obtain ⟨named, union, rfl, packed⟩ := toDecl_eq_error (entryDecl_eq_error refused)
  exact ⟨name, ⟨union, declared, packed⟩, named⟩

/-- Rearranged documents declare the same types, if one of them declares any. -/
theorem Rearranges.toDecls_eq_ok {metadata other : Metadata} (same : metadata.Rearranges other)
    {decls : List TypeDecl} (converted : metadata.toDecls = .ok decls) :
    ∃ others, other.toDecls = .ok others ∧ decls.Perm others := by
  rw [toDecls_eq_mapM, mapM_congr fun entry declared => same.entryDecl_eq declared] at converted
  exact mapM_eq_ok_of_perm same.typeDefs converted

/-- Rearranged documents give the same module or the same error, unless both ask for a packed
union. -/
theorem Rearranges.toModule {metadata other : Metadata} (same : metadata.Rearranges other)
    (profile : Profile) (location : LibraryLocation) :
    metadata.toModule profile location = other.toModule profile location ∨
      ∃ union otherUnion, union ≠ otherUnion ∧ metadata.AsksPackedUnion union ∧
        metadata.AsksPackedUnion otherUnion ∧
        metadata.toModule profile location = .error (.fixedLayoutUnion union) ∧
        other.toModule profile location = .error (.fixedLayoutUnion otherUnion) := by
  cases converted : metadata.toDecls with
  | ok decls =>
      obtain ⟨others, otherConverted, perm⟩ := same.toDecls_eq_ok converted
      have types_distinct : (decls.map TypeDecl.name).Nodup :=
        names_of_toDecls converted ▸ metadata.typeDefs.names_nodup
      have functions_distinct : ((metadata.symbols.toList.map fun entry =>
          entry.2.toSignature entry.1).map Signature.name).Nodup := by
        rw [List.map_map]
        exact metadata.symbols.names_nodup
      left
      rw [Metadata.toModule, Metadata.toModule, converted, otherConverted]
      exact ModuleDraft.build_eq_of_perm same.name (by rw [same.littleEndian]) types_distinct perm
        functions_distinct (same.symbols.map _)
  | error cause =>
      obtain ⟨union, asks, rfl⟩ := toDecls_eq_error converted
      cases otherConverted : other.toDecls with
      | ok others =>
          obtain ⟨decls, impossible, -⟩ := same.symm.toDecls_eq_ok otherConverted
          cases converted.symm.trans impossible
      | error otherCause =>
          obtain ⟨otherUnion, ⟨body, declared, packed⟩, rfl⟩ := toDecls_eq_error otherConverted
          have otherAsks : metadata.AsksPackedUnion otherUnion :=
            ⟨body, same.typeDefs.mem_iff.mpr declared, packed⟩
          by_cases equal : union = otherUnion
          · left
            rw [Metadata.toModule, Metadata.toModule, converted, otherConverted, equal]
            rfl
          · right
            refine ⟨union, otherUnion, equal, asks, otherAsks, ?_, ?_⟩
            · rw [Metadata.toModule, converted]
              rfl
            · rw [Metadata.toModule, otherConverted]
              rfl

variable {ε : Type}

/-- The text of a module, or the error in its place, does not depend on the order of the metadata,
but for the union that is named when several ask for a packed layout. -/
theorem moduleText_of_rearranges {metadata other : Metadata} (same : metadata.Rearranges other)
    (options : GenerationOptions ε) :
    metadata.moduleText options = other.moduleText options ∨
      ∃ union otherUnion, union ≠ otherUnion ∧ metadata.AsksPackedUnion union ∧
        metadata.AsksPackedUnion otherUnion ∧
        metadata.moduleText options = .error (.invalidModule (.fixedLayoutUnion union)) ∧
        other.moduleText options = .error (.invalidModule (.fixedLayoutUnion otherUnion)) := by
  obtain equal | ⟨union, otherUnion, different, asks, otherAsks, failed, otherFailed⟩ :=
    same.toModule options.profile options.location
  · left
    rw [moduleText, moduleText, equal]
  · right
    refine ⟨union, otherUnion, different, asks, otherAsks, ?_, ?_⟩
    · rw [moduleText, failed]
    · rw [moduleText, otherFailed]

/-- A document with two functions, a packed struct with precomputed text, and a union. -/
def plotDocument : Metadata where
  name := "plot"
  littleEndian := true
  symbols := .ofList
    [("area", ⟨[.bare "Point", .bare "Point"], .bare "f64", false, none⟩),
      ("origin", ⟨[], .structEnum "Point", true, some "Where axes meet."⟩)]
  typeDefs := .ofList
    [("Point", .struct ⟨.ofList [("x", .bare "i32"), ("y", .bare "i32")], .fixed, none⟩),
      ("Shape", .union ⟨[⟨"circle", some (.ofList [("r", .bare "f64")]), none⟩], none, none,
        .structured, none⟩)]
  hostTypes := .ofList [("Point", "type Point = [number, number];"), ("Ghost", "type Ghost;")]

/-- The same document with everything in the opposite order and text for another unknown type. -/
def plotDocumentReversed : Metadata where
  name := "plot"
  littleEndian := true
  symbols := .ofList
    [("origin", ⟨[], .structEnum "Point", true, some "Where axes meet."⟩),
      ("area", ⟨[.bare "Point", .bare "Point"], .bare "f64", false, none⟩)]
  typeDefs := .ofList
    [("Shape", .union ⟨[⟨"circle", some (.ofList [("r", .bare "f64")]), none⟩], none, none,
        .structured, none⟩),
      ("Point", .struct ⟨.ofList [("x", .bare "i32"), ("y", .bare "i32")], .fixed, none⟩)]
  hostTypes := .ofList [("Phantom", "type Phantom;"), ("Point", "type Point = [number, number];")]

/-- A release in its build directory, without a formatter. -/
def plotOptions : GenerationOptions String :=
  ⟨.release, .targetDirectory .release, .default, none⟩

theorem moduleText_of_rearranges_plotDocument :
    plotDocument.Rearranges plotDocumentReversed ∧
      (plotDocument.moduleText plotOptions = plotDocumentReversed.moduleText plotOptions ∨
        ∃ union otherUnion, union ≠ otherUnion ∧ plotDocument.AsksPackedUnion union ∧
          plotDocument.AsksPackedUnion otherUnion ∧
          plotDocument.moduleText plotOptions =
            .error (.invalidModule (.fixedLayoutUnion union)) ∧
          plotDocumentReversed.moduleText plotOptions =
            .error (.invalidModule (.fixedLayoutUnion otherUnion))) := by
  have same : plotDocument.Rearranges plotDocumentReversed :=
    ⟨rfl, rfl, .swap _ _ _, .swap _ _ _, .refl _⟩
  exact ⟨same, moduleText_of_rearranges same plotOptions⟩

end Metadata
end ForeignBindings
