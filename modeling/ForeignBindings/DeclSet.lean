import ForeignBindings.Decl
import ForeignBindings.ModuleError
import ForeignBindings.NameOrder

/-!
# Declaration sets

The declared types of a module in name order.  A set is built from any list of declarations whose
names are pairwise distinct, and a declaration is found by its name.
-/

namespace ForeignBindings

/-- Declarations in increasing name order. -/
structure DeclSet where
  /-- The declarations. -/
  decls : Array TypeDecl
  deriving DecidableEq, Repr, Inhabited

namespace DeclSet

/-- The set of a list of declarations, or the least name that is declared twice. -/
def ofList (decls : List TypeDecl) : Except ModuleError DeclSet :=
  match NameOrder.sortDistinct TypeDecl.name decls with
  | .ok sorted => .ok ⟨sorted.toArray⟩
  | .error repeated => .error (.duplicateType repeated)

/-- The declarations in name order. -/
def toList (types : DeclSet) : List TypeDecl :=
  types.decls.toList

/-- The number of declarations. -/
def size (types : DeclSet) : Nat :=
  types.decls.size

/-- Whether there is no declaration. -/
def isEmpty (types : DeclSet) : Bool :=
  types.decls.isEmpty

/-- The declaration with a given name. -/
def find? (types : DeclSet) (name : String) : Option TypeDecl :=
  NameOrder.search TypeDecl.name types.decls name

/-- Whether a name is declared. -/
def contains (types : DeclSet) (name : String) : Bool :=
  (types.find? name).isSome

end DeclSet
end ForeignBindings
