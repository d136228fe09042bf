import ForeignBindings.Proofs.Glue.PrintedLines

/-!
# Reading expressions

The text of an expression read as a tree, without regard to how it was printed: functions of one
parameter, and names and properties that may be called and taken to be of a type.  What was printed is
read back.
-/

namespace ForeignBindings
namespace Glue

/-- The name or the property of a name that a text starts with, and what follows. -/
def readPath? (text : List Char) : Option (Expr × List Char) := do
  let (object, rest) ← readIdentifier? text
  match behind? "." rest with
  | none => return (.name object, rest)
  | some rest =>
      let (key, rest) ← readIdentifier? rest
      return (.property (.name object) key, rest)

/-- The expression of a bounded depth that a text starts with, and what follows: a function of one
parameter, or a name or property that may be called and taken to be of a type. -/
def readExprWithin? : Nat → List Char → Option (Expr × List Char)
  | 0, _ => none
  | depth + 1, text =>
      match behind? "(" text with
      | some rest => do
          let (parameter, rest) ← readIdentifier? rest
          let (body, rest) ← readExprWithin? depth (← behind? ") => " rest)
          return (.arrow parameter body, rest)
      | none => do
          let (path, rest) ← readPath? text
          let (value, rest) ←
            (match behind? "(" rest with
            | none => some (path, rest)
            | some rest => do
                let (argument, rest) ← readExprWithin? depth rest
                return (.call path argument, ← behind? ")" rest))
          match behind? " as " rest with
          | none => return (value, rest)
          | some rest =>
              let (type, rest) ← readType? rest
              return (.cast value type, rest)

/-- The expression that a text starts with, and what follows. -/
def readExpr? (text : List Char) : Option (Expr × List Char) :=
  readExprWithin? (text.length + 1) text

/-- Whether an expression is a name or the property of a name. -/
inductive Expr.IsPath : Expr → Prop where
  | name {identifier : String} (known : Name.isIdentifier identifier = true) :
      IsPath (.name identifier)
  | property {object key : String} (known : Name.isIdentifier object = true)
      (isKey : Name.isIdentifier key = true) : IsPath (.property (.name object) key)

/-- Whether the spelling of an expression is that of no other. -/
inductive Expr.IsLegible : Expr → Prop where
  | path {value : Expr} (isPath : value.IsPath) : IsLegible value
  | call {function argument : Expr} (isPath : function.IsPath) (legible : argument.IsLegible) :
      IsLegible (.call function argument)
  | cast {function argument : Expr} {type : HostType} (isPath : function.IsPath)
      (legible : argument.IsLegible) (legibleType : IsLegibleType type) :
      IsLegible (.cast (.call function argument) type)
  | arrow {parameter : String} {body : Expr} (known : Name.isIdentifier parameter = true)
      (legible : body.IsLegible) : IsLegible (.arrow parameter body)

/-- How deep calls and functions are nested in an expression. -/
def Expr.depth : Expr → Nat
  | .name _ => 1
  | .property object _ => object.depth
  | .call function argument => max function.depth (argument.depth + 1)
  | .cast value _ => value.depth
  | .arrow _ body => body.depth + 1

/-- Whether what follows an expression ends it. -/
def EndsExpr (rest : List Char) : Prop :=
  ∀ letter ∈ rest.head?, letter = ';' ∨ letter = ')' ∨ letter = ','

instance (rest : List Char) : Decidable (EndsExpr rest) :=
  match rest with
  | [] => .isTrue nofun
  | letter :: _ =>
      decidable_of_iff (letter = ';' ∨ letter = ')' ∨ letter = ',')
        ⟨fun ends _ first => Option.some.inj first ▸ ends, fun ends => ends letter rfl⟩

theorem EndsExpr.endsWord {rest : List Char} (ends : EndsExpr rest) : EndsWord rest := by
  intro letter first
  obtain rfl | rfl | rfl := ends letter first <;> decide

/-- Nothing that ends an expression goes on with it. -/
theorem EndsExpr.behind?_eq_none {rest : List Char} (ends : EndsExpr rest) :
    behind? "." rest = none ∧ behind? "(" rest = none ∧ behind? " as " rest = none := by
  cases rest with
  | nil => exact ⟨rfl, rfl, rfl⟩
  | cons letter rest => obtain rfl | rfl | rfl := ends letter rfl <;> exact ⟨rfl, rfl, rfl⟩

section Expressions

variable {value function argument : Expr} {depth : Nat} {rest : List Char}

theorem readPath?_append (isPath : value.IsPath)
    (stops : ∀ letter ∈ rest.head?, Name.isIdentifierPart letter = false)
    (last : behind? "." rest = none) :
    readPath? (value.spelling.toList ++ rest) = some (value, rest) := by
  cases isPath with
  | name known =>
      rw [Expr.spelling, readPath?, readIdentifier?_append known stops]
      simp only [Option.bind_eq_bind, Option.bind_some, last]
      rfl
  | @property object key known isKey =>
      rw [Expr.spelling, Expr.spelling, String.toList_append, String.toList_append,
        List.append_assoc, List.append_assoc, readPath?,
        readIdentifier?_append known (stops_append "." (by decide) _)]
      simp only [Option.bind_eq_bind, Option.bind_some, behind?_append,
        readIdentifier?_append isKey stops]
      rfl

/-- Nothing that starts with a letter of no identifier stands before an identifier. -/
theorem behind?_identifier {start name : String} (known : Name.isIdentifier name = true)
    (apart : ∃ letter letters, start.toList = letter :: letters ∧
      Name.isIdentifierPart letter = false) (rest : List Char) :
    behind? start (name.toList ++ rest) = none := by
  obtain ⟨some, parts⟩ := isIdentifierPart_of_isIdentifier known
  obtain ⟨first, others, spelled⟩ := List.exists_cons_of_ne_nil some
  obtain ⟨letter, letters, start_spelled, other⟩ := apart
  have part := parts first (spelled ▸ List.mem_cons_self)
  have differ : (letter == first) = false := by
    refine beq_false_of_ne ?_
    rintro rfl
    exact Bool.false_ne_true (other.symm.trans part)
  rw [behind?, spelled, start_spelled, List.cons_append, List.isPrefixOf?, differ]
  rfl

theorem Expr.IsPath.behind?_eq_none (isPath : value.IsPath) {start : String}
    (apart : ∃ letter letters, start.toList = letter :: letters ∧
      Name.isIdentifierPart letter = false) (rest : List Char) :
    behind? start (value.spelling.toList ++ rest) = none := by
  cases isPath with
  | name known => exact behind?_identifier known apart rest
  | property known isKey =>
      simp only [Expr.spelling, String.toList_append, List.append_assoc]
      exact behind?_identifier known apart _

/-- No path starts like a function. -/
theorem Expr.IsPath.behind?_paren (isPath : value.IsPath) (rest : List Char) :
    behind? "(" (value.spelling.toList ++ rest) = none :=
  isPath.behind?_eq_none ⟨_, _, rfl, by decide⟩ rest

/-- No expression starts like the end of its call. -/
theorem Expr.IsLegible.behind?_close (legible : value.IsLegible) (rest : List Char) :
    behind? ");" (value.spelling.toList ++ rest) = none := by
  have path {value : Expr} (isPath : value.IsPath) (rest : List Char) :
      behind? ");" (value.spelling.toList ++ rest) = none :=
    isPath.behind?_eq_none ⟨_, _, rfl, by decide⟩ rest
  cases legible with
  | path isPath => exact path isPath rest
  | call isPath legible =>
      simp only [Expr.spelling, String.toList_append, List.append_assoc]
      exact path isPath _
  | cast isPath legible legibleType =>
      simp only [Expr.spelling, String.toList_append, List.append_assoc]
      exact path isPath _
  | arrow known legible =>
      simp only [Expr.spelling, String.toList_append, List.append_assoc]
      rfl

/-- A call is read up to its closing parenthesis, behind which only a type may follow. -/
theorem readExprWithin?_call (isPath : function.IsPath)
    (read : readExprWithin? depth (argument.spelling.toList ++ (")".toList ++ rest)) =
      some (argument, ")".toList ++ rest)) :
    readExprWithin? (depth + 1) ((Expr.call function argument).spelling.toList ++ rest) =
      match behind? " as " rest with
      | none => some (.call function argument, rest)
      | some rest =>
          (readType? rest).map fun read => (.cast (.call function argument) read.1, read.2) := by
  have noPoint (rest : List Char) : behind? "." ("(".toList ++ rest) = none := rfl
  rw [Expr.spelling]
  simp only [String.toList_append, List.append_assoc]
  rw [readExprWithin?, isPath.behind?_paren]
  simp only [readPath?_append isPath (stops_append "(" (by decide) _) (noPoint _), behind?_append,
    read, Option.bind_eq_bind, Option.bind_some, Option.pure_def]
  cases behind? " as " rest with
  | none => rfl
  | some rest => exact Option.map_eq_bind.symm

/-- A printed expression is read back. -/
theorem readExprWithin?_append (legible : value.IsLegible) (deep : value.depth ≤ depth)
    (ends : EndsExpr rest) :
    readExprWithin? depth (value.spelling.toList ++ rest) = some (value, rest) := by
  have closes (rest : List Char) : EndsExpr (")".toList ++ rest) := by
    rintro _ ⟨⟩
    exact .inr (.inl rfl)
  induction legible generalizing depth rest with
  | @path value isPath =>
      obtain ⟨noPoint, noCall, noType⟩ := ends.behind?_eq_none
      have positive : 0 < value.depth := by cases isPath <;> exact Nat.one_pos
      obtain ⟨depth, rfl⟩ := Nat.exists_eq_add_of_lt (Nat.lt_of_lt_of_le positive deep)
      rw [Nat.zero_add, readExprWithin?, isPath.behind?_paren]
      simp only [readPath?_append isPath ends.endsWord.stops noPoint, noCall, noType,
        Option.bind_eq_bind, Option.bind_some, Option.pure_def]
  | @call function argument isPath legible induction =>
      obtain ⟨-, -, noType⟩ := ends.behind?_eq_none
      have deeper : argument.depth < depth := by simp [Expr.depth] at deep; omega
      obtain ⟨depth, rfl⟩ := Nat.exists_eq_add_of_lt (Nat.zero_lt_of_lt deeper)
      rw [Nat.zero_add] at deeper ⊢
      rw [readExprWithin?_call isPath (induction (Nat.le_of_lt_succ deeper) (closes _)), noType]
  | @cast function argument type isPath legible legibleType induction =>
      have deeper : argument.depth < depth := by simp [Expr.depth] at deep; omega
      obtain ⟨depth, rfl⟩ := Nat.exists_eq_add_of_lt (Nat.zero_lt_of_lt deeper)
      rw [Nat.zero_add] at deeper ⊢
      rw [Expr.spelling, String.toList_append, String.toList_append, List.append_assoc,
        List.append_assoc,
        readExprWithin?_call isPath (induction (Nat.le_of_lt_succ deeper) (closes _)),
        behind?_append]
      simp only [readType?_append legibleType ends.endsWord, Option.map_some]
  | @arrow parameter body known legible induction =>
      have deeper : body.depth < depth := by simp [Expr.depth] at deep; omega
      obtain ⟨depth, rfl⟩ := Nat.exists_eq_add_of_lt (Nat.zero_lt_of_lt deeper)
      rw [Nat.zero_add] at deeper ⊢
      rw [Expr.spelling]
      simp only [String.toList_append, List.append_assoc]
      rw [readExprWithin?]
      simp only [behind?_append,
        readIdentifier?_append known (stops_append ") => " (by decide) _),
        induction (Nat.le_of_lt_succ deeper) ends, Option.bind_eq_bind, Option.bind_some,
        Option.pure_def]

theorem Expr.IsLegible.depth_le_length (legible : value.IsLegible) :
    value.depth ≤ value.spelling.toList.length := by
  have word {name : String} (known : Name.isIdentifier name = true) : 1 ≤ name.toList.length :=
    List.length_pos_iff.mpr (isIdentifierPart_of_isIdentifier known).1
  have path {value : Expr} (isPath : value.IsPath) :
      value.depth = 1 ∧ 1 ≤ value.spelling.toList.length := by
    cases isPath with
    | name known => exact ⟨rfl, word known⟩
    | property known isKey =>
        refine ⟨rfl, Nat.le_trans (word known) ?_⟩
        simp [Expr.spelling]
  induction legible with
  | path isPath => exact (path isPath).1 ▸ (path isPath).2
  | call isPath legible induction =>
      obtain ⟨shallow, some⟩ := path isPath
      simp only [Expr.depth, Expr.spelling, String.toList_append, List.length_append, shallow]
      have paren : "(".toList.length = 1 := rfl
      omega
  | cast isPath legible legibleType induction =>
      obtain ⟨shallow, some⟩ := path isPath
      simp only [Expr.depth, Expr.spelling, String.toList_append, List.length_append, shallow]
      have paren : "(".toList.length = 1 := rfl
      omega
  | arrow known legible induction =>
      simp only [Expr.depth, Expr.spelling, String.toList_append, List.length_append]
      have paren : "(".toList.length = 1 := rfl
      omega

theorem readExpr?_append (legible : value.IsLegible) (ends : EndsExpr rest) :
    readExpr? (value.spelling.toList ++ rest) = some (value, rest) := by
  refine readExprWithin?_append legible ?_ ends
  have short := legible.depth_le_length
  rw [List.length_append]
  omega

end Expressions

end Glue
end ForeignBindings
