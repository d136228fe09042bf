import ForeignBindings.HostType

/-!
# Expressions of emitted code

The expressions that wrappers are made of, as trees, with their spelling and the names of the
functions that they call.
-/

namespace ForeignBindings
namespace Glue

/-- An expression of the host language. -/
inductive Expr where
  /-- A name in scope. -/
  | name (identifier : String)
  /-- A property of an object. -/
  | property (object : Expr) (key : String)
  /-- A call of a function with one argument. -/
  | call (function argument : Expr)
  /-- A value taken to be of a type. -/
  | cast (value : Expr) (type : HostType)
  /-- A function of one parameter. -/
  | arrow (parameter : String) (body : Expr)
  deriving DecidableEq, Repr, Inhabited

namespace Expr

/-- The spelling of an expression. -/
def spelling : Expr → String
  | .name identifier => identifier
  | .property object key => object.spelling ++ "." ++ key
  | .call function argument => function.spelling ++ "(" ++ argument.spelling ++ ")"
  | .cast value type => value.spelling ++ " as " ++ type.spelling
  | .arrow parameter body => "(" ++ parameter ++ ") => " ++ body.spelling

/-- The names that an expression calls as functions. -/
def called : Expr → List String
  | .name _ => []
  | .property object _ => object.called
  | .call (.name function) argument => function :: argument.called
  | .call function argument => function.called ++ argument.called
  | .cast value _ => value.called
  | .arrow _ body => body.called

end Expr
end Glue
end ForeignBindings
