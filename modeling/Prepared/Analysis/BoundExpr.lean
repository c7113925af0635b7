import Prepared.Analysis.Scope
import Prepared.SqlType.Promotion
import Prepared.Value.Literal

/-!
# Expressions with types

What is kept of an expression once its type is known: the name that it gives to a column, its type,
and as much of what it is as decides how it adapts to a type that is wanted.
-/

namespace Prepared

/-- An expression with a type. -/
inductive BoundExpr where
  | column (column : BoundColumn)
  /-- A parameter with the type that was known of it. -/
  | parameter (name : String) (number : Nat) (type : SqlType)
  | constant (name : String) (value : Value)
  /-- Any other expression, of which nothing but the type counts. -/
  | computed (name : String) (type : SqlType)
  deriving DecidableEq

namespace BoundExpr

/-- The name of the expression as a column of an output. -/
def name : BoundExpr → String
  | column c => c.name
  | parameter name _ _ => name
  | constant name _ => name
  | computed name _ => name

/-- The type of the expression. -/
def type : BoundExpr → SqlType
  | column c => c.type
  | parameter _ _ type => type
  | constant _ value => value.type
  | computed _ type => type

/-- Whether the expression is a text or an untyped null as it stands in the statement, which takes
the type of whatever it meets. -/
def isUntypedLiteral : BoundExpr → Bool
  | constant _ value => value.type = .varchar || value.type = .null
  | _ => false

end BoundExpr

/-! ### Common types -/

/-- The common type of those types that say something, beginning with `t`. -/
def commonTypeFrom (t : SqlType) : List SqlType → Except TypeError SqlType
  | [] => .ok t
  | u :: us =>
    if u.isResolved && u ≠ .null then do commonTypeFrom (← SqlType.common t u) us
    else commonTypeFrom t us

/-- The common type of expressions, or `unknown` if none of them has a type. -/
def commonType (es : List BoundExpr) : Except TypeError SqlType :=
  commonTypeFrom .unknown (es.map BoundExpr.type)

/-- The type that expressions are brought to: the common type of those that are not literals, or
else that of all, or else the default. -/
def unifiedType (es : List BoundExpr) (default : Option SqlType) :
    Except TypeError (Option SqlType) := do
  let typed ← commonType (es.filter fun e => !e.isUntypedLiteral)
  let common ← if typed = .unknown then commonType es else pure typed
  return if common = .unknown then default else some common

end Prepared
