import Prepared.Analysis.BoundExpr
import Prepared.Analysis.Monad

/-!
# Coercion

Bringing expressions to a type that is wanted. An undecided parameter takes the type, a literal is
converted, and any other expression must be one whose type casts implicitly.
-/

namespace Prepared

namespace BoundExpr

open BindM

variable {σ : Type} [ParamHook σ]

/-- The expression as one of type `target` by an implicit cast. -/
def castImplicitly (e : BoundExpr) (target : SqlType) : Walk σ BoundExpr :=
  if e.type.implicitlyCasts target then return computed e.name target
  else throw (.cannotCoerce e.type target)

/-- The expression as one of type `target`. Nothing is done if it has the type already, or if
`target` is not a type of values. -/
def coerce (e : BoundExpr) (target : SqlType) : Walk σ BoundExpr :=
  if e.type = target ∨ target.isResolved = false then return e
  else match e with
    | parameter name number .unknown => do
      return parameter name number (← settleParam number target)
    | constant name value =>
      if e.isUntypedLiteral then do return constant name (← ofType (value.castTo target))
      else e.castImplicitly target
    | e => e.castImplicitly target

/-- The expression as one of type `target` if it has no type of its own. -/
def coerceUnknown (e : BoundExpr) (target : SqlType) : Walk σ BoundExpr :=
  if e.type = .unknown then e.coerce target else return e

/-- The expressions as ones of type `target`, from the first to the last. -/
def coerceAll (target : SqlType) : List BoundExpr → Walk σ (List BoundExpr)
  | [] => return []
  | e :: es => do
    let e ← e.coerce target
    return e :: (← coerceAll target es)

/-- Expressions as ones of the types at their positions. -/
def coerceEach : List BoundExpr → List SqlType → Walk σ (List BoundExpr)
  | e :: es, t :: ts => do
    let e ← e.coerce t
    return e :: (← coerceEach es ts)
  | _, _ => return []

/-- The expressions as ones of their common type, and that type. If none has a type and there is no
default they stay as they are. -/
def unify (es : List BoundExpr) (default : Option SqlType) : Walk σ (List BoundExpr × SqlType) := do
  match ← ofType (unifiedType es default) with
  | some common => return (← coerceAll common es, common)
  | none => return (es, .unknown)

end BoundExpr

end Prepared
