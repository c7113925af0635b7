import Prepared.Session.Error
import Prepared.Sql.Printer.Expr
import Prepared.Value.Literal

/-!
# Constants as arguments

The arguments with which a prepared statement is executed are constants: literals, numbers with a
sign, casts of constants, and texts behind the names of their types.
-/

namespace Prepared

open Sql

/-- The value of a constant. -/
def evalConstant : Expr → Except SessionError Value
  | .literal value => (Value.ofLiteral value).mapError .type
  | .nested operand => evalConstant operand
  | .unary .plus operand => evalConstant operand
  | .unary .minus (.literal (.number text _)) => (Value.ofNumber ("-" ++ text)).mapError .type
  | .unary .minus operand => .error (.invalidArgument ("-" ++ operand.render))
  | .cast operand type => do
    let target ← (SqlType.ofDataType type).mapError .type
    let value ← evalConstant operand
    (value.castTo target).mapError .type
  | .typed type text => do
    let target ← (SqlType.ofDataType type).mapError .type
    (Value.parse text target).mapError .type
  | e => .error (.invalidArgument e.render)

/-- The values of constants, from the first to the last. -/
def evalConstants : List Expr → Except SessionError (List Value)
  | [] => .ok []
  | e :: es => do
    let value ← evalConstant e
    return value :: (← evalConstants es)

end Prepared
