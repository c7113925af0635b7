import Prepared.Analysis.Error
import Prepared.Param.Values

/-!
# Errors of a session
-/

namespace Prepared

/-- Why a session does not do what it is asked for. -/
inductive SessionError where
  /-- A text that is not SQL. -/
  | notSql
  /-- A text without statements. -/
  | noStatement
  | catalog (error : CatalogError)
  | bind (error : BindError)
  | param (error : ParamError)
  | type (error : TypeError)
  | duplicatePrepared (name : String)
  | missingPrepared (name : String)
  /-- More or fewer values than the statement has parameters. -/
  | parameterCount (name : String) (expected actual : Nat)
  /-- A value for a parameter that is no constant. -/
  | invalidArgument (text : String)
  deriving Repr, DecidableEq

/-- The wording of an error. -/
def SessionError.message : SessionError → String
  | notSql => "parse error: the text is not SQL"
  | noStatement => "Internal error: invalid statement"
  | catalog error => "catalog error: " ++ error.message
  | bind error => "bind error: " ++ error.message
  | param error => "param error: " ++ error.message
  | type error => "type error: " ++ error.message
  | duplicatePrepared name => "prepared statement \"" ++ name ++ "\" already exists"
  | missingPrepared name => "prepared statement \"" ++ name ++ "\" does not exist"
  | parameterCount name expected actual =>
    "wrong number of parameters for prepared statement \"" ++ name ++ "\": expected "
      ++ toString expected ++ " parameters but got " ++ toString actual
  | invalidArgument text => "invalid EXECUTE argument: " ++ text

end Prepared
