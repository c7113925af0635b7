import Prepared.SqlType.Basic

/-!
# Errors of types and values
-/

namespace Prepared

/-- Why a type or a value cannot be had. -/
inductive TypeError where
  /-- A type of the SQL text that no value here can have. -/
  | unsupportedDataType (text : String)
  /-- A literal of the SQL text that stands for no value here. -/
  | unsupportedLiteral (text : String)
  /-- A text that is no written form of a value of the type. -/
  | invalidSyntax (type : SqlType) (text : String)
  /-- A number, as written, outside the range of the type. -/
  | outOfRange (type : SqlType) (value : String)
  /-- Two types of which no value of the one becomes one of the other. -/
  | cannotCast (source target : SqlType)
  /-- Two types without a common one. -/
  | incomparable (left right : SqlType)
  deriving Repr, DecidableEq

/-- The wording of an error. -/
def TypeError.message : TypeError → String
  | unsupportedDataType text => "not implemented sqlparser datatype: " ++ text
  | unsupportedLiteral text => "not implemented sqlparser value: " ++ text
  | invalidSyntax type text =>
    "invalid input syntax for type " ++ type.name ++ ": \"" ++ text ++ "\""
  | outOfRange type value => "value " ++ value ++ " out of range for type " ++ type.name
  | cannotCast source target => "cannot cast type " ++ source.name ++ " to " ++ target.name
  | incomparable left right =>
    "type internal error: can not compare two types: " ++ left.name ++ " and " ++ right.name

end Prepared
