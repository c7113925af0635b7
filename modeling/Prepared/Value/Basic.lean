import Prepared.Number.Decimal
import Prepared.SqlType.Basic

/-!
# Values

A datum is a value of a type that is not null; a value is a datum or the null of some type.
-/

namespace Prepared

/-- A value that is not null. -/
inductive Datum where
  | boolean (value : Bool)
  | integer (type : IntType) (value : Int) (inRange : type.Contains value)
  | float (value : Number.Binary .single)
  | double (value : Number.Binary .double)
  | text (value : String)
  deriving DecidableEq

namespace Datum

/-- The type of a datum. -/
def type : Datum → SqlType
  | boolean _ => .boolean
  | integer t _ _ => .integer t
  | float _ => .float
  | double _ => .double
  | text _ => .varchar

/-- The text of a datum. -/
def render : Datum → String
  | boolean value => if value then "true" else "false"
  | integer _ value _ => toString value
  | float value => value.text
  | double value => value.text
  | text value => value

theorem type_isResolved (d : Datum) : d.type.isResolved = true := by
  cases d <;> rfl

end Datum

/-- A value of some type: a datum, or a null. -/
inductive Value where
  | null (type : SqlType) (resolved : type.isResolved = true)
  | datum (datum : Datum)
  deriving DecidableEq

namespace Value

/-- The null that belongs to no other type. -/
def untypedNull : Value := .null .null rfl

/-- The null of a type; a type that no value has gives the untyped null. -/
def nullOf (t : SqlType) : Value :=
  if h : t.isResolved then .null t h else untypedNull

/-- The type of a value. -/
def type : Value → SqlType
  | null t _ => t
  | datum d => d.type

/-- Whether the value is a null. -/
def isNull : Value → Bool
  | null _ _ => true
  | datum _ => false

/-- The datum of a value that is not null. -/
def datum? : Value → Option Datum
  | null _ _ => none
  | datum d => some d

/-- The text of a value. -/
def render : Value → String
  | null _ _ => "NULL"
  | datum d => d.render

theorem type_isResolved (v : Value) : v.type.isResolved = true := by
  cases v with
  | null t h => exact h
  | datum d => exact d.type_isResolved

@[simp]
theorem isNull_nullOf (t : SqlType) : (nullOf t).isNull = true := by
  unfold nullOf; split <;> rfl

theorem type_nullOf {t : SqlType} (h : t.isResolved = true) : (nullOf t).type = t := by
  simp [nullOf, h, type]

end Value

end Prepared
