import Prepared.Value.Basic

/-!
# Sets of rows

The rows that are given back to a caller: columns with names and storage types, and in every row a
datum or a null for each column.
-/

namespace Prepared

/-- How the data of a column are stored. -/
inductive Storage where
  | null
  | boolean
  | integer (type : IntType)
  | float32
  | float64
  | utf8
  deriving Repr, DecidableEq

/-- The name of a storage type. -/
def Storage.name : Storage → String
  | null => "Null"
  | boolean => "Boolean"
  | integer t => (if t.signed then "Int" else "UInt") ++ toString t.width.bits
  | float32 => "Float32"
  | float64 => "Float64"
  | utf8 => "Utf8"

/-- How data of a type are stored. Only nulls are of a type that is not decided. -/
def SqlType.storage : SqlType → Storage
  | invalid => .null
  | unknown => .null
  | null => .null
  | boolean => .boolean
  | integer t => .integer t
  | float => .float32
  | double => .float64
  | varchar => .utf8

/-- A column of a set of rows. -/
structure Field where
  name : String
  storage : Storage
  nullable : Bool
  deriving Repr, DecidableEq

/-- Columns, and rows with a datum or a null for each of them. -/
structure RowSet where
  fields : List Field
  rows : List (List (Option Datum))

namespace RowSet

/-- A datum in a line of text: a null and an empty text have names. -/
def cellText : Option Datum → String
  | none => "NULL"
  | some d => if d = .text "" then "(empty)" else d.render

/-- The rows as lines, with a space between data. -/
def lines (r : RowSet) : String :=
  String.join (r.rows.map fun row => " ".intercalate (row.map cellText) ++ "\n")

/-- The number of rows, which is zero if there are no columns. -/
def numRows (r : RowSet) : Nat :=
  if r.fields.isEmpty then 0 else r.rows.length

end RowSet

end Prepared
