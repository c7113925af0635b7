import Prepared.Sql.Printer.Atom
import Prepared.Value.Cast

/-!
# Types and values of SQL text

What the types and the literals of a statement stand for.
-/

namespace Prepared

open Sql

/-- The type that a written type stands for. -/
def SqlType.ofDataType : DataType → Except TypeError SqlType
  | .boolean => .ok .boolean
  | .integer .tinyint _ unsigned => .ok (.integer ⟨!unsigned, .w8⟩)
  | .integer .smallint _ unsigned => .ok (.integer ⟨!unsigned, .w16⟩)
  | .integer .int _ unsigned => .ok (.integer ⟨!unsigned, .w32⟩)
  | .integer .integer _ unsigned => .ok (.integer ⟨!unsigned, .w32⟩)
  | .integer .bigint _ unsigned => .ok (.integer ⟨!unsigned, .w64⟩)
  | .float _ => .ok .float
  | .real => .ok .float
  | .double => .ok .double
  | .char .char _ => .ok .varchar
  | .char .varchar _ => .ok .varchar
  | .nvarchar _ => .ok .varchar
  | .text => .ok .varchar
  | .string => .ok .varchar
  | type => .error (.unsupportedDataType type.render)

/-- A written type never stands for an undecided one. -/
theorem SqlType.isResolved_of_ofDataType {d : DataType} {t : SqlType} (h : ofDataType d = .ok t) :
    t.isResolved = true := by
  unfold ofDataType at h
  split at h <;> first | (cases h; rfl) | cases h

/-- The value of a number: an integer of 32 bits or else of 64 bits if it is one, and otherwise a
floating point number. -/
def Value.ofNumber (text : String) : Except TypeError Value :=
  let integer? (type : IntType) : Option Datum :=
    (Text.readInt? text.toList).bind fun i =>
      if h : type.Contains i then some (.integer type i h) else none
  let double? : Option Datum := (Number.Binary.read? text).map Datum.double
  match (integer? ⟨true, .w32⟩).or ((integer? ⟨true, .w64⟩).or double?) with
  | some d => .ok (.datum d)
  | none => .error (.invalidSyntax .double text)

/-- The value of a literal. A placeholder has none. -/
def Value.ofLiteral : Literal → Except TypeError Value
  | .number text _ => ofNumber text
  | .singleQuoted text => .ok (.datum (.text text))
  | .doubleQuoted text => .ok (.datum (.text text))
  | .escaped text => .ok (.datum (.text text))
  | .national text => .ok (.datum (.text text))
  | .boolean value => .ok (.datum (.boolean value))
  | .null => .ok untypedNull
  | .hex text => .error (.unsupportedLiteral (Literal.hex text).render)
  | .placeholder text => .error (.unsupportedLiteral text)
  | .bare text => .error (.unsupportedLiteral text)

end Prepared
