import Prepared.RowSet
import Prepared.Sql.Printer.Atom
import Prepared.Param.Inference
import Prepared.Value.Cast

/-!
# The values of parameters

For one execution of a statement every parameter gets a value of its type, or a null. `bindValues`
builds the list from the types, the values that the caller gives, and a mark for each of those that
are null.
-/

namespace Prepared

/-- Why parameters cannot get their values. -/
inductive ParamError where
  | countMismatch (expected values nulls : Nat)
  | unresolvedType (number : Nat)
  | noSuchParameter (number : Nat)
  /-- A statement with a quoted text or a comment that has no end. -/
  | unterminated
  | type (error : TypeError)
  deriving Repr, DecidableEq

/-- The wording of an error. -/
def ParamError.message : ParamError → String
  | countMismatch expected values nulls =>
    "expected " ++ toString expected ++ " parameters, got " ++ toString values ++ " values and "
      ++ toString nulls ++ " null flags"
  | unresolvedType number => "could not determine data type of parameter $" ++ toString number
  | noSuchParameter number => "there is no parameter $" ++ toString number
  | unterminated => "tokenizer error: unterminated text"
  | type error => "type error: " ++ error.message

/-! ### Marks of nulls -/

/-- What can mark a value as null. -/
class NullMark (α : Type) where
  isNull : α → Bool

instance : NullMark Bool := ⟨id⟩

instance : NullMark Char := ⟨(· == 'n')⟩

instance : NullMark UInt8 := ⟨(· == 'n'.toUInt8)⟩

/-! ### Parameters with values -/

/-- A parameter with its value. -/
structure Param where
  /-- The value, unless it is null. -/
  value : Option Datum
  type : SqlType
  /-- Whether the value stays the same during the whole execution. -/
  isConstant : Bool
  deriving DecidableEq

/-- A datum as a literal of SQL. Numbers that have no literal are written as text. -/
def Datum.literal : Datum → String
  | .boolean value => if value then "TRUE" else "FALSE"
  | .text value => Sql.quoted '\'' value
  | .float value => special value
  | .double value => special value
  | .integer type value h => (Datum.integer type value h).render
where
  /-- A floating point number as a literal. -/
  special {f : Number.Format} : Number.Binary f → String
    | .nan => "'NaN'"
    | .infinite negative => if negative then "'-Infinity'" else "'Infinity'"
    | x => x.text

namespace Param

/-- Whether the value is null. -/
def isNull (p : Param) : Bool :=
  p.value.isNone

/-- The value as a literal of SQL. -/
def literal (p : Param) : String :=
  match p.value with
  | some d => d.literal
  | none => "NULL"

/-- The parameter of type `type` that has the value `value`, or that is null if it is marked so. -/
def ofValue (type : SqlType) (value : Value) (marked : Bool) : Except TypeError Param :=
  if marked then .ok ⟨none, type, true⟩
  else (value.castTo type).map fun v => ⟨v.datum?, type, true⟩

end Param

/-- The parameters of the given types, with a value and a mark for each. -/
def paramsOf : List SqlType → List Value → List Bool → Except TypeError (List Param)
  | type :: types, value :: values, marked :: marks => do
    let p ← Param.ofValue type value marked
    return p :: (← paramsOf types values marks)
  | _, _, _ => .ok []

/-- The values of parameters of the given types. There must be a value and a mark for every
parameter, and every parameter must have a type; more of them do not count. -/
def bindValues {α : Type} [NullMark α] (types : List SqlType) (values : List Value)
    (nulls : List α) : Except ParamError (List Param) :=
  if values.length < types.length ∨ nulls.length < types.length then
    .error (.countMismatch types.length values.length nulls.length)
  else match ParamTypes.firstUnresolved? types with
    | some number => .error (.unresolvedType number)
    | none => (paramsOf types values (nulls.map NullMark.isNull)).mapError .type

/-- The parameter with the given number. -/
def paramAt? (params : List Param) (number : Nat) : Option Param :=
  if number = 0 then none else params[number - 1]?

/-- The name of the parameter with the given number. -/
def paramName (number : Nat) : String :=
  "$" ++ toString number

/-- The names of `n` parameters. -/
def paramNames (n : Nat) : List String :=
  (List.range n).map fun i => paramName (i + 1)

/-- The values as one row with a column for every parameter. -/
def paramRow (params : List Param) : RowSet where
  fields :=
    List.zipWith (fun name p => ⟨name, p.type.storage, true⟩) (paramNames params.length) params
  rows := if params.isEmpty then [] else [params.map (·.value)]

end Prepared
