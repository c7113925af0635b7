import Prepared.SqlType.Error
import Prepared.Text.Blank
import Prepared.Value.Basic

/-!
# Casts

`Value.castTo` converts a value to a type the way an explicit cast does: a null becomes the null of
the type, a text is read as a value of the type, a number is converted if the type can hold it, and
any datum can become its text.
-/

namespace Prepared

-- the power of the core library, whatever else is imported
attribute [local instance (high)] instPowNat

/-! ### Integers in range -/

/-- The widest range in which integers are read from text and taken from floating point numbers:
that of signed integers of 128 bits. -/
def widestMin : Int := -(2 ^ (127 : Nat))

@[inherit_doc widestMin]
def widestMax : Int := 2 ^ (127 : Nat) - 1

/-- The datum of an integer type that stands for `i`. -/
def Datum.ofInt (t : IntType) (i : Int) : Except TypeError Datum :=
  if h : t.Contains i then .ok (.integer t i h)
  else .error (.outOfRange (.integer t) (toString i))

theorem Datum.ofInt_of_contains {t : IntType} {i : Int} (h : t.Contains i) :
    Datum.ofInt t i = .ok (.integer t i h) := by
  simp [Datum.ofInt, h]

/-- An integer beyond the widest range becomes the nearer end of it. -/
def clampWidest (i : Int) : Int :=
  if i < widestMin then widestMin else if widestMax < i then widestMax else i

/-! ### Reading a text -/

/-- The boolean that a word stands for, in any case. -/
def readBool? (s : String) : Option Bool :=
  let word := Text.lowerAscii s
  if word ∈ ["t", "true", "y", "yes", "on", "1"] then some true
  else if word ∈ ["f", "false", "n", "no", "off", "0"] then some false
  else none

/-- The integer that a numeral of the widest range stands for. -/
def readWidest? (s : String) : Option Int :=
  (Text.readInt? s.toList).filter fun i => widestMin ≤ i ∧ i ≤ widestMax

/-- Reads a text as a datum of the type `t`. White space around it does not count, except for a
text. -/
def Datum.parse (s : String) (t : SqlType) : Except TypeError Datum :=
  let orInvalid {α : Type} (x : Option α) : Except TypeError α :=
    x.elim (.error (.invalidSyntax t s)) .ok
  let word := Text.trim s
  match t with
  | .boolean => Datum.boolean <$> orInvalid (readBool? word)
  | .float => Datum.float <$> orInvalid (Number.Binary.read? word)
  | .double => Datum.double <$> orInvalid (Number.Binary.read? word)
  | .varchar => .ok (.text s)
  | .integer type => orInvalid (readWidest? word) >>= Datum.ofInt type
  | .invalid => .error (.cannotCast .varchar t)
  | .unknown => .error (.cannotCast .varchar t)
  | .null => .error (.cannotCast .varchar t)

/-! ### Converting a number -/

/-- The number of 64 bits nearest to a numeric datum. -/
def Datum.toDouble? : Datum → Option (Number.Binary .double)
  | .integer _ i _ => some (.ofInt i)
  | .float x => some x.convert
  | .double x => some x
  | .boolean _ => none
  | .text _ => none

/-- The integer nearest to a numeric datum, halves going away from zero. -/
def Datum.toInt? : Datum → Option Int
  | .integer _ i _ => some i
  | .float x => x.round?.map clampWidest
  | .double x => x.round?.map clampWidest
  | .boolean _ => none
  | .text _ => none

/-- Converts a numeric datum to a numeric type. Every number has a nearest floating point number,
and a finite one a nearest integer. -/
def Datum.convert (d : Datum) (t : SqlType) : Except TypeError Datum :=
  let orOutOfRange {α : Type} (x : Option α) : Except TypeError α :=
    x.elim (.error (.outOfRange t d.render)) .ok
  match t with
  | .integer type => orOutOfRange d.toInt? >>= Datum.ofInt type
  | .float => (fun x => Datum.float x.convert) <$> orOutOfRange d.toDouble?
  | _ => Datum.double <$> orOutOfRange d.toDouble?

/-! ### Any value to any type -/

/-- Converts a datum to a type other than its own. -/
def Datum.castTo (d : Datum) (t : SqlType) : Except TypeError Datum :=
  match d, t with
  | .text s, .boolean => parse s t
  | .text s, .integer _ => parse s t
  | .text s, .float => parse s t
  | .text s, .double => parse s t
  | d, .varchar => .ok (.text d.render)
  | d, t => if d.type.isNumeric && t.isNumeric then d.convert t else .error (.cannotCast d.type t)

/-- Converts a value to the type `t`. A value of that type stays as it is. -/
def Value.castTo (v : Value) (t : SqlType) : Except TypeError Value :=
  if v.type = t then .ok v
  else match v with
    | .null _ _ => .ok (nullOf t)
    | .datum d => Value.datum <$> d.castTo t

@[simp]
theorem Value.castTo_self (v : Value) : v.castTo v.type = .ok v := by
  simp [castTo]

/-- A value of text that is read as a value of the type `t`. -/
def Value.parse (s : String) (t : SqlType) : Except TypeError Value :=
  Value.datum <$> Datum.parse s t

end Prepared
