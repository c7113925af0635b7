/-!
# SQL types

The types of parameters, columns and expressions. Two of them are not types of values: `invalid`
marks a parameter slot that no statement has referred to, and `unknown` one that was referred to but
whose type nothing has decided yet. The type of an untyped `NULL` is `null`.
-/

namespace Prepared

-- the power of the core library, whatever else is imported
attribute [local instance (high)] instPowNat

/-! ### Integer types -/

/-- The number of bits of an integer type. -/
inductive Width where
  | w8
  | w16
  | w32
  | w64
  deriving Repr, DecidableEq

/-- How many bits an integer of the width has. -/
def Width.bits : Width → Nat
  | .w8 => 8
  | .w16 => 16
  | .w32 => 32
  | .w64 => 64

/-- The width of twice as many bits, if there is one. -/
def Width.double? : Width → Option Width
  | .w8 => some .w16
  | .w16 => some .w32
  | .w32 => some .w64
  | .w64 => none

/-- An integer type: signed or not, of one of four widths. -/
structure IntType where
  signed : Bool
  width : Width
  deriving Repr, DecidableEq

namespace IntType

/-- The least integer of the type. -/
def min (t : IntType) : Int :=
  if t.signed then -(2 ^ (t.width.bits - 1)) else 0

/-- The greatest integer of the type. -/
def max (t : IntType) : Int :=
  if t.signed then 2 ^ (t.width.bits - 1) - 1 else 2 ^ t.width.bits - 1

/-- Being an integer of the type. -/
def Contains (t : IntType) (i : Int) : Prop :=
  t.min ≤ i ∧ i ≤ t.max

instance (t : IntType) (i : Int) : Decidable (t.Contains i) :=
  inferInstanceAs (Decidable (_ ∧ _))

/-- Every integer of `s` is one of `t`. -/
def FitsIn (s t : IntType) : Prop :=
  t.min ≤ s.min ∧ s.max ≤ t.max

instance (s t : IntType) : Decidable (s.FitsIn t) :=
  inferInstanceAs (Decidable (_ ∧ _))

theorem Contains.of_fitsIn {s t : IntType} {i : Int} (h : s.Contains i) (hst : s.FitsIn t) :
    t.Contains i :=
  ⟨Int.le_trans hst.1 h.1, Int.le_trans h.2 hst.2⟩

/-- The SQL name of the type. -/
def name : IntType → String
  | ⟨true, .w8⟩ => "TINYINT"
  | ⟨false, .w8⟩ => "UTINYINT"
  | ⟨true, .w16⟩ => "SMALLINT"
  | ⟨false, .w16⟩ => "USMALLINT"
  | ⟨true, .w32⟩ => "INTEGER"
  | ⟨false, .w32⟩ => "UINTEGER"
  | ⟨true, .w64⟩ => "BIGINT"
  | ⟨false, .w64⟩ => "UBIGINT"

end IntType

/-! ### All types -/

/-- The type of a parameter, a column or an expression. -/
inductive SqlType where
  | invalid
  | unknown
  | null
  | boolean
  | integer (type : IntType)
  | float
  | double
  | varchar
  deriving Repr, DecidableEq

namespace SqlType

/-- Signed integers of 8 bits. -/
abbrev tinyint : SqlType := .integer ⟨true, .w8⟩

/-- Unsigned integers of 8 bits. -/
abbrev utinyint : SqlType := .integer ⟨false, .w8⟩

/-- Signed integers of 16 bits. -/
abbrev smallint : SqlType := .integer ⟨true, .w16⟩

/-- Unsigned integers of 16 bits. -/
abbrev usmallint : SqlType := .integer ⟨false, .w16⟩

/-- Signed integers of 32 bits. -/
abbrev int : SqlType := .integer ⟨true, .w32⟩

/-- Unsigned integers of 32 bits. -/
abbrev uint : SqlType := .integer ⟨false, .w32⟩

/-- Signed integers of 64 bits. -/
abbrev bigint : SqlType := .integer ⟨true, .w64⟩

/-- Unsigned integers of 64 bits. -/
abbrev ubigint : SqlType := .integer ⟨false, .w64⟩

/-- The SQL name of the type. -/
def name : SqlType → String
  | invalid => "INVALID"
  | unknown => "UNKNOWN"
  | null => "NULL"
  | boolean => "BOOLEAN"
  | integer t => t.name
  | float => "FLOAT"
  | double => "DOUBLE"
  | varchar => "VARCHAR"

instance : ToString SqlType := ⟨name⟩

/-- Every type, from the undecided ones to text. -/
def all : List SqlType :=
  [invalid, unknown, null, boolean, tinyint, utinyint, smallint, usmallint, int, uint, bigint,
    ubigint, float, double, varchar]

/-- No type is missing from the list. -/
theorem mem_all (t : SqlType) : t ∈ all := by
  match t with
  | invalid | unknown | null | boolean | float | double | varchar => decide
  | integer ⟨true, w⟩ => cases w <;> decide
  | integer ⟨false, w⟩ => cases w <;> decide

/-- What holds of all types is found out by going through them. -/
instance {p : SqlType → Prop} [DecidablePred p] : Decidable (∀ t, p t) :=
  decidable_of_iff (all.all (decide <| p ·) = true) <|
    List.all_eq_true.trans ⟨fun h t => of_decide_eq_true (h t (mem_all t)),
      fun h t _ => decide_eq_true (h t)⟩

/-- Whether the type is one that a value can have. -/
def isResolved : SqlType → Bool
  | invalid => false
  | unknown => false
  | _ => true

/-- Whether the type is one of signed integers. -/
def isSigned : SqlType → Bool
  | integer t => t.signed
  | _ => false

/-- Whether the type is one of unsigned integers. -/
def isUnsigned : SqlType → Bool
  | integer t => !t.signed
  | _ => false

/-- Whether the type is one of integers. -/
def isIntegral : SqlType → Bool
  | integer _ => true
  | _ => false

/-- Whether the type is one of numbers. -/
def isNumeric : SqlType → Bool
  | integer _ => true
  | float => true
  | double => true
  | _ => false

theorem isIntegral_eq_signed_or_unsigned (t : SqlType) :
    t.isIntegral = (t.isSigned || t.isUnsigned) := by
  cases t <;> simp [isIntegral, isSigned, isUnsigned]

end SqlType

end Prepared
