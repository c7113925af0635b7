import Prepared.SqlType.Error

/-!
# Implicit casts and common types

Which type may stand for which other one is written down type by type (`widenings`), and so is what
becomes of an unsigned and a signed type of which neither holds the other (`mixSigns`). Both tables
follow from the ranges of the integers: an implicit cast between integer types is one to a type that
holds all of them (`integer_implicitlyCasts_iff`), and two types of different sign are brought to the
signed type of twice the unsigned width, or to floating point beyond 64 bits (`mixSigns_eq`).
-/

namespace Prepared.SqlType

/-! ### Implicit casts -/

/-- The types that integers of a type may stand for, besides the type itself. -/
def widenings : IntType → List SqlType
  | ⟨true, .w8⟩ => [smallint, int, bigint, float, double]
  | ⟨false, .w8⟩ => [usmallint, uint, ubigint, smallint, int, bigint, float, double]
  | ⟨true, .w16⟩ => [int, bigint, float, double]
  | ⟨false, .w16⟩ => [uint, ubigint, int, bigint, float, double]
  | ⟨true, .w32⟩ => [bigint, float, double]
  | ⟨false, .w32⟩ => [ubigint, bigint, float, double]
  | ⟨true, .w64⟩ => [float, double]
  | ⟨false, .w64⟩ => [float, double]

/-- Whether an expression of type `source` can stand for one of type `target` without a cast in the
text. -/
def implicitlyCasts (source target : SqlType) : Bool :=
  source = target || match source with
    | invalid => false
    | unknown => true
    | null => true
    | boolean => false
    | integer t => (widenings t).contains target
    | float => target = double
    | double => false
    | varchar => false

@[simp]
theorem implicitlyCasts_self (t : SqlType) : t.implicitlyCasts t = true := by
  simp [implicitlyCasts]

/-- Between integer types an implicit cast is one to a type that holds all its integers: no cell of
the table is missing or wrong. -/
theorem integer_implicitlyCasts_iff {s t : IntType} :
    (integer s).implicitlyCasts (integer t) = true ↔ s.FitsIn t := by
  obtain ⟨signed, width⟩ := s
  obtain ⟨signed', width'⟩ := t
  cases signed <;> cases width <;> cases signed' <;> cases width' <;> decide

/-! ### Two numeric types -/

/-- The common type of an unsigned type and a signed type, by their widths, if neither casts to the
other. -/
def mixSigns (unsigned signed : Width) : SqlType :=
  match unsigned, signed with
  | .w64, _ => double
  | _, .w64 => double
  | .w32, _ => bigint
  | _, .w32 => bigint
  | .w16, _ => int
  | _, .w16 => int
  | .w8, .w8 => smallint

/-- The common type of two numeric types. There always is one, as types of which neither casts to the
other have different signs (`isSome_combineNumeric`). -/
def combineNumeric (left right : SqlType) : Option SqlType :=
  if left.implicitlyCasts right then some right
  else if right.implicitlyCasts left then some left
  else match left, right with
    | integer ⟨false, u⟩, integer ⟨true, s⟩ => some (mixSigns u s)
    | integer ⟨true, s⟩, integer ⟨false, u⟩ => some (mixSigns u s)
    | _, _ => none

/-- Numeric types of which neither casts to the other have different signs. -/
theorem isSome_combineNumeric {t u : SqlType} (ht : t.isNumeric = true) (hu : u.isNumeric = true) :
    (combineNumeric t u).isSome = true := by
  revert t u
  decide

/-- The signed type whose integers include those of an unsigned type of the given width, or floating
point numbers if there is none. -/
def signedAbove (w : Width) : SqlType :=
  match w.double? with
  | some w => integer ⟨true, w⟩
  | none => double

/-- Two types of different sign are brought to the signed type above the unsigned one, unless one of
them casts to the other. -/
theorem mixSigns_eq {u s : Width} (h : ¬IntType.FitsIn ⟨false, u⟩ ⟨true, s⟩) :
    mixSigns u s = signedAbove u := by
  revert h
  cases u <;> cases s <;> decide

/-! ### Any two types -/

/-- The type to which values of both types can be brought. An untyped null and an undecided type
adapt to the other one; apart from equal types, only numbers have a common type. -/
def common (left right : SqlType) : Except TypeError SqlType :=
  if left = right then .ok left
  else if left = null ∨ left = unknown then .ok right
  else if right = null ∨ right = unknown then .ok left
  else if left.isNumeric && right.isNumeric then
    match combineNumeric left right with
    | some t => .ok t
    | none => .error (.incomparable left right)
  else .error (.incomparable left right)

@[simp]
theorem common_self (t : SqlType) : common t t = .ok t := by
  simp [common]

end Prepared.SqlType
