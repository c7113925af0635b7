import Mathlib.Data.List.TakeWhile
import Prepared.Proofs.Number.Nearest
import Prepared.Proofs.Text.Trimming
import Prepared.Value.Literal

/-!
# Written integers and their casts

A whole number in a text is a row of digits, behind a sign or without one. This module says which
value such a text is as a number (`ofNumber_of_contains`, `ofNumber_of_not_contains`) and what casts
to an integer type make of an integer, of a floating point number and of a text.
-/

namespace Prepared

open Number

/-! ## Reading digits -/

namespace Text

/-- The code points of the digits. -/
theorem toNat_of_isDigit {c : Char} (h : c.isDigit = true) : 48 ≤ c.toNat ∧ c.toNat ≤ 57 := by
  simp only [Char.isDigit, ge_iff_le, Bool.and_eq_true, decide_eq_true_eq,
    UInt32.le_iff_toNat_le] at h
  exact h

/-- A digit is no white space. -/
theorem isBlank_of_isDigit {c : Char} (h : c.isDigit = true) : isBlank c = false := by
  have hc := toNat_of_isDigit h
  unfold isBlank
  rw [Bool.eq_false_iff, Ne, CharSet.contains_iff]
  rintro ⟨r, hr, hlow, hhigh⟩
  simp only [whiteSpace, List.mem_cons, List.not_mem_nil, or_false] at hr
  rcases hr with rfl | rfl | rfl | rfl | rfl | rfl | rfl | rfl | rfl | rfl <;> simp only at * <;>
    omega

end Text

namespace Number

/-- Digits alone are read as the number nearest to the natural that they stand for. -/
theorem readMagnitude?_digits {f : Format} {s : List Char} {n : Nat} (negative : Bool)
    (hs : ∀ c ∈ s, c.isDigit = true) (hn : Text.readNat? s = some n) :
    (readMagnitude? negative s : Option (Binary f)) = some (Binary.ofDecimal negative n 0) := by
  have hne : s ≠ [] := (Text.readNat?_eq_some_iff.1 hn).1
  -- no word begins with a digit
  have hword : ∀ {word : String} (c : Char), word.toList.head? = some c → c.isDigit = false →
      String.ofList (s.map Char.toLower) ≠ word := by
    intro word c hw hc heq
    obtain ⟨d, t, rfl⟩ := List.exists_cons_of_ne_nil hne
    have hd : d.isDigit = true := hs d List.mem_cons_self
    have hlower : d.toLower = d := by
      have hrange := Text.toNat_of_isDigit hd
      unfold Char.toLower
      rw [dif_neg]
      intro h
      have hupper : (65 : UInt32).toNat ≤ d.toNat := UInt32.le_iff_toNat_le.1 h.1
      have : (65 : UInt32).toNat = 65 := rfl
      omega
    have hlist := congrArg String.toList heq
    rw [String.toList_ofList, List.map_cons, hlower] at hlist
    rw [← hlist, List.head?_cons, Option.some.injEq] at hw
    rw [← hw, hd] at hc
    exact Bool.noConfusion hc
  have htake : s.takeWhile Char.isDigit = s := List.takeWhile_eq_self_iff.2 hs
  have hdrop : s.dropWhile Char.isDigit = [] := List.dropWhile_eq_nil_iff.2 hs
  unfold readMagnitude?
  simp only
  rw [if_neg (hword 'n' rfl (by decide)),
    if_neg (not_or.2 ⟨hword 'i' rfl (by decide), hword 'i' rfl (by decide)⟩)]
  unfold readUnsigned?
  simp [htake, hdrop, hn, readExponent?]

/-- A natural with an exponent of zero is rounded like a quotient, unless it has so many digits that
it is infinite in any case. -/
theorem ofDecimal_zero {f : Format} (negative : Bool) {n : Nat} (hn : n ≠ 0) :
    ((Binary.ofDecimal negative n 0 : Binary f) = .infinite negative ∧ 10 ^ 100 ≤ n)
      ∨ (Binary.ofDecimal negative n 0 : Binary f) = Binary.ofRatio negative n 1 := by
  unfold Binary.ofDecimal
  simp only [hn, if_false, Int.zero_add]
  split
  · rename_i hlong
    refine Or.inl ⟨rfl, ?_⟩
    -- more than a hundred digits make at least the hundredth power of ten
    have hdigits : ¬(Nat.toDigits 10 n).length ≤ 100 := by omega
    rw [Nat.length_toDigits_le_iff (by decide) (by decide)] at hdigits
    exact Nat.not_lt.1 hdigits
  · right
    rw [if_neg (by omega), if_pos (by decide)]
    simp

end Number

/-! ## Casts to integer types -/

/-- The value of an integer type that stands for `i`. -/
def Value.ofInt (t : IntType) (i : Int) : Except TypeError Value :=
  Value.datum <$> Datum.ofInt t i

theorem Value.ofInt_of_contains {t : IntType} {i : Int} (h : t.Contains i) :
    Value.ofInt t i = .ok (.datum (.integer t i h)) := by
  unfold Value.ofInt
  rw [Datum.ofInt_of_contains h]
  rfl

theorem Value.ofInt_of_not_contains {t : IntType} {i : Int} (h : ¬t.Contains i) :
    Value.ofInt t i = .error (.outOfRange (.integer t) (toString i)) := by
  unfold Value.ofInt Datum.ofInt
  rw [dif_neg h]
  rfl

/-- An integer stays the same in a type that holds it. -/
theorem Value.castTo_integer {s t : IntType} {i : Int} (h : s.Contains i) :
    (Value.datum (.integer s i h)).castTo (.integer t) = Value.ofInt t i := by
  by_cases hst : s = t
  · subst hst
    rw [Value.ofInt_of_contains h]
    exact Value.castTo_self _
  · have hne : ¬(Value.datum (.integer s i h)).type = .integer t := by
      simpa [Value.type, Datum.type] using hst
    unfold Value.castTo
    rw [if_neg hne]
    rfl

/-- A floating point number becomes the nearest integer, if the type holds it. -/
theorem Value.castTo_double {t : IntType} (x : Number.Binary .double) :
    (Value.datum (.double x)).castTo (.integer t)
      = match x.round? with
        | some j => Value.ofInt t (clampWidest j)
        | none => .error (.outOfRange (.integer t) x.text) := by
  have hne : ¬(Value.datum (.double x)).type = .integer t := by
    simp [Value.type, Datum.type]
  unfold Value.castTo
  rw [if_neg hne]
  simp only [Datum.castTo, Datum.type, SqlType.isNumeric, Bool.and_self, if_true, Datum.convert,
    Datum.toInt?, Datum.render]
  cases x.round? with
  | none => rfl
  | some j => rfl

theorem IntType.contains_widest {t : IntType} {i : Int} (h : t.Contains i) :
    widestMin ≤ i ∧ i ≤ widestMax := by
  obtain ⟨hlow, hhigh⟩ := h
  obtain ⟨signed, width⟩ := t
  cases signed <;> cases width <;>
    simp only [IntType.min, IntType.max, Width.bits, if_true, if_false, Bool.false_eq_true]
      at hlow hhigh <;>
    simp only [widestMin, widestMax] <;> omega

/-! ### Texts -/

/-- A cast of a text to an integer type reads it. -/
theorem Value.castTo_text_integer (s : String) (t : IntType) :
    (Value.datum (.text s)).castTo (.integer t) = Value.parse s (.integer t) := by
  have hne : ¬(Value.datum (.text s)).type = .integer t := by
    simp [Value.type, Datum.type]
  unfold Value.castTo
  rw [if_neg hne]
  rfl

/-- A text that is read as an integer of the widest range becomes that integer, if the type holds
it. -/
theorem Value.parse_of_read {s : String} {t : IntType} {i : Int}
    (h : Text.readInt? (Text.trim s).toList = some i) (hwide : widestMin ≤ i ∧ i ≤ widestMax) :
    Value.parse s (.integer t) = Value.ofInt t i := by
  have hread : readWidest? (Text.trim s) = some i := by
    unfold readWidest?
    rw [h, Option.filter_some, if_pos (decide_eq_true hwide)]
  unfold Value.parse Datum.parse
  simp only [hread]
  rfl

/-- Any other text is no integer at all. -/
theorem Value.parse_of_not_read {s : String} {t : IntType}
    (h : ∀ i, Text.readInt? (Text.trim s).toList = some i → ¬(widestMin ≤ i ∧ i ≤ widestMax)) :
    Value.parse s (.integer t) = .error (.invalidSyntax (.integer t) s) := by
  have hread : readWidest? (Text.trim s) = none := by
    unfold readWidest?
    refine Option.filter_eq_none_iff.2 fun i hi => ?_
    rw [decide_eq_true_eq]
    exact h i hi
  unfold Value.parse Datum.parse
  simp only [hread]
  rfl

/-- A text that is read as the integer `i` becomes `i`, and one that is out of the range of the type
becomes nothing. -/
theorem Value.castTo_text {t : IntType} {s : String} {i : Int}
    (h : Text.readInt? (Text.trim s).toList = some i) :
    ((Value.datum (.text s)).castTo (.integer t)).toOption = (Value.ofInt t i).toOption := by
  rw [Value.castTo_text_integer]
  by_cases hwide : widestMin ≤ i ∧ i ≤ widestMax
  · rw [Value.parse_of_read h hwide]
  · have hc : ¬t.Contains i := fun hc => hwide (IntType.contains_widest hc)
    rw [Value.ofInt_of_not_contains hc, Value.parse_of_not_read]
    · rfl
    · intro j hj
      obtain rfl : i = j := Option.some.inj (h.symm.trans hj)
      exact hwide

/-! ## The value of a number -/

/-- Signed integers of 64 bits, in which a number without a fraction is read first. -/
abbrev IntType.signed64 : IntType := ⟨true, .w64⟩

/-- A number in the range of 64 bits is that integer. -/
theorem Value.ofNumber_of_contains {s : String} {i : Int} (h : Text.readInt? s.toList = some i)
    (hi : IntType.signed64.Contains i) :
    ∃ (t : IntType) (ht : t.Contains i), Value.ofNumber s = .ok (.datum (.integer t i ht)) := by
  unfold Value.ofNumber
  simp only [h, Option.bind_some]
  by_cases h32 : (⟨true, .w32⟩ : IntType).Contains i
  · exact ⟨⟨true, .w32⟩, h32, by rw [dif_pos h32]; rfl⟩
  · exact ⟨IntType.signed64, hi, by rw [dif_neg h32, dif_pos hi]; rfl⟩

/-- A number beyond 64 bits is the floating point number nearest to it. -/
theorem Value.ofNumber_of_not_contains {s : String} {i : Int} {x : Number.Binary .double}
    (h : Text.readInt? s.toList = some i) (hi : ¬IntType.signed64.Contains i)
    (hx : Number.Binary.read? s = some x) : Value.ofNumber s = .ok (.datum (.double x)) := by
  have h32 : ¬(⟨true, .w32⟩ : IntType).Contains i := by
    intro h32
    exact hi (h32.of_fitsIn (by decide))
  unfold Value.ofNumber
  simp only [h, Option.bind_some, hx]
  rw [dif_neg h32, dif_neg hi]
  rfl

end Prepared
