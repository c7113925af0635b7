import Prepared.Proofs.Value.Integer

/-!
# Texts that are read as integers

A text is read as an integer if it is a numeral, which is a row of decimal digits behind a sign or
without one (`Text.Numeral`), with or without white space around it. There may be any number of
digits, but the integer is put together in 128 bits before the range of the type is looked at: a
numeral beyond these is refused as if it were none. `Value.parsesExactly_iff` says that nothing else
is wrong.
-/

namespace Prepared

namespace Text

/-! ## Numerals -/

/-- One or more decimal digits. -/
structure IsDigits (s : List Char) : Prop where
  ne_nil : s ≠ []
  decimal : ∀ c ∈ s, c.isDigit = true

/-- The natural that a row of digits stands for: each counts as often as the power of ten of its
place. -/
def placeValue : List Char → Nat
  | [] => 0
  | c :: s => (c.toNat - '0'.toNat) * 10 ^ s.length + placeValue s

/-- The text is a row of digits, behind a sign or without one, and stands for the integer. -/
inductive Numeral : List Char → Int → Prop where
  | unsigned {s} (hs : IsDigits s) : Numeral s (placeValue s)
  | plus {s} (hs : IsDigits s) : Numeral ('+' :: s) (placeValue s)
  | minus {s} (hs : IsDigits s) : Numeral ('-' :: s) (-(placeValue s : Int))

theorem ofDigitChars_eq_placeValue (s : List Char) : Nat.ofDigitChars 10 s 0 = placeValue s := by
  induction s with
  | nil => rfl
  | cons c s ih =>
    rw [Nat.ofDigitChars_cons, Nat.ofDigitChars_eq_ofDigitChars_zero, ih, placeValue, Nat.mul_zero,
      Nat.zero_add, Nat.mul_comm]

theorem readNat?_iff_isDigits {s : List Char} {n : Nat} :
    readNat? s = some n ↔ IsDigits s ∧ placeValue s = n := by
  rw [readNat?_eq_some_iff, ofDigitChars_eq_placeValue]
  exact ⟨fun ⟨hne, hs, hn⟩ => ⟨⟨hne, hs⟩, hn⟩, fun ⟨⟨hne, hs⟩, hn⟩ => ⟨hne, hs, hn⟩⟩

theorem readNat?_of_isDigits {s : List Char} (hs : IsDigits s) : readNat? s = some (placeValue s) :=
  readNat?_iff_isDigits.2 ⟨hs, rfl⟩

/-- **Reading an integer.** Numerals are read, as what they stand for, and nothing else is. -/
theorem readInt?_eq_some_iff {s : List Char} {i : Int} : readInt? s = some i ↔ Numeral s i := by
  constructor
  · intro h
    unfold readInt? at h
    split at h
    all_goals
      simp only [Option.map_eq_some_iff, Option.bind_eq_bind, Option.bind_eq_some_iff, Option.pure_def,
        Option.some.injEq, exists_exists_and_eq_and] at h
      obtain ⟨n, hn, rfl⟩ := h
      obtain ⟨hs, rfl⟩ := readNat?_iff_isDigits.1 hn
    · exact .minus hs
    · exact .plus hs
    · exact .unsigned hs
  · intro h
    cases h with
    | unsigned hs => rw [readInt?_of_digits hs.decimal, readNat?_of_isDigits hs]; rfl
    | plus hs => rw [readInt?, readNat?_of_isDigits hs]; rfl
    | minus hs => rw [readInt?, readNat?_of_isDigits hs]; rfl

/-- There is no white space in a numeral. -/
theorem Numeral.trimChars {s : List Char} {i : Int} (h : Numeral s i) : trimChars s = s := by
  refine trimChars_of_not_blank fun c hc => ?_
  cases h with
  | unsigned hs => exact isBlank_of_isDigit (hs.decimal c hc)
  | plus hs =>
    rcases List.mem_cons.1 hc with rfl | hc
    · decide
    · exact isBlank_of_isDigit (hs.decimal c hc)
  | minus hs =>
    rcases List.mem_cons.1 hc with rfl | hc
    · decide
    · exact isBlank_of_isDigit (hs.decimal c hc)

/-- The written form of an integer is a numeral. -/
theorem numeral_toString (i : Int) : Numeral (toString i).toList i :=
  readInt?_eq_some_iff.1 (readInt?_toString i)

end Text

open Text

namespace Value

/-! ## Reading a text as an integer -/

variable {s : String} {t : IntType} {word : List Char} {i : Int}

/-- A numeral of up to 128 bits is the integer, or out of range. -/
theorem parse_of_numeral (hword : Trimmed s.toList word) (hi : Numeral word i)
    (hwide : widestMin ≤ i ∧ i ≤ widestMax) : parse s (.integer t) = ofInt t i := by
  refine parse_of_read ?_ hwide
  rw [toList_trim, trimChars_eq_iff.2 hword]
  exact readInt?_eq_some_iff.2 hi

/-- Any other text is malformed. -/
theorem parse_of_not_numeral (hword : Trimmed s.toList word)
    (hnone : ∀ i, Numeral word i → ¬(widestMin ≤ i ∧ i ≤ widestMax)) :
    parse s (.integer t) = .error (.invalidSyntax (.integer t) s) := by
  refine parse_of_not_read fun i hi => hnone i ?_
  rw [toList_trim, trimChars_eq_iff.2 hword] at hi
  exact readInt?_eq_some_iff.1 hi

/-- What reading a text as an integer of the type `t` should give, whatever the size of the
integer. -/
structure ParsesExactly (s : String) (t : IntType) : Prop where
  /-- A numeral in the range of the type is the integer that it stands for. -/
  inside : ∀ word i, Trimmed s.toList word → Numeral word i →
    ∀ h : t.Contains i, parse s (.integer t) = .ok (.datum (.integer t i h))
  /-- One beyond the range is refused for this reason. -/
  outside : ∀ word i, Trimmed s.toList word → Numeral word i → ¬t.Contains i →
    ∃ text, parse s (.integer t) = .error (.outOfRange (.integer t) text)
  /-- What is no numeral is refused as malformed, with the whole text. -/
  malformed : ∀ word, Trimmed s.toList word → (∀ i, ¬Numeral word i) →
    parse s (.integer t) = .error (.invalidSyntax (.integer t) s)

/-- **Reading integers.** A text is read as it should be exactly if it is no numeral of more than 128
bits. Such a numeral is refused as malformed, with the whole text, though it is not. -/
theorem parsesExactly_iff (s : String) (t : IntType) :
    (ParsesExactly s t ↔ ∀ word i, Trimmed s.toList word → Numeral word i →
        widestMin ≤ i ∧ i ≤ widestMax)
      ∧ ∀ word i, Trimmed s.toList word → Numeral word i → ¬(widestMin ≤ i ∧ i ≤ widestMax) →
        parse s (.integer t) = .error (.invalidSyntax (.integer t) s) := by
  have hbeyond : ∀ word i, Trimmed s.toList word → Numeral word i →
      ¬(widestMin ≤ i ∧ i ≤ widestMax) →
      parse s (.integer t) = .error (.invalidSyntax (.integer t) s) := by
    intro word i hword hi hwide
    refine parse_of_not_numeral hword fun j hj => ?_
    -- a text is a numeral for one integer only
    obtain rfl : i = j :=
      Option.some.inj ((readInt?_eq_some_iff.2 hi).symm.trans (readInt?_eq_some_iff.2 hj))
    exact hwide
  refine ⟨⟨fun h word i hword hi => ?_, fun h => ⟨?_, ?_, ?_⟩⟩, hbeyond⟩
  · -- beyond 128 bits no type holds the integer, and the error is not the right one
    by_contra hwide
    have hout : ¬t.Contains i := fun hin => hwide (IntType.contains_widest hin)
    obtain ⟨text, htext⟩ := h.outside word i hword hi hout
    rw [hbeyond word i hword hi hwide] at htext
    cases htext
  · intro word i hword hi hin
    rw [parse_of_numeral hword hi (h word i hword hi), ofInt_of_contains hin]
  · intro word i hword hi hout
    refine ⟨toString i, ?_⟩
    rw [parse_of_numeral hword hi (h word i hword hi), ofInt_of_not_contains hout]
  · intro word hword hnone
    exact parse_of_not_numeral hword fun i hi => absurd hi (hnone i)

/-! ### A numeral that is refused as malformed -/

/-- The numeral of `2 ^ 127`, one more than 128 bits hold, between spaces. -/
def beyondWidest : String := " 170141183460469231731687303715884105728 "

theorem trimmed_beyondWidest :
    Trimmed beyondWidest.toList "170141183460469231731687303715884105728".toList :=
  trimChars_eq_iff.1 (by decide +kernel)

theorem numeral_beyondWidest :
    Numeral "170141183460469231731687303715884105728".toList (widestMax + 1) :=
  readInt?_eq_some_iff.1 (by decide +kernel)

/-- It is called malformed, whatever the type. -/
theorem parsesExactly_iff_beyondWidest :
    Trimmed beyondWidest.toList "170141183460469231731687303715884105728".toList
      ∧ Numeral "170141183460469231731687303715884105728".toList (widestMax + 1)
      ∧ ¬(widestMin ≤ widestMax + 1 ∧ widestMax + 1 ≤ widestMax)
      ∧ parse beyondWidest (.integer ⟨true, .w64⟩)
        = .error (.invalidSyntax (.integer ⟨true, .w64⟩) beyondWidest) := by
  have hwide : ¬(widestMin ≤ widestMax + 1 ∧ widestMax + 1 ≤ widestMax) := by omega
  exact ⟨trimmed_beyondWidest, numeral_beyondWidest, hwide,
    (parsesExactly_iff beyondWidest ⟨true, .w64⟩).2 _ _ trimmed_beyondWidest numeral_beyondWidest hwide⟩

/-- So it is not read as it should be: it is out of the range of every type. -/
theorem not_parsesExactly_beyondWidest : ¬ParsesExactly beyondWidest ⟨true, .w64⟩ := by
  intro h
  obtain ⟨text, htext⟩ :=
    h.outside _ _ trimmed_beyondWidest numeral_beyondWidest (by decide)
  have hparse : parse beyondWidest (.integer ⟨true, .w64⟩)
      = .error (.invalidSyntax (.integer ⟨true, .w64⟩) beyondWidest) := by decide +kernel
  rw [hparse] at htext
  cases htext

end Value

end Prepared
