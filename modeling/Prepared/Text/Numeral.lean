/-!
# Decimal numerals

Reading whole numbers from text and back. `readInt?_toString` says that the written form of an
integer reads as that integer.
-/

namespace Prepared.Text

/-- The number that a non-empty row of decimal digits stands for. -/
def readNat? (s : List Char) : Option Nat :=
  if s.isEmpty || !s.all Char.isDigit then none else some (Nat.ofDigitChars 10 s 0)

/-- The number that a row of decimal digits after an optional sign stands for. -/
def readInt? : List Char → Option Int
  | '-' :: s => (readNat? s).map fun n => -(n : Int)
  | '+' :: s => (readNat? s).map fun n => (n : Int)
  | s => (readNat? s).map fun n => (n : Int)

theorem readNat?_eq_some_iff {s : List Char} {n : Nat} :
    readNat? s = some n ↔ s ≠ [] ∧ (∀ c ∈ s, c.isDigit = true) ∧ Nat.ofDigitChars 10 s 0 = n := by
  by_cases h : s = [] <;> by_cases hd : ∀ c ∈ s, c.isDigit = true <;> simp [readNat?, h, hd]

/-- The digits of a number read as that number. -/
theorem readNat?_toDigits (n : Nat) : readNat? (Nat.toDigits 10 n) = some n := by
  refine readNat?_eq_some_iff.2 ⟨Nat.toDigits_ne_nil, fun c hc => ?_, ?_⟩
  · exact Nat.isDigit_of_mem_toDigits (by decide) (by decide) hc
  · exact Nat.ofDigitChars_ten_toDigits

/-- A row of digits has no sign in front. -/
theorem readInt?_of_digits {s : List Char} (h : ∀ c ∈ s, c.isDigit = true) :
    readInt? s = (readNat? s).map fun n => (n : Int) := by
  unfold readInt?
  split
  · exact absurd (h '-' (by simp)) (by decide)
  · exact absurd (h '+' (by simp)) (by decide)
  · rfl

/-- The written form of an integer reads as that integer. -/
theorem readInt?_toString (i : Int) : readInt? (toString i).toList = some i := by
  cases i with
  | ofNat n =>
    have h : (toString (Int.ofNat n)).toList = Nat.toDigits 10 n := by
      change (Nat.repr n).toList = _
      simp [Nat.repr_eq_ofList_toDigits]
    rw [h, readInt?_of_digits fun c hc => Nat.isDigit_of_mem_toDigits (by decide) (by decide) hc,
      readNat?_toDigits]
    rfl
  | negSucc n =>
    have h : (toString (Int.negSucc n)).toList = '-' :: Nat.toDigits 10 (n + 1) := by
      change ("-" ++ Nat.repr (n + 1)).toList = _
      simp [Nat.repr_eq_ofList_toDigits]
    rw [h, readInt?, readNat?_toDigits]
    rfl

end Prepared.Text
