import Mathlib.Data.Nat.Log
import Mathlib.Tactic.Ring
import Prepared.Number.Binary

/-!
# The binary number nearest to a large natural

A natural with more binary digits than a significand has is rounded to a multiple of a power of two,
its *unit*: the power that leaves as many digits as a significand has. `round?_ofRatio_one` says that
this multiple, `nearestMultiple`, is what the conversion of the natural stands for, unless it is
infinite; the lemmas after it bound the multiple by the powers of two around the natural.
-/

namespace Prepared.Number

/-! ## Rounding a quotient -/

/-- Rounding a quotient gives the whole number below it or the one above. -/
theorem roundHalfEven_bounds (n d : Nat) :
    n / d ≤ roundHalfEven n d ∧ roundHalfEven n d ≤ n / d + 1 := by
  unfold roundHalfEven
  dsimp only
  split
  · omega
  · split
    · omega
    · split <;> omega

/-! ## The unit of a natural -/

/-- The exponent of the unit to which a natural with at least `p` binary digits is rounded when
`p` digits are kept. -/
def unitExponent (p n : Nat) : Nat :=
  n.log2 + 1 - p

/-- The multiple of the unit nearest to a natural. -/
def nearestMultiple (p n : Nat) : Nat :=
  roundHalfEven n (2 ^ unitExponent p n) * 2 ^ unitExponent p n

theorem ne_zero_of_two_pow_le {p n : Nat} (h : 2 ^ p ≤ n) : n ≠ 0 := by
  have hpos : 0 < 2 ^ p := Nat.two_pow_pos p
  omega

theorem pow_le_log2 {p n : Nat} (h : 2 ^ p ≤ n) : p ≤ n.log2 :=
  (Nat.le_log2 (ne_zero_of_two_pow_le h)).2 h

/-- The leading digit of a natural, counted in units. -/
theorem two_pow_log2 {p n : Nat} (hp : 0 < p) (h : 2 ^ p ≤ n) :
    2 ^ n.log2 = 2 ^ (p - 1) * 2 ^ unitExponent p n := by
  have hlog : p ≤ n.log2 := pow_le_log2 h
  rw [← Nat.pow_add]
  congr 1
  unfold unitExponent
  omega

/-- Over its unit a natural has exactly `p` binary digits. -/
theorem div_unit_bounds {p n : Nat} (hp : 0 < p) (h : 2 ^ p ≤ n) :
    2 ^ (p - 1) ≤ n / 2 ^ unitExponent p n ∧ n / 2 ^ unitExponent p n < 2 ^ p := by
  have hlow : 2 ^ n.log2 ≤ n := Nat.log2_self_le (ne_zero_of_two_pow_le h)
  have hhigh : n < 2 ^ (n.log2 + 1) := Nat.lt_log2_self
  have hnext : 2 ^ (n.log2 + 1) = 2 ^ p * 2 ^ unitExponent p n := by
    have hlog : p ≤ n.log2 := pow_le_log2 h
    rw [← Nat.pow_add]
    congr 1
    unfold unitExponent
    omega
  constructor
  · rw [Nat.le_div_iff_mul_le (Nat.two_pow_pos _), ← two_pow_log2 hp h]
    exact hlow
  · rw [Nat.div_lt_iff_lt_mul (Nat.two_pow_pos _), ← hnext]
    exact hhigh

/-! ## Bounds by powers of two -/

/-- Rounding does not fall below a power of two. -/
theorem two_pow_le_nearestMultiple {p n k : Nat} (hp : 0 < p) (hk : p ≤ k) (h : 2 ^ k ≤ n) :
    2 ^ k ≤ nearestMultiple p n := by
  have hpn : 2 ^ p ≤ n := le_trans (Nat.pow_le_pow_right (by decide) hk) h
  have hlog : k ≤ n.log2 := pow_le_log2 h
  have hq : 2 ^ (p - 1) ≤ roundHalfEven n (2 ^ unitExponent p n) :=
    le_trans (div_unit_bounds hp hpn).1 (roundHalfEven_bounds _ _).1
  calc 2 ^ k ≤ 2 ^ n.log2 := Nat.pow_le_pow_right (by decide) hlog
    _ = 2 ^ (p - 1) * 2 ^ unitExponent p n := two_pow_log2 hp hpn
    _ ≤ nearestMultiple p n := Nat.mul_le_mul_right _ hq

/-- Between two neighbouring powers of two the unit is the same. -/
theorem unitExponent_eq {p n k : Nat} (hlow : 2 ^ k ≤ n) (hhigh : n < 2 ^ (k + 1)) :
    unitExponent p n = k + 1 - p := by
  have hlog : n.log2 = k := (Nat.log2_eq_iff (ne_zero_of_two_pow_le hlow)).2 ⟨hlow, hhigh⟩
  unfold unitExponent
  rw [hlog]

/-! ## What the conversion of a natural stands for -/

namespace Binary

variable {f : Format}

/-- The exponent of the number nearest to a natural is that of the unit. -/
theorem leadingExponent_one {n : Nat} (hmin : f.minExponent ≤ 0) (h : 2 ^ f.precision ≤ n) :
    leadingExponent f n 1 = (unitExponent f.precision n : Int) := by
  have hlog : f.precision ≤ n.log2 := pow_le_log2 h
  have hn : n ≠ 0 := ne_zero_of_two_pow_le h
  have hguess : (n.log2 : Int) - (Nat.log2 1 : Nat) - f.precision
      = ((n.log2 - f.precision : Nat) : Int) := by
    have : Nat.log2 1 = 0 := by decide
    rw [this]
    omega
  -- one digit less over the unit would leave one digit too many
  have hmany : ¬ n / 2 ^ (n.log2 - f.precision) < 2 ^ f.precision := by
    rw [Nat.not_lt, Nat.le_div_iff_mul_le (Nat.two_pow_pos _), ← Nat.pow_add,
      Nat.add_sub_cancel' hlog]
    exact Nat.log2_self_le hn
  unfold leadingExponent
  rw [hguess]
  simp only [scaleDown, Int.natCast_nonneg, if_true, Int.toNat_natCast, Nat.one_mul, hmany, if_false]
  unfold unitExponent
  omega

/-- A number with an exponent that is not negative is whole. -/
theorem round?_finite (negative : Bool) (m e : Nat) :
    (finite negative m e : Binary f).round?
      = some (if negative then -((m * 2 ^ e : Nat) : Int) else ((m * 2 ^ e : Nat) : Int)) := by
  simp only [round?, Int.natCast_nonneg, if_true, Int.toNat_natCast]

/-- Where a significand has carried into one more digit, halving it and raising the exponent leaves
the number the same. Only a large exponent makes the number infinite. -/
theorem round?_assemble (negative : Bool) (m e : Nat) (hp : 0 < f.precision) :
    ((assemble negative m e : Binary f).round? = none ∧ f.maxExponent ≤ e)
      ∨ (assemble negative m e : Binary f).round?
        = some (if negative then -((m * 2 ^ e : Nat) : Int) else ((m * 2 ^ e : Nat) : Int)) := by
  by_cases hm : m = 2 ^ f.precision
  · -- the carry: half the significand with the next exponent is the same number
    have hhalf : m / 2 * 2 ^ (e + 1) = m * 2 ^ e := by
      obtain ⟨q, hq⟩ : 2 ∣ m := by
        rw [hm]
        exact dvd_pow_self 2 (by omega)
      rw [hq, Nat.mul_div_cancel_left q (by decide), Nat.pow_succ]
      ring
    have hassemble : (assemble negative m e : Binary f)
        = if f.maxExponent < (e : Int) + 1 then infinite negative
          else finite negative (m / 2) ((e + 1 : Nat) : Int) := by
      unfold assemble
      simp only [hm, if_true, Nat.cast_add, Nat.cast_one]
    rw [hassemble]
    split
    · exact Or.inl ⟨rfl, by omega⟩
    · right
      rw [round?_finite, hhalf]
  · have hassemble : (assemble negative m e : Binary f)
        = if f.maxExponent < (e : Int) then infinite negative else finite negative m e := by
      unfold assemble
      simp only [hm, if_false]
    rw [hassemble]
    split
    · exact Or.inl ⟨rfl, by omega⟩
    · right
      exact round?_finite negative m e

/-- **The number nearest to a natural.** With more digits than a significand has, a natural becomes
the nearest multiple of its unit, or an infinity where the unit is the greatest there is. -/
theorem round?_ofRatio_one {n : Nat} (negative : Bool) (hp : 0 < f.precision)
    (hmin : f.minExponent ≤ 0) (h : 2 ^ f.precision ≤ n) :
    ((ofRatio negative n 1 : Binary f).round? = none ∧ f.maxExponent ≤ unitExponent f.precision n)
      ∨ (ofRatio negative n 1 : Binary f).round?
        = some (if negative then -(nearestMultiple f.precision n : Int)
            else (nearestMultiple f.precision n : Int)) := by
  have hn : n ≠ 0 := ne_zero_of_two_pow_le h
  have hassemble : (ofRatio negative n 1 : Binary f)
      = assemble negative (roundHalfEven n (2 ^ unitExponent f.precision n))
          (unitExponent f.precision n : Int) := by
    unfold ofRatio
    rw [if_neg hn, leadingExponent_one hmin h]
    simp only [scaleDown, Int.natCast_nonneg, if_true, Int.toNat_natCast, Nat.one_mul]
  rw [hassemble]
  exact round?_assemble negative _ _ hp

end Binary

end Prepared.Number
