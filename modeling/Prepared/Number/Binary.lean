/-!
# Binary floating point numbers

Numbers `± significand · 2 ^ exponent` of a format that fixes how many binary digits the significand
has and how far the exponent reaches, with infinities and a not-a-number beside them. Everything is
exact arithmetic on naturals: `Binary.ofRatio` rounds a quotient to the nearest number of the
format, and every conversion goes through it.
-/

namespace Prepared.Number

-- the power of the core library, whatever else is imported
attribute [local instance (high)] instPowNat

/-- A binary format: the number of binary digits of a significand, and the least and greatest
exponent. -/
structure Format where
  precision : Nat
  minExponent : Int
  maxExponent : Int
  deriving Repr, DecidableEq

namespace Format

/-- Numbers of 32 bits. -/
def single : Format := ⟨24, -149, 104⟩

/-- Numbers of 64 bits. -/
def double : Format := ⟨53, -1074, 971⟩

end Format

/-- A number of the format `f`. The significand of a finite number has at most `f.precision` binary
digits, and fewer only at the least exponent. -/
inductive Binary (f : Format) where
  | nan
  | infinite (negative : Bool)
  | finite (negative : Bool) (significand : Nat) (exponent : Int)
  deriving Repr, DecidableEq

/-- The quotient `n / d` rounded to a whole number, a half going to the even neighbour. -/
def roundHalfEven (n d : Nat) : Nat :=
  let q := n / d
  let r := n % d
  if 2 * r < d then q
  else if d < 2 * r then q + 1
  else if q % 2 = 0 then q else q + 1

/-- The quotient `n / d` over `2 ^ e`, as a numerator and a denominator. -/
def scaleDown (n d : Nat) (e : Int) : Nat × Nat :=
  if 0 ≤ e then (n, d * 2 ^ e.toNat) else (n * 2 ^ (-e).toNat, d)

namespace Binary

variable {f : Format}

/-- The zero of the given sign. -/
def zero (negative : Bool) : Binary f :=
  .finite negative 0 f.minExponent

/-- The least exponent at which the quotient `n / d`, of positive numbers, has a significand with at
most `f.precision` digits before the point. -/
def leadingExponent (f : Format) (n d : Nat) : Int :=
  let guess : Int := Nat.log2 n - Nat.log2 d - f.precision
  let (n', d') := scaleDown n d guess
  max f.minExponent (if n' / d' < 2 ^ f.precision then guess else guess + 1)

/-- The number with the given significand and exponent, where rounding may have carried into one
more digit and the exponent may be too large. -/
def assemble (negative : Bool) (significand : Nat) (exponent : Int) : Binary f :=
  let carried := significand = 2 ^ f.precision
  let exponent := if carried then exponent + 1 else exponent
  let significand := if carried then significand / 2 else significand
  if f.maxExponent < exponent then .infinite negative else .finite negative significand exponent

/-- The number of the format nearest to `± n / d`; of two equally near the one with the even
significand. A quotient beyond all finite numbers gives infinity. -/
def ofRatio (negative : Bool) (n d : Nat) : Binary f :=
  if n = 0 then zero negative
  else
    let e := leadingExponent f n d
    let (n', d') := scaleDown n d e
    assemble negative (roundHalfEven n' d') e

/-- The number nearest to an integer. -/
def ofInt (i : Int) : Binary f :=
  ofRatio (i < 0) i.natAbs 1

/-- The number of the format `g` nearest to one of another format. -/
def convert {g : Format} : Binary f → Binary g
  | nan => nan
  | infinite negative => infinite negative
  | finite negative significand exponent =>
    if 0 ≤ exponent then ofRatio negative (significand * 2 ^ exponent.toNat) 1
    else ofRatio negative significand (2 ^ (-exponent).toNat)

/-- The whole number nearest to a finite number, a half going away from zero. -/
def round? : Binary f → Option Int
  | nan => none
  | infinite _ => none
  | finite negative significand exponent =>
    let magnitude :=
      if 0 ≤ exponent then significand * 2 ^ exponent.toNat
      else
        let unit := 2 ^ (-exponent).toNat
        (2 * significand + unit) / (2 * unit)
    some (if negative then -(magnitude : Int) else magnitude)

end Binary

end Prepared.Number
