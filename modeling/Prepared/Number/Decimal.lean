import Prepared.Number.Binary
import Prepared.Text.LowerCase
import Prepared.Text.Numeral

/-!
# Decimal text of binary numbers

The text of a number has the fewest digits that read back as the same number, written positionally.
It is found on the exact decimal expansion: the numbers that round to the given one form an
interval, and the coarsest decimal grid with a point next to the number and inside the interval
gives the digits. `Binary.read?` reads decimal text, correctly rounded.
-/

namespace Prepared.Number

-- the power of the core library, whatever else is imported
attribute [local instance (high)] instPowNat

/-! ### Shortest digits -/

/-- The naturals between two ends, which belong to it or not. -/
structure Interval where
  low : Nat
  high : Nat
  closed : Bool

/-- Whether `x` lies in the interval. -/
def Interval.contains (i : Interval) (x : Nat) : Bool :=
  if i.closed then i.low ≤ x && x ≤ i.high else i.low < x && x < i.high

/-- Of the two multiples of `g` around `x`, the one inside `i`; if both are, the nearer, and the
upper one if they are equally near. -/
def neighbour? (i : Interval) (x g : Nat) : Option Nat :=
  let down := x / g * g
  let up := down + g
  match i.contains down, i.contains up with
  | true, true => some (if x - down < up - x then down else up)
  | true, false => some down
  | false, true => some up
  | false, false => none

/-- The neighbour of `x` inside `i` on the coarsest of the grids `unit · 10 ^ k` with `k < n`, or
`x` if there is none. -/
def coarsest (i : Interval) (x unit : Nat) : Nat → Nat
  | 0 => x
  | k + 1 => (neighbour? i x (unit * 10 ^ k)).getD (coarsest i x unit k)

/-- The interval of the numbers that round to `significand · 2 ^ exponent`, scaled so that one unit
in the last place is `4 * ulp`: half a unit on each side, but only a quarter below a power of two.
-/
def roundingInterval (f : Format) (significand : Nat) (exponent : Int) (ulp : Nat) : Interval :=
  let center := 4 * significand * ulp
  let narrow := significand = 2 ^ (f.precision - 1) ∧ f.minExponent < exponent
  ⟨center - (if narrow then ulp else 2 * ulp), center + 2 * ulp, significand % 2 = 0⟩

/-- The shortest decimal that reads back as `significand · 2 ^ exponent`, as a natural and the
number of its digits that stand behind the point. -/
def shortest (f : Format) (significand : Nat) (exponent : Int) : Nat × Nat :=
  -- for a negative exponent all is multiplied by `10 ^ (-exponent)`, which makes it whole
  let ulp := if 0 ≤ exponent then 2 ^ exponent.toNat else 5 ^ (-exponent).toNat
  let exact := significand * ulp
  let interval := roundingInterval f significand exponent ulp
  (coarsest interval (4 * exact) 4 (Nat.toDigits 10 exact).length / 4, (-exponent).toNat)

/-! ### Writing -/

/-- The natural `n` with its last `places` digits behind the point, without zeros at the end. -/
def positional (n places : Nat) : String :=
  let whole := toString (n / 10 ^ places)
  let digits := Nat.toDigits 10 (n % 10 ^ places)
  let fraction := List.replicate (places - digits.length) '0' ++ digits
  match (fraction.reverse.dropWhile (· == '0')).reverse with
  | [] => whole
  | fraction => whole ++ "." ++ String.ofList fraction

/-- The text of a number: never an exponent, no point in a whole number. -/
def Binary.text {f : Format} : Binary f → String
  | nan => "NaN"
  | infinite negative => if negative then "-inf" else "inf"
  | finite negative significand exponent =>
    let (digits, places) := shortest f significand exponent
    (if negative then "-" else "") ++ positional digits places

/-! ### Reading -/

/-- The number nearest to `± digits · 10 ^ exponent`. An exponent so large or small that the number
is infinite or zero in any case is not expanded. -/
def Binary.ofDecimal {f : Format} (negative : Bool) (digits : Nat) (exponent : Int) : Binary f :=
  -- the number is at least `10 ^ (leading - 1)` and less than `10 ^ leading`
  let leading : Int := exponent + (Nat.toDigits 10 digits).length
  if digits = 0 then zero negative
  else if 400 < leading then infinite negative
  else if leading < -400 then zero negative
  else if 0 ≤ exponent then ofRatio negative (digits * 10 ^ exponent.toNat) 1
  else ofRatio negative digits (10 ^ (-exponent).toNat)

/-- The exponent after the digits of a number: nothing, or an `e` and a signed whole number. -/
def readExponent? : List Char → Option Int
  | [] => some 0
  | c :: s => if c == 'e' || c == 'E' then Text.readInt? s else none

/-- Reads digits with an optional point and an optional exponent. -/
def readUnsigned? {f : Format} (negative : Bool) (s : List Char) : Option (Binary f) := do
  let whole := s.takeWhile Char.isDigit
  let rest := s.dropWhile Char.isDigit
  let (fraction, rest) := match rest with
    | '.' :: rest => (rest.takeWhile Char.isDigit, rest.dropWhile Char.isDigit)
    | rest => ([], rest)
  let digits ← Text.readNat? (whole ++ fraction)
  let exponent ← readExponent? rest
  return Binary.ofDecimal negative digits (exponent - fraction.length)

/-- Reads a number that is written as digits, as an infinity or as not-a-number, in any case. -/
def readMagnitude? {f : Format} (negative : Bool) (s : List Char) : Option (Binary f) :=
  let word := String.ofList (s.map Char.toLower)
  if word = "nan" then some .nan
  else if word = "inf" ∨ word = "infinity" then some (.infinite negative)
  else readUnsigned? negative s

/-- Reads a number after an optional sign. -/
def Binary.read? {f : Format} (s : String) : Option (Binary f) :=
  match s.toList with
  | '-' :: s => readMagnitude? true s
  | '+' :: s => readMagnitude? false s
  | s => readMagnitude? false s

end Prepared.Number
