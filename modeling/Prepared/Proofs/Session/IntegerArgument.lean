import Prepared.Proofs.Param.Values
import Prepared.Proofs.Value.Integer
import Prepared.Session.Basic

/-!
# Whole numbers as arguments

An argument that is a whole number, behind a sign or without one, should be bound to a parameter of
an integer type as the integer that is written, or be refused if the type does not hold it.

A number of up to 64 bits is read as an integer, and so it is. A larger one is read as the nearest
floating point number, and that number is what the type takes or refuses. For most types and numbers
this comes to the same, since both lie outside the range. `IntType.Misreads` says where it does not:
just below the least integer of 64 bits, and between the greatest signed and the greatest unsigned
one. The same digits in quotes are always read exactly.
-/

namespace Prepared

open Sql Number

/-! ## Whole numbers in a text -/

/-- A sign in front of a number. -/
inductive Sign where
  | plus
  | minus
  deriving DecidableEq

/-- A whole number as it is written: digits, behind a sign or without one. -/
structure WrittenInteger where
  sign : Option Sign
  digits : List Char
  /-- Whether an `L` follows the digits. -/
  long : Bool
  nonempty : digits ≠ []
  decimal : ∀ c ∈ digits, c.isDigit = true

namespace WrittenInteger

/-- The natural that the digits stand for. -/
def magnitude (w : WrittenInteger) : Nat :=
  Nat.ofDigitChars 10 w.digits 0

/-- Whether the sign is a minus. -/
def isNegative (w : WrittenInteger) : Bool :=
  w.sign = some .minus

/-- The integer that is written. -/
def value (w : WrittenInteger) : Int :=
  if w.isNegative then -(w.magnitude : Int) else w.magnitude

/-- The sign as it is written. -/
def signChars (w : WrittenInteger) : List Char :=
  match w.sign with
  | none => []
  | some .plus => ['+']
  | some .minus => ['-']

/-- The sign and the digits. -/
def text (w : WrittenInteger) : String :=
  String.ofList (w.signChars ++ w.digits)

/-- The number as an argument: a number literal behind the sign. -/
def bare (w : WrittenInteger) : Expr :=
  let number : Expr := .literal (.number (String.ofList w.digits) w.long)
  match w.sign with
  | none => number
  | some .plus => .unary .plus number
  | some .minus => .unary .minus number

/-- The same sign and digits as an argument in quotes. -/
def quoted (w : WrittenInteger) : Expr :=
  .literal (.singleQuoted w.text)

/-! ### Reading the number -/

theorem readNat?_digits (w : WrittenInteger) : Text.readNat? w.digits = some w.magnitude :=
  Text.readNat?_eq_some_iff.2 ⟨w.nonempty, w.decimal, rfl⟩

/-- The text is read as the integer that is written. -/
theorem readInt?_text (w : WrittenInteger) : Text.readInt? w.text.toList = some w.value := by
  obtain ⟨sign, digits, long, hne, hdec⟩ := w
  have hread : Text.readNat? digits = some (Nat.ofDigitChars 10 digits 0) :=
    Text.readNat?_eq_some_iff.2 ⟨hne, hdec, rfl⟩
  unfold text value isNegative magnitude signChars
  rw [String.toList_ofList]
  cases sign with
  | none =>
    simp only [List.nil_append]
    rw [Text.readInt?_of_digits hdec, hread]
    rfl
  | some s =>
    cases s with
    | plus => simp [Text.readInt?, hread]
    | minus => simp [Text.readInt?, hread]

/-- There is no white space in the text. -/
theorem trim_text (w : WrittenInteger) : (Text.trim w.text).toList = w.text.toList := by
  rw [Text.toList_trim]
  refine Text.trimChars_of_not_blank fun c hc => ?_
  unfold text signChars at hc
  rw [String.toList_ofList, List.mem_append] at hc
  rcases hc with hc | hc
  · cases hs : w.sign with
    | none => simp [hs] at hc
    | some s =>
      cases s with
      | plus =>
        rw [hs, List.mem_singleton] at hc
        rw [hc]
        decide
      | minus =>
        rw [hs, List.mem_singleton] at hc
        rw [hc]
        decide
  · exact Text.isBlank_of_isDigit (w.decimal c hc)

/-- The text without a plus, which is what a number literal is read from. -/
def numberText (w : WrittenInteger) : String :=
  if w.isNegative then "-" ++ String.ofList w.digits else String.ofList w.digits

theorem evalConstant_bare (w : WrittenInteger) :
    evalConstant w.bare = (Value.ofNumber w.numberText).mapError .type := by
  unfold bare numberText isNegative
  cases w.sign with
  | none => simp [evalConstant, Value.ofLiteral]
  | some s => cases s <;> simp [evalConstant, Value.ofLiteral]

theorem evalConstant_quoted (w : WrittenInteger) :
    evalConstant w.quoted = .ok (.datum (.text w.text)) :=
  rfl

theorem readInt?_numberText (w : WrittenInteger) :
    Text.readInt? w.numberText.toList = some w.value := by
  unfold numberText value
  cases w.isNegative with
  | true => simp [Text.readInt?, w.readNat?_digits]
  | false =>
    simp only [Bool.false_eq_true, if_false, String.toList_ofList]
    rw [Text.readInt?_of_digits w.decimal, w.readNat?_digits]
    rfl

/-- As a floating point number, the text is the natural that the digits stand for, rounded. -/
theorem read?_numberText (w : WrittenInteger) :
    (Binary.read? w.numberText : Option (Binary .double))
      = some (Binary.ofDecimal w.isNegative w.magnitude 0) := by
  have hdigits := readMagnitude?_digits (f := .double) w.isNegative w.decimal w.readNat?_digits
  unfold numberText
  cases hn : w.isNegative with
  | true =>
    rw [hn] at hdigits
    simpa [Binary.read?] using hdigits
  | false =>
    rw [hn] at hdigits
    obtain ⟨c, s, hs⟩ := List.exists_cons_of_ne_nil w.nonempty
    have hc : c.isDigit = true := w.decimal c (by simp [hs])
    rw [hs] at hdigits ⊢
    simp only [Bool.false_eq_true, if_false, Binary.read?, String.toList_ofList]
    -- the text begins with a digit, so with no sign
    split
    · rename_i heq
      rw [(List.cons.inj heq).1] at hc
      exact absurd hc (by decide)
    · rename_i heq
      rw [(List.cons.inj heq).1] at hc
      exact absurd hc (by decide)
    · exact hdigits

end WrittenInteger

/-! ## Where a number is misread -/

/-- The integers of 64 bits for which the nearest floating point number is taken in their place:
below the least signed integer, those that are rounded up to it, and above the greatest signed
integer, those unsigned ones that are no multiples of the unit there. -/
def IntType.Misreads (t : IntType) (i : Int) : Prop :=
  (t = ⟨true, .w64⟩ ∧ -(2 ^ 63) - 1024 ≤ i ∧ i < -(2 ^ 63))
    ∨ (t = ⟨false, .w64⟩ ∧ 2 ^ 63 ≤ i ∧ i < 2 ^ 64 ∧ ¬(2048 : Int) ∣ i)

/-- A cast of a written integer that gives this integer, or is refused because the type does not
hold it. -/
def CastsExactly (x : Except TypeError Value) (t : IntType) (i : Int) : Prop :=
  (∀ h : t.Contains i, x = .ok (.datum (.integer t i h)))
    ∧ (¬t.Contains i → ∃ text, x = .error (.outOfRange (.integer t) text))

/-- Taking the integer `j` in place of `i` does no harm only if they are the same or are both
refused. -/
theorem castsExactly_ofInt_iff {t : IntType} {i j : Int} :
    CastsExactly (Value.ofInt t j) t i ↔ j = i ∨ ¬t.Contains i ∧ ¬t.Contains j := by
  constructor
  · rintro ⟨hin, hout⟩
    by_cases hi : t.Contains i
    · left
      have hj := hin hi
      by_cases htj : t.Contains j
      · rw [Value.ofInt_of_contains htj] at hj
        simp only [Except.ok.injEq, Value.datum.injEq, Datum.integer.injEq, true_and] at hj
        exact hj
      · rw [Value.ofInt_of_not_contains htj] at hj
        cases hj
    · right
      refine ⟨hi, fun htj => ?_⟩
      obtain ⟨text, hj⟩ := hout hi
      rw [Value.ofInt_of_contains htj] at hj
      cases hj
  · rintro (rfl | ⟨hi, hj⟩)
    · exact ⟨fun h => Value.ofInt_of_contains h, fun h => ⟨_, Value.ofInt_of_not_contains h⟩⟩
    · exact ⟨fun h => absurd h hi, fun _ => ⟨_, Value.ofInt_of_not_contains hj⟩⟩

theorem CastsExactly.toOption_eq {x : Except TypeError Value} {t : IntType} {i : Int}
    (h : CastsExactly x t i) : x.toOption = (Value.ofInt t i).toOption := by
  by_cases hi : t.Contains i
  · rw [h.1 hi, Value.ofInt_of_contains hi]
  · obtain ⟨text, hx⟩ := h.2 hi
    rw [hx, Value.ofInt_of_not_contains hi]
    rfl

/-! ### The floating point number in place of a large integer -/

theorem roundHalfEven_eq (n d : Nat) :
    roundHalfEven n d
      = if 2 * (n % d) < d ∨ 2 * (n % d) = d ∧ n / d % 2 = 0 then n / d else n / d + 1 := by
  unfold roundHalfEven
  dsimp only
  split_ifs <;> first | rfl | omega

/-- Between the greatest signed and unsigned integers of 64 bits, floating point numbers are the
multiples of 2048. -/
theorem nearestMultiple_of_lt {n : Nat} (hlow : 2 ^ 63 ≤ n) (hhigh : n < 2 ^ 64) :
    nearestMultiple 53 n = roundHalfEven n 2048 * 2048 := by
  unfold nearestMultiple
  rw [unitExponent_eq (p := 53) hlow hhigh]
  rfl

/-- No type holds an integer beyond both ranges of 64 bits. -/
theorem IntType.not_contains_of_beyond {t : IntType} {n : Nat} (negative : Bool) (h : 2 ^ 64 ≤ n) :
    ¬t.Contains (if negative then -(n : Int) else n) := by
  obtain ⟨signed, width⟩ := t
  cases negative <;> cases signed <;> cases width <;>
    simp [IntType.Contains, IntType.min, IntType.max, Width.bits] <;> omega

/-- For an integer beyond 64 bits, the nearest floating point number does no harm exactly if the
type does not misread the integer. -/
theorem castsExactly_nearest_iff {t : IntType} {n : Nat} {negative : Bool}
    (hi : ¬IntType.signed64.Contains (if negative then -(n : Int) else n)) :
    CastsExactly
        (Value.ofInt t (clampWidest (if negative then -(nearestMultiple 53 n : Int)
          else (nearestMultiple 53 n : Int))))
        t (if negative then -(n : Int) else n)
      ↔ ¬t.Misreads (if negative then -(n : Int) else n) := by
  have hbound : 2 ^ 63 ≤ n ∧ (negative = true → 2 ^ 63 < n) := by
    unfold IntType.Contains IntType.min IntType.max at hi
    cases negative <;> simp [Width.bits] at hi ⊢ <;> omega
  rw [castsExactly_ofInt_iff]
  by_cases hhigh : n < 2 ^ 64
  · -- eight types and two signs, each a comparison of numerals
    rw [nearestMultiple_of_lt hbound.1 hhigh, roundHalfEven_eq]
    obtain ⟨signed, width⟩ := t
    cases negative <;> cases signed <;> cases width <;>
      simp [IntType.Misreads, IntType.Contains, IntType.min, IntType.max, Width.bits, clampWidest,
        widestMin, widestMax] at hbound ⊢ <;> split_ifs <;> omega
  · -- beyond 64 bits the number and the nearest one are refused by every type
    have hr : 2 ^ 64 ≤ nearestMultiple 53 n :=
      two_pow_le_nearestMultiple (by decide) (by decide) (Nat.not_lt.1 hhigh)
    have hclamp : clampWidest (if negative then -(nearestMultiple 53 n : Int)
          else (nearestMultiple 53 n : Int))
        = if negative then -((min (nearestMultiple 53 n) (2 ^ 127) : Nat) : Int)
          else ((min (nearestMultiple 53 n) (2 ^ 127 - 1) : Nat) : Int) := by
      unfold clampWidest widestMin widestMax
      cases negative <;> simp only [Bool.false_eq_true, if_false, if_true] <;> split_ifs <;> omega
    have hj : ¬t.Contains (clampWidest (if negative then -(nearestMultiple 53 n : Int)
        else (nearestMultiple 53 n : Int))) := by
      rw [hclamp]
      cases negative
      · exact IntType.not_contains_of_beyond false (by omega)
      · exact IntType.not_contains_of_beyond true (by omega)
    have hmisreads : ¬t.Misreads (if negative then -(n : Int) else n) := by
      unfold IntType.Misreads
      cases negative <;> simp only [Bool.false_eq_true, if_false, if_true] <;> omega
    exact iff_of_true (Or.inr ⟨IntType.not_contains_of_beyond negative (Nat.not_lt.1 hhigh), hj⟩) hmisreads

/-! ## The value of a bare number -/

/-- **Casts of a bare number.** An argument that is a number literal has a value, which is not null,
and a cast of it to an integer type is exact unless the type misreads the integer. -/
theorem WrittenInteger.exists_value_bare (w : WrittenInteger) :
    ∃ v : Value, evalConstant w.bare = .ok v ∧ v.isNull = false
      ∧ ∀ t : IntType, CastsExactly (v.castTo (.integer t)) t w.value ↔ ¬t.Misreads w.value := by
  by_cases h64 : IntType.signed64.Contains w.value
  · -- the value is the integer itself
    obtain ⟨s, hs, hv⟩ := Value.ofNumber_of_contains w.readInt?_numberText h64
    refine ⟨.datum (.integer s w.value hs), ?_, rfl, fun t => ?_⟩
    · rw [w.evalConstant_bare, hv]
      rfl
    · rw [Value.castTo_integer]
      refine iff_of_true (castsExactly_ofInt_iff.2 (Or.inl rfl)) ?_
      obtain ⟨hlow, hhigh⟩ := h64
      simp only [IntType.min, IntType.max, Width.bits, if_true] at hlow hhigh
      unfold IntType.Misreads
      omega
  · -- the value is the nearest floating point number
    have hv := Value.ofNumber_of_not_contains w.readInt?_numberText h64 w.read?_numberText
    refine ⟨.datum (.double (Binary.ofDecimal w.isNegative w.magnitude 0)), ?_, rfl, fun t => ?_⟩
    · rw [w.evalConstant_bare, hv]
      rfl
    · have hlarge : 2 ^ 63 ≤ w.magnitude := by
        unfold WrittenInteger.value IntType.Contains IntType.min IntType.max at h64
        cases hn : w.isNegative <;> simp [hn, Width.bits] at h64 <;> omega
      rw [Value.castTo_double]
      -- an infinity only comes of an integer that no type holds
      have hinfinite : 2 ^ 64 ≤ w.magnitude →
          CastsExactly (.error (.outOfRange (.integer t)
            (Binary.ofDecimal w.isNegative w.magnitude 0 : Binary .double).text)) t w.value
          ∧ ¬t.Misreads w.value := by
        intro hn
        have hnot : ¬t.Contains w.value := IntType.not_contains_of_beyond w.isNegative hn
        refine ⟨⟨fun h => absurd h hnot, fun _ => ⟨_, rfl⟩⟩, ?_⟩
        unfold IntType.Misreads WrittenInteger.value
        cases w.isNegative <;> simp only [Bool.false_eq_true, if_false, if_true] <;> omega
      have hzero : w.magnitude ≠ 0 := by omega
      rcases ofDecimal_zero (f := .double) w.isNegative hzero with ⟨hx, hn⟩ | hx
      · obtain ⟨hcasts, hreads⟩ := hinfinite (le_trans (by decide) hn)
        rw [hx] at hcasts ⊢
        exact iff_of_true hcasts hreads
      · rw [hx] at hinfinite ⊢
        have hprecision : 2 ^ Format.double.precision ≤ w.magnitude := le_trans (by decide) hlarge
        rcases Binary.round?_ofRatio_one (f := .double) w.isNegative (by decide) (by decide)
          hprecision with ⟨hround, hexp⟩ | hround
        · have hn : 2 ^ 64 ≤ w.magnitude := by
            refine le_trans (Nat.pow_le_pow_right (by decide) ?_)
              (Nat.log2_self_le hzero)
            have hunit : (971 : Int) ≤ (unitExponent 53 w.magnitude : Nat) := hexp
            unfold unitExponent at hunit
            omega
          obtain ⟨hcasts, hreads⟩ := hinfinite hn
          rw [hround]
          exact iff_of_true hcasts hreads
        · rw [hround]
          exact castsExactly_nearest_iff h64

/-- The same digits in quotes have a value, which is not null, and a cast of it to an integer type
gives the integer if the type holds it and nothing else. -/
theorem WrittenInteger.exists_value_quoted (w : WrittenInteger) :
    ∃ v : Value, evalConstant w.quoted = .ok v ∧ v.isNull = false
      ∧ ∀ t : IntType, (v.castTo (.integer t)).toOption = (Value.ofInt t w.value).toOption := by
  refine ⟨.datum (.text w.text), w.evalConstant_quoted, rfl, fun t => Value.castTo_text ?_⟩
  rw [w.trim_text]
  exact w.readInt?_text

/-! ## One argument among others -/

/-- Constants are evaluated on both sides of any place. -/
theorem evalConstants_append (es₁ es₂ : List Expr) :
    evalConstants (es₁ ++ es₂)
      = do return (← evalConstants es₁) ++ (← evalConstants es₂) := by
  induction es₁ with
  | nil =>
    simp only [List.nil_append, evalConstants]
    cases evalConstants es₂ <;> rfl
  | cons e es₁ ih =>
    simp only [List.cons_append, evalConstants, ih]
    cases evalConstant e with
    | error x => rfl
    | ok v =>
      cases evalConstants es₁ with
      | error x => rfl
      | ok vs => cases evalConstants es₂ <;> rfl

/-- Every constant has one value. -/
theorem length_evalConstants {es : List Expr} {vs : List Value}
    (h : evalConstants es = .ok vs) : vs.length = es.length := by
  induction es generalizing vs with
  | nil =>
    cases h
    rfl
  | cons e es ih =>
    rw [evalConstants] at h
    cases hv : evalConstant e with
    | error x => rw [hv] at h; cases h
    | ok v =>
      cases hvs : evalConstants es with
      | error x => rw [hv, hvs] at h; cases h
      | ok us =>
        rw [hv, hvs] at h
        cases h
        rw [List.length_cons, List.length_cons, ih hvs]

/-- The parameters of a prepared statement with the values of its arguments. -/
def PreparedStatement.bindArguments (p : PreparedStatement) (args : List Expr) :
    Except SessionError (List Param) := do
  p.bind (← evalConstants args)

/-- Arguments on both sides of one that stands for a parameter of the type `t`, all of which can be
bound, to the parameters `before` and `after`. -/
structure ArgumentsAround (p : PreparedStatement) (t : SqlType) (args₁ args₂ : List Expr)
    (before after : List Param) where
  types₁ : List SqlType
  types₂ : List SqlType
  values₁ : List Value
  values₂ : List Value
  types : p.paramTypes = types₁ ++ t :: types₂
  length₁ : args₁.length = types₁.length
  length₂ : args₂.length = types₂.length
  eval₁ : evalConstants args₁ = .ok values₁
  eval₂ : evalConstants args₂ = .ok values₂
  bind₁ : bindValues types₁ values₁ (values₁.map Value.isNull) = .ok before
  bind₂ : bindValues types₂ values₂ (values₂.map Value.isNull) = .ok after

/-- What becomes of an argument is what a cast of its value to the type gives. -/
theorem ArgumentsAround.bindArguments {p : PreparedStatement} {t : SqlType}
    {args₁ args₂ : List Expr} {before after : List Param}
    (around : ArgumentsAround p t args₁ args₂ before after) (ht : t.isResolved = true)
    {e : Expr} {v : Value} (hv : evalConstant e = .ok v) (hnull : v.isNull = false) :
    p.bindArguments (args₁ ++ e :: args₂)
      = ((v.castTo t).map fun u => before ++ ⟨u.datum?, t, true⟩ :: after).mapError
        fun x => .param (.type x) := by
  have hvalues : evalConstants (args₁ ++ e :: args₂)
      = .ok (around.values₁ ++ v :: around.values₂) := by
    rw [evalConstants_append, around.eval₁]
    simp only [evalConstants, hv, around.eval₂]
    rfl
  have hlen₁ : around.values₁.length = around.types₁.length := by
    rw [length_evalConstants around.eval₁, around.length₁]
  have hlen₂ : around.values₂.length = around.types₂.length := by
    rw [length_evalConstants around.eval₂, around.length₂]
  -- the other arguments are bound as before, so what becomes of the whole is decided in the middle
  have hbind : bindValues p.paramTypes (around.values₁ ++ v :: around.values₂)
        ((around.values₁ ++ v :: around.values₂).map Value.isNull)
      = ((Param.ofValue t v (NullMark.isNull v.isNull)).map fun q => before ++ q :: after).mapError
        .type := by
    rw [around.types, List.map_append, List.map_cons]
    exact bindValues_middle ht hlen₁ (by rw [List.length_map, hlen₁]) hlen₂
      (by rw [List.length_map, hlen₂]) around.bind₁ around.bind₂
  have hparam : Param.ofValue t v (NullMark.isNull v.isNull)
      = (v.castTo t).map fun u => ⟨u.datum?, t, true⟩ := by
    rw [hnull]
    rfl
  unfold PreparedStatement.bindArguments PreparedStatement.bind
  rw [hvalues]
  show (bindValues p.paramTypes (around.values₁ ++ v :: around.values₂)
    ((around.values₁ ++ v :: around.values₂).map Value.isNull)).mapError SessionError.param = _
  rw [hbind, hparam]
  cases v.castTo t <;> rfl

/-- A whole number is bound exactly, or refused, by what `bound` makes of an argument, where `place`
puts a parameter among the others. -/
structure BoundExactly (bound : Expr → Except SessionError (List Param))
    (place : Param → List Param) (t : IntType) (w : WrittenInteger) : Prop where
  /-- An integer in the range of the type is bound as it is written. -/
  inside : ∀ h : t.Contains w.value,
    bound w.bare = .ok (place ⟨some (.integer t w.value h), .integer t, true⟩)
  /-- An integer beyond the range is refused for this reason. -/
  outside : ¬t.Contains w.value →
    ∃ text, bound w.bare = .error (.param (.type (.outOfRange (.integer t) text)))
  /-- In quotes, the number is bound to the same value or refused as well. -/
  quoted : (bound w.bare).toOption = (bound w.quoted).toOption

/-- **Whole numbers as arguments.** For every prepared statement, every parameter of an integer type
and all other arguments that can be bound, a number literal is bound as the integer that is written,
or refused if the type does not hold it, exactly if the type does not misread the integer. -/
theorem PreparedStatement.boundExactly_iff {p : PreparedStatement} {t : IntType}
    {args₁ args₂ : List Expr} {before after : List Param}
    (around : ArgumentsAround p (.integer t) args₁ args₂ before after) (w : WrittenInteger) :
    BoundExactly (fun e => p.bindArguments (args₁ ++ e :: args₂))
        (fun q => before ++ q :: after) t w
      ↔ ¬t.Misreads w.value := by
  -- All three parts of `BoundExactly` are about the cast of the argument's value, so both
  -- directions go through `hcasts`: the other arguments are put around it and taken away again.
  obtain ⟨v, hv, hnull, hcasts⟩ := w.exists_value_bare
  obtain ⟨v', hv', hnull', hcasts'⟩ := w.exists_value_quoted
  have hbare := around.bindArguments rfl hv hnull
  have hquoted := around.bindArguments rfl hv' hnull'
  rw [← hcasts t]
  constructor
  · rintro ⟨hinside, houtside, -⟩
    constructor
    · intro h
      have hx := hinside h
      simp only [hbare] at hx
      cases hc : v.castTo (.integer t) with
      | error x => rw [hc] at hx; cases hx
      | ok u =>
        rw [hc] at hx
        simp only [Except.map, Except.mapError, Except.ok.injEq, List.append_cancel_left_eq,
          List.cons.injEq, Param.mk.injEq, and_true] at hx
        cases u with
        | null s hs => cases hx
        | datum d => cases hx; rfl
    · intro h
      obtain ⟨text, hx⟩ := houtside h
      simp only [hbare] at hx
      refine ⟨text, ?_⟩
      cases hc : v.castTo (.integer t) with
      | error x => rw [hc] at hx; cases hx; rfl
      | ok u => rw [hc] at hx; cases hx
  · intro hexact
    refine ⟨fun h => ?_, fun h => ?_, ?_⟩
    · simp only [hbare, hexact.1 h]
      rfl
    · obtain ⟨text, hx⟩ := hexact.2 h
      refine ⟨text, ?_⟩
      simp only [hbare, hx]
      rfl
    · have hsame : (v.castTo (.integer t)).toOption = (v'.castTo (.integer t)).toOption := by
        rw [hexact.toOption_eq, hcasts' t]
      simp only [hbare, hquoted]
      cases hc : v.castTo (.integer t) with
      | error x =>
        cases hc' : v'.castTo (.integer t) with
        | error y => rfl
        | ok u => rw [hc, hc'] at hsame; cases hsame
      | ok u =>
        cases hc' : v'.castTo (.integer t) with
        | error y => rw [hc, hc'] at hsame; cases hsame
        | ok u' => rw [hc, hc'] at hsame; cases hsame; rfl

/-! ### A number that is misread -/

/-- `SELECT $1`, prepared with an unsigned integer of 64 bits as the type of its parameter. -/
def PreparedStatement.selectUnsigned : PreparedStatement where
  name := "q"
  statement := .query (.mk false [] (.select false [.unnamed (.literal (.placeholder "$1"))] [] none
    [] none (.mk none none [] [] [] [] none)) [] none none .none none none)
  paramTypes := [.integer ⟨false, .w64⟩]
  description := ⟨["$1"], [.integer ⟨false, .w64⟩]⟩

/-- The number `9223372036854775809`, one more than the signed integers of 64 bits can count. -/
def WrittenInteger.aboveSigned : WrittenInteger where
  sign := none
  digits := ['9', '2', '2', '3', '3', '7', '2', '0', '3', '6', '8', '5', '4', '7', '7', '5', '8',
    '0', '9']
  long := false
  nonempty := by decide
  decimal := List.all_eq_true.1 rfl

/-- The only argument of a statement has no others around it. -/
def PreparedStatement.alone_selectUnsigned :
    ArgumentsAround selectUnsigned (.integer ⟨false, .w64⟩) [] [] [] [] where
  types₁ := []
  types₂ := []
  values₁ := []
  values₂ := []
  types := rfl
  length₁ := rfl
  length₂ := rfl
  eval₁ := rfl
  eval₂ := rfl
  bind₁ := rfl
  bind₂ := rfl

/-- The type holds the number, but the number is not bound exactly. -/
theorem PreparedStatement.not_boundExactly_selectUnsigned :
    IntType.Contains ⟨false, .w64⟩ WrittenInteger.aboveSigned.value
      ∧ ¬BoundExactly (fun e => selectUnsigned.bindArguments ([] ++ e :: []))
          (fun q => [] ++ q :: []) ⟨false, .w64⟩ WrittenInteger.aboveSigned := by
  have hmisreads : IntType.Misreads ⟨false, .w64⟩ WrittenInteger.aboveSigned.value :=
    Or.inr (by decide)
  refine ⟨by decide, fun h => ?_⟩
  exact (boundExactly_iff alone_selectUnsigned WrittenInteger.aboveSigned).1 h hmisreads

/-- Instead of the number the nearest floating point number is bound, which is one less. In quotes
the number is bound as it is. -/
theorem PreparedStatement.bindArguments_aboveSigned :
    (∃ h, selectUnsigned.bindArguments [WrittenInteger.aboveSigned.bare]
        = .ok [⟨some (.integer ⟨false, .w64⟩ 9223372036854775808 h), .integer ⟨false, .w64⟩, true⟩])
      ∧ ∃ h, selectUnsigned.bindArguments [WrittenInteger.aboveSigned.quoted]
        = .ok [⟨some (.integer ⟨false, .w64⟩ 9223372036854775809 h), .integer ⟨false, .w64⟩, true⟩] :=
  ⟨⟨by decide, by decide⟩, ⟨by decide, by decide⟩⟩

end Prepared
