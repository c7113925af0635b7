import Prepared.Param.Values

/-!
# Building a list of parameters, position by position

`bindValues` asks for enough values and for types that are decided, and then binds each value on its
own. So the list can be cut at any place (`paramsOf_append`), and what becomes of one value does not
hang on the others as long as these can be bound (`bindValues_middle`).
-/

namespace Prepared

/-! ## Undecided types -/

namespace ParamTypes

/-- No parameter is undecided exactly if every type is one of values. -/
theorem firstUnresolved?_eq_none_iff {types : List SqlType} :
    firstUnresolved? types = none ↔ ∀ t ∈ types, t.isResolved = true := by
  simp [firstUnresolved?]

/-- The check after an analysis succeeds exactly if no type is left open. -/
theorem check_eq_ok_iff {p : ParamTypes} :
    p.check = .ok () ↔ ∀ types, p.types? = some types → ∀ t ∈ types, t.isResolved = true := by
  unfold check
  constructor
  · intro h types htypes
    rw [htypes, Option.bind_some] at h
    cases hopen : firstUnresolved? types with
    | some number =>
      rw [hopen] at h
      cases h
    | none => exact firstUnresolved?_eq_none_iff.1 hopen
  · intro h
    have hnone : p.types?.bind firstUnresolved? = none := by
      cases htypes : p.types? with
      | none => rfl
      | some types => exact firstUnresolved?_eq_none_iff.2 (h types htypes)
    rw [hnone]

end ParamTypes

/-! ## The list of parameters -/

/-- Where the lists of types, values and marks are cut at the same place, so is the list of
parameters. -/
theorem paramsOf_append {types₁ types₂ : List SqlType} {values₁ values₂ : List Value}
    {marks₁ marks₂ : List Bool} (hvalues : values₁.length = types₁.length)
    (hmarks : marks₁.length = types₁.length) :
    paramsOf (types₁ ++ types₂) (values₁ ++ values₂) (marks₁ ++ marks₂)
      = do return (← paramsOf types₁ values₁ marks₁) ++ (← paramsOf types₂ values₂ marks₂) := by
  induction types₁ generalizing values₁ marks₁ with
  | nil =>
    rw [List.length_eq_zero_iff.1 hvalues, List.length_eq_zero_iff.1 hmarks]
    simp only [List.nil_append, paramsOf]
    cases paramsOf types₂ values₂ marks₂ <;> rfl
  | cons t types₁ ih =>
    obtain ⟨v, values₁, rfl⟩ := List.exists_cons_of_length_eq_add_one hvalues
    obtain ⟨m, marks₁, rfl⟩ := List.exists_cons_of_length_eq_add_one hmarks
    simp only [List.length_cons, Nat.add_right_cancel_iff] at hvalues hmarks
    simp only [List.cons_append, paramsOf, ih hvalues hmarks]
    cases Param.ofValue t v m with
    | error e => rfl
    | ok p =>
      cases paramsOf types₁ values₁ marks₁ with
      | error e => rfl
      | ok ps => cases paramsOf types₂ values₂ marks₂ <;> rfl

/-- The marks that a caller gives, as far as they count. -/
theorem bindValues_eq_paramsOf {α : Type} [NullMark α] {types : List SqlType} {values : List Value}
    {nulls : List α} (hvalues : types.length ≤ values.length)
    (hnulls : types.length ≤ nulls.length) (htypes : ∀ t ∈ types, t.isResolved = true) :
    bindValues types values nulls
      = (paramsOf types values (nulls.map NullMark.isNull)).mapError .type := by
  have hcount : ¬(values.length < types.length ∨ nulls.length < types.length) := by omega
  unfold bindValues
  rw [if_neg hcount, ParamTypes.firstUnresolved?_eq_none_iff.2 htypes]

/-- A list is bound only if there are values and marks enough and every type is decided. -/
theorem bindValues_ok {α : Type} [NullMark α] {types : List SqlType} {values : List Value}
    {nulls : List α} {ps : List Param} (h : bindValues types values nulls = .ok ps) :
    (∀ t ∈ types, t.isResolved = true)
      ∧ paramsOf types values (nulls.map NullMark.isNull) = .ok ps := by
  unfold bindValues at h
  split at h
  · cases h
  · split at h
    · cases h
    · rename_i hnone
      refine ⟨ParamTypes.firstUnresolved?_eq_none_iff.1 hnone, ?_⟩
      cases hp : paramsOf types values (nulls.map NullMark.isNull) with
      | error e => rw [hp] at h; cases h
      | ok qs => rw [hp] at h; cases h; rfl

/-- **One value among others.** Between values that can be bound, the list of parameters hangs on
the value in the middle alone: it is bound at its place, or its error is that of the whole list. -/
theorem bindValues_middle {α : Type} [NullMark α] {types₁ types₂ : List SqlType} {t : SqlType}
    {values₁ values₂ : List Value} {v : Value} {nulls₁ nulls₂ : List α} {null : α}
    {ps₁ ps₂ : List Param} (ht : t.isResolved = true)
    (hvalues₁ : values₁.length = types₁.length) (hnulls₁ : nulls₁.length = types₁.length)
    (hvalues₂ : values₂.length = types₂.length) (hnulls₂ : nulls₂.length = types₂.length)
    (h₁ : bindValues types₁ values₁ nulls₁ = .ok ps₁)
    (h₂ : bindValues types₂ values₂ nulls₂ = .ok ps₂) :
    bindValues (types₁ ++ t :: types₂) (values₁ ++ v :: values₂) (nulls₁ ++ null :: nulls₂)
      = ((Param.ofValue t v (NullMark.isNull null)).map fun p => ps₁ ++ p :: ps₂).mapError
        .type := by
  obtain ⟨hres₁, hps₁⟩ := bindValues_ok h₁
  obtain ⟨hres₂, hps₂⟩ := bindValues_ok h₂
  have hres : ∀ u ∈ types₁ ++ t :: types₂, u.isResolved = true := by
    intro u hu
    rcases List.mem_append.1 hu with hu | hu
    · exact hres₁ u hu
    · rcases List.mem_cons.1 hu with rfl | hu
      · exact ht
      · exact hres₂ u hu
  rw [bindValues_eq_paramsOf (by simp; omega) (by simp; omega) hres, List.map_append,
    List.map_cons, paramsOf_append hvalues₁ (by simpa using hnulls₁), hps₁]
  simp only [paramsOf, hps₂]
  cases Param.ofValue t v (NullMark.isNull null) <;> rfl

end Prepared
