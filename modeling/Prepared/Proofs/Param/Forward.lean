import Prepared.Param.Inference

/-!
# The types of parameters only move forward

While types are found, a parameter is first unheard of, then referred to, and at last of some type,
which it keeps. `SlotsForward` says this of two lists of types, one later than the other, and
`refer_inferred` and `settle_inferred` say what one question does to the list.
-/

namespace Prepared

/-! ## One slot -/

/-- What can become of the type of a parameter: it stays, or the parameter is referred to for the
first time, or its type is found. -/
def SqlType.Forward (t u : SqlType) : Prop :=
  u = t ∨ (t = .invalid ∧ u = .unknown) ∨ (t.isResolved = false ∧ u.isResolved = true)

theorem SqlType.Forward.refl (t : SqlType) : t.Forward t :=
  Or.inl rfl

theorem SqlType.Forward.trans {t u v : SqlType} (h : t.Forward u) (h' : u.Forward v) :
    t.Forward v := by
  rcases h with rfl | ⟨rfl, rfl⟩ | ⟨ht, hu⟩
  · exact h'
  · rcases h' with rfl | ⟨h, -⟩ | ⟨-, hv⟩
    · exact Or.inr (Or.inl ⟨rfl, rfl⟩)
    · cases h
    · exact Or.inr (Or.inr ⟨rfl, hv⟩)
  · rcases h' with rfl | ⟨rfl, -⟩ | ⟨hu', -⟩
    · exact Or.inr (Or.inr ⟨ht, hu⟩)
    · cases hu
    · rw [hu] at hu'
      cases hu'

/-- A type that is found is kept. -/
theorem SqlType.Forward.eq_of_isResolved {t u : SqlType} (h : t.Forward u)
    (ht : t.isResolved = true) : u = t := by
  rcases h with rfl | ⟨rfl, -⟩ | ⟨ht', -⟩
  · rfl
  · cases ht
  · rw [ht] at ht'
    cases ht'

/-! ## All slots -/

/-- The types of parameters at one time and at a later one: no parameter is lost, and each of them
has moved forward or stayed. -/
structure SlotsForward (types types' : List SqlType) : Prop where
  length : types.length ≤ types'.length
  slots : ∀ (i : Nat) (t : SqlType), types[i]? = some t → ∃ u, types'[i]? = some u ∧ t.Forward u

namespace SlotsForward

theorem refl (types : List SqlType) : SlotsForward types types :=
  ⟨Nat.le_refl _, fun _ t h => ⟨t, h, .refl t⟩⟩

theorem trans {types types' types'' : List SqlType} (h : SlotsForward types types')
    (h' : SlotsForward types' types'') : SlotsForward types types'' := by
  refine ⟨Nat.le_trans h.length h'.length, fun i t ht => ?_⟩
  obtain ⟨u, hu, htu⟩ := h.slots i t ht
  obtain ⟨v, hv, huv⟩ := h'.slots i u hu
  exact ⟨v, hv, htu.trans huv⟩

/-- New parameters come behind the others. -/
theorem append (types more : List SqlType) : SlotsForward types (types ++ more) := by
  refine ⟨by simp, fun i t ht => ⟨t, ?_, .refl t⟩⟩
  obtain ⟨hi, -⟩ := List.getElem?_eq_some_iff.1 ht
  rw [List.getElem?_append_left hi]
  exact ht

/-- One parameter moves forward. -/
theorem set {types : List SqlType} {i : Nat} {t u : SqlType} (ht : types[i]? = some t)
    (hu : t.Forward u) : SlotsForward types (types.set i u) := by
  obtain ⟨hi, -⟩ := List.getElem?_eq_some_iff.1 ht
  refine ⟨by simp, fun j v hv => ?_⟩
  by_cases hij : i = j
  · subst hij
    rw [ht] at hv
    cases hv
    exact ⟨u, List.getElem?_set_self hi, hu⟩
  · exact ⟨v, by rw [List.getElem?_set_ne hij]; exact hv, .refl v⟩

end SlotsForward

namespace ParamTypes

/-- What is known of the parameters says which types are found. -/
theorem types_unique {p : ParamTypes} {types types' : List SqlType} {limit limit' : Nat}
    (h : p = inferred types limit) (h' : p = inferred types' limit') : types = types' := by
  rw [h] at h'
  exact (inferred.inj h').1

/-- The type of the parameter with the given number. -/
def slot? (types : List SqlType) (number : Nat) : Option SqlType :=
  if number = 0 then none else types[number - 1]?

/-- No parameter is lost. -/
theorem exists_slot?_of_forward {types types' : List SqlType} (h : SlotsForward types types')
    {n : Nat} {t : SqlType} (ht : slot? types n = some t) :
    ∃ u, slot? types' n = some u ∧ t.Forward u := by
  unfold slot? at ht ⊢
  split at ht
  · cases ht
  · rename_i hn
    rw [if_neg hn]
    exact h.slots _ t ht

/-- A parameter that has got a type keeps it. -/
theorem slot?_of_forward {types types' : List SqlType} (h : SlotsForward types types') {n : Nat}
    {t : SqlType} (ht : slot? types n = some t) (hresolved : t.isResolved = true) :
    slot? types' n = some t := by
  obtain ⟨u, hu, htu⟩ := exists_slot?_of_forward h ht
  rw [hu, htu.eq_of_isResolved hresolved]

theorem slot?_of_pos {types : List SqlType} {n : Nat} (hn : 0 < n) (hlen : n ≤ types.length) :
    ∃ t, slot? types n = some t := by
  unfold slot?
  rw [if_neg (by omega), List.getElem?_eq_getElem (by omega)]
  exact ⟨_, rfl⟩

theorem slot?_of_out {types : List SqlType} {n : Nat} (h : n = 0 ∨ types.length < n) :
    slot? types n = none := by
  unfold slot?
  split
  · rfl
  · exact List.getElem?_eq_none (by omega)

/-- A position of the list holds the type of the parameter that is counted from one. -/
theorem slot?_of_within {types : List SqlType} {n : Nat} (h : ¬(n = 0 ∨ types.length < n)) :
    ∃ t, types[n - 1]? = some t ∧ slot? types n = some t := by
  obtain ⟨t, ht⟩ := @slot?_of_pos types n (by omega) (by omega)
  have hposition : slot? types n = types[n - 1]? := if_neg (by omega)
  exact ⟨t, hposition ▸ ht, ht⟩

theorem bounds_of_slot? {types : List SqlType} {n : Nat} {t : SqlType}
    (h : slot? types n = some t) : 0 < n ∧ n ≤ types.length := by
  unfold slot? at h
  split at h
  · cases h
  · obtain ⟨hlen, -⟩ := List.getElem?_eq_some_iff.1 h
    omega

theorem mem_of_slot? {types : List SqlType} {n : Nat} {t : SqlType}
    (h : slot? types n = some t) : t ∈ types := by
  unfold slot? at h
  split at h
  · cases h
  · exact List.mem_of_getElem? h

/-! ## One question -/

theorem length_grow (types : List SqlType) (n : Nat) :
    (grow types n).length = max types.length n := by
  simp [grow]
  omega

/-- A parameter that has been referred to is undecided or has a type. -/
theorem forward_seen (t : SqlType) :
    t.Forward (seen t) ∧ (seen t = .unknown ∨ (seen t).isResolved = true) := by
  cases t <;> simp [seen, SqlType.Forward, SqlType.isResolved]

/-- **A reference.** It is refused if the number is too large, and else makes the list long enough
and tells the type that the parameter has then. -/
theorem refer_inferred (types : List SqlType) (limit n : Nat) :
    (inferred types limit).refer n = .error (.noSuchParameter n)
      ∨ ∃ types' t, (inferred types limit).refer n = .ok (t, inferred types' limit)
        ∧ SlotsForward types types' ∧ types'.length ≤ max types.length limit
        ∧ slot? types' n = some t ∧ (t = .unknown ∨ t.isResolved = true) := by
  by_cases hn : n = 0 ∨ limit < n
  · left
    simp only [refer, if_pos hn]
  · right
    have hlen : n - 1 < (grow types n).length := by
      rw [length_grow]
      omega
    have hslot : (grow types n)[n - 1]? = some (grow types n)[n - 1] :=
      List.getElem?_eq_getElem hlen
    obtain ⟨hforward, hseen⟩ := forward_seen (grow types n)[n - 1]
    refine ⟨(grow types n).set (n - 1) (seen (grow types n)[n - 1]), seen (grow types n)[n - 1], ?_,
      (SlotsForward.append _ _).trans (SlotsForward.set hslot hforward), ?_, ?_, hseen⟩
    · unfold refer
      simp only [hn, if_false, hslot, Option.getD_some]
    · rw [List.length_set, length_grow]
      omega
    · unfold slot?
      rw [if_neg (by omega), List.getElem?_set_self hlen]

/-- **A wanted type.** An undecided parameter takes it. One that has a type keeps it, whether or not
it is the wanted one. -/
theorem settle_inferred {types : List SqlType} (limit : Nat) {n : Nat} {t target : SqlType}
    (ht : slot? types n = some t) (htarget : target.isResolved = true) :
    (∃ e, (inferred types limit).settle n target = .error e ∧ ∀ m, e ≠ .noSuchParameter m)
      ∨ ∃ types', (inferred types limit).settle n target = .ok (target, inferred types' limit)
        ∧ SlotsForward types types' ∧ types'.length = types.length
        ∧ slot? types' n = some target := by
  have ht' := ht
  unfold slot? at ht'
  unfold settle
  simp only [ht']
  -- a type of values stays, whatever is wanted; a slot without one is written
  by_cases hresolved : t.isResolved = true
  · simp only [hresolved, if_true]
    by_cases hsame : t = target
    · right
      rw [if_pos hsame, hsame]
      rw [hsame] at ht
      exact ⟨types, rfl, .refl types, rfl, ht⟩
    · left
      rw [if_neg hsame]
      exact ⟨_, rfl, fun m h => by cases h⟩
  · right
    have hn : n ≠ 0 := by
      intro hn
      rw [if_pos hn] at ht'
      cases ht'
    rw [if_neg hn] at ht'
    obtain ⟨hlen, -⟩ := List.getElem?_eq_some_iff.1 ht'
    rw [if_neg hresolved]
    refine ⟨types.set (n - 1) target, rfl, SlotsForward.set ht' ?_, List.length_set, ?_⟩
    · exact Or.inr (Or.inr ⟨Bool.eq_false_iff.2 hresolved, htarget⟩)
    · unfold slot?
      rw [if_neg hn, List.getElem?_set_self hlen]

/-- A wanted type that is granted is what the parameter has then. -/
theorem settle_inferred_ok {types : List SqlType} {limit n : Nat} {t target : SqlType}
    {p : ParamTypes} (htarget : target.isResolved = true)
    (h : (inferred types limit).settle n target = .ok (t, p)) :
    ∃ types', p = inferred types' limit ∧ SlotsForward types types' ∧ t = target
      ∧ slot? types' n = some target := by
  cases hu : slot? types n with
  | none =>
    unfold slot? at hu
    unfold settle at h
    simp only [hu] at h
    cases h
  | some u =>
    rcases settle_inferred limit hu htarget with
      ⟨e, hrefused, -⟩ | ⟨types', hanswer, hforward, -, hslot⟩
    · rw [hrefused] at h
      cases h
    · rw [hanswer] at h
      cases h
      exact ⟨types', rfl, hforward, rfl, hslot⟩

/-- An answer with a type comes of a question that was not refused. -/
theorem eq_ok_of_answer {p : ParamTypes} {r : Except BindError (SqlType × ParamTypes)} {t : SqlType}
    (h : (p.answer r).1 = .ok t) : r = .ok (t, (p.answer r).2) := by
  cases r with
  | error e => cases h
  | ok answer =>
    cases h
    rfl

/-- Fixed types are answered as they are. -/
theorem refer_declared {types : List SqlType} {n : Nat} {t : SqlType}
    (h : slot? types n = some t) : (declared types).refer n = .ok (t, declared types) := by
  unfold slot? at h
  simp only [refer, h]

end ParamTypes

end Prepared
