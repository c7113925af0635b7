import Mathlib.Tactic.ByContra
import Prepared.Proofs.SqlType.CommonType

/-!
# The least common type

A common type is found by going through the types one by one. That all of them cast to it does not
depend on their order, but whether it is the least such type may: an unsigned integer of 64 bits and
a signed one are brought to `DOUBLE`, although both cast to `FLOAT`, and what is `DOUBLE` never
becomes `FLOAT` again. This is the only exception (`casts_of_common`), and it shows only if `FLOAT`
is among the types and nothing else forces `DOUBLE` (`SqlType.OrderMatters`).

Otherwise the common type is the least one (`least_commonTypeFrom`). It is then a matter of what
types there are, not of their order or how often they occur (`commonTypeFrom_congr`).
-/

namespace Prepared

namespace SqlType

/-- The order of the types matters for their common type: `FLOAT` is among them, an unsigned integer
type of 64 bits and a signed one are, and `DOUBLE` or a type that is not numeric is not. -/
structure OrderMatters (ts : List SqlType) : Prop where
  numeric : ∀ t ∈ ts, t.Counts → t.isNumeric = true
  unsigned : ubigint ∈ ts
  signed : ∃ t ∈ ts, t.isSigned = true
  single : float ∈ ts
  noDouble : double ∉ ts

theorem OrderMatters.congr {ts us : List SqlType} (h : OrderMatters ts)
    (hmem : ∀ t, t ∈ ts ↔ t ∈ us) : OrderMatters us := by
  obtain ⟨s, hs, hsigned⟩ := h.signed
  exact ⟨fun t ht => h.numeric t ((hmem t).2 ht), (hmem _).1 h.unsigned,
    ⟨s, (hmem s).1 hs, hsigned⟩, (hmem _).1 h.single,
    fun hdouble => h.noDouble ((hmem _).2 hdouble)⟩

/-! ## Two types -/

section

variable {t u v d : SqlType}

theorem common_eq_ok_iff : common t u = .ok v ↔ v ∈ (common t u).toOption := by
  cases common t u with
  | error e => exact ⟨nofun, nofun⟩
  | ok v' => simp [Except.toOption]

/-- The common type of two types is the least one to which both cast, unless an unsigned integer of
64 bits meets a signed one and both would cast to `FLOAT`. -/
theorem casts_of_common (h : common t u = .ok v) (ht : t.implicitlyCasts d = true)
    (hu : u.implicitlyCasts d = true)
    (hd : d = float → t ≠ ubigint ∧ u ≠ ubigint ∨ t.isSigned = false ∧ u.isSigned = false) :
    v.implicitlyCasts d = true := by
  have hall : ∀ t u d : SqlType, t.implicitlyCasts d = true → u.implicitlyCasts d = true →
      (d = float → t ≠ ubigint ∧ u ≠ ubigint ∨ t.isSigned = false ∧ u.isSigned = false) →
      ∀ v ∈ (common t u).toOption, v.implicitlyCasts d = true := by decide +kernel
  exact hall t u d ht hu hd v (common_eq_ok_iff.1 h)

/-- What two types other than these have in common is another one as well. -/
theorem ne_of_common (h : common t u = .ok v) :
    (t ≠ float → u ≠ float → v ≠ float) ∧ (t ≠ ubigint → u ≠ ubigint → v ≠ ubigint)
      ∧ (t.isSigned = false → u.isSigned = false → v.isSigned = false) := by
  have hall : ∀ t u : SqlType, ∀ v ∈ (common t u).toOption,
      (t ≠ float → u ≠ float → v ≠ float) ∧ (t ≠ ubigint → u ≠ ubigint → v ≠ ubigint)
        ∧ (t.isSigned = false → u.isSigned = false → v.isSigned = false) := by decide +kernel
  exact hall t u v (common_eq_ok_iff.1 h)

/-- Two types that cast to `DOUBLE`, or both to a type that is not numeric, have a common type. -/
theorem exists_common (ht : t.implicitlyCasts d = true) (hu : u.implicitlyCasts d = true)
    (hd : d = double ∨ d.isNumeric = false) :
    ∃ v, common t u = .ok v ∧ v.implicitlyCasts d = true := by
  have hall : ∀ t u d : SqlType, t.implicitlyCasts d = true → u.implicitlyCasts d = true →
      d = double ∨ d.isNumeric = false → (common t u).toOption.isSome = true := by decide +kernel
  obtain ⟨v, hv⟩ := Option.isSome_iff_exists.1 (hall t u d ht hu hd)
  have hcommon : common t u = .ok v := common_eq_ok_iff.2 hv
  refine ⟨v, hcommon, casts_of_common hcommon ht hu fun hfloat => ?_⟩
  -- `FLOAT` is neither `DOUBLE` nor without numbers
  subst hfloat
  exact absurd hd (by decide)

theorem isNumeric_of_casts_float (h : t.implicitlyCasts float = true) (ht : t.Counts) :
    t.isNumeric = true ∧ t ≠ double := by
  revert t
  decide

theorem counts_of_isSigned (h : t.isSigned = true) : t.Counts := by
  revert t
  decide

theorem common_ubigint_of_signed (h : t.isSigned = true) : common ubigint t = .ok double := by
  rw [common_eq_ok_iff]
  revert t
  decide

end

/-- All types that count cast to the type. -/
def Bounds (d : SqlType) (ts : List SqlType) : Prop :=
  ∀ t ∈ ts, t.Counts → t.implicitlyCasts d = true

end SqlType

open SqlType

/-! ## Lists of types -/

section

variable {ts us : List SqlType} {t c d : SqlType}

/-- What each type that counts preserves holds of the common type. -/
theorem commonTypeFrom_induction {Q : SqlType → Prop} (ht : Q t)
    (hstep : ∀ u ∈ us, u.Counts → ∀ t v, Q t → common t u = .ok v → Q v)
    (h : commonTypeFrom t us = .ok c) : Q c := by
  induction us generalizing t with
  | nil =>
    cases h
    exact ht
  | cons u us ih =>
    obtain ⟨hu, hus⟩ := List.forall_mem_cons.1 hstep
    by_cases hcounts : u.Counts
    · rw [commonTypeFrom_cons_of_counts hcounts] at h
      cases hv : common t u with
      | error e =>
        rw [hv] at h
        cases h
      | ok v =>
        rw [hv] at h
        exact ih (hu hcounts t v ht hv) hus h
    · rw [commonTypeFrom_cons_of_not_counts hcounts] at h
      exact ih ht hus h

/-- Types that all cast to one type have a common type. -/
theorem exists_commonTypeFrom (hd : d = double ∨ d.isNumeric = false)
    (ht : t.implicitlyCasts d = true) (h : d.Bounds us) : ∃ c, commonTypeFrom t us = .ok c := by
  induction us generalizing t with
  | nil => exact ⟨t, rfl⟩
  | cons u us ih =>
    obtain ⟨hu, hus⟩ := List.forall_mem_cons.1 h
    by_cases hcounts : u.Counts
    · obtain ⟨v, hv, hvd⟩ := exists_common ht (hu hcounts) hd
      rw [commonTypeFrom_cons_of_counts hcounts, hv]
      exact ih hvd hus
    · rw [commonTypeFrom_cons_of_not_counts hcounts]
      exact ih ht hus

theorem exists_commonType_of_bounds (h : d.Bounds us) :
    ∃ c, commonTypeFrom .unknown us = .ok c := by
  have hunknown (d : SqlType) : unknown.implicitlyCasts d = true := by simp [implicitlyCasts]
  cases hd : d.isNumeric with
  | false => exact exists_commonTypeFrom (Or.inr hd) (hunknown d) h
  | true =>
    refine exists_commonTypeFrom (Or.inl rfl) (hunknown double) fun u hu hcounts => ?_
    exact implicitlyCasts_trans (h u hu hcounts) (casts_double hd)

theorem bounds_of_commonTypeFrom (h : commonTypeFrom t us = .ok c) : c.Bounds us :=
  (casts_commonTypeFrom h).2

/-- `FLOAT` is the common type only of types with `FLOAT` among them. -/
theorem float_mem_of_commonTypeFrom (h : commonTypeFrom .unknown us = .ok float) : float ∈ us := by
  by_contra hfloat
  have hne : float ≠ float := by
    refine commonTypeFrom_induction (Q := (· ≠ float)) (by decide) ?_ h
    intro u hu _ t v ht hv
    exact (ne_of_common hv).1 ht fun heq => hfloat (heq ▸ hu)
  exact hne rfl

/-- If the types of a class have least common types, so have lists of them. -/
theorem casts_of_class {p : SqlType → Prop} (hunknown : p .unknown) (hp : ∀ u ∈ us, p u)
    (hstep : ∀ t u v, p t → p u → t.implicitlyCasts d = true → u.implicitlyCasts d = true →
      common t u = .ok v → p v ∧ v.implicitlyCasts d = true)
    (hd : d.Bounds us) (h : commonTypeFrom .unknown us = .ok c) : c.implicitlyCasts d = true := by
  have hboth : p c ∧ c.implicitlyCasts d = true := by
    refine commonTypeFrom_induction (Q := fun t => p t ∧ t.implicitlyCasts d = true)
      ⟨hunknown, by simp [implicitlyCasts]⟩ ?_ h
    intro u hu hcounts t v ht hv
    exact hstep t u v ht.1 (hp u hu) ht.2 (hd u hu hcounts) hv
  exact hboth.2

/-- **The common type is the least one** to which all types cast, unless their order matters. That
it is less than `FLOAT` can only be said if `FLOAT` is among them. -/
theorem least_commonTypeFrom (horder : ¬OrderMatters ts) (h : commonTypeFrom .unknown ts = .ok c)
    (hd : d.Bounds ts) (hfloat : d = float → float ∈ ts) : c.implicitlyCasts d = true := by
  by_cases hsingle : d = float
  · subst hsingle
    -- one of the two integer types that part `FLOAT` from `DOUBLE` is missing, and what the others
    -- have in common is never of the missing sort
    have hclass : ubigint ∉ ts ∨ ∀ t ∈ ts, t.isSigned = false := by
      by_contra hnot
      obtain ⟨hunsigned, hsigned⟩ := not_or.1 hnot
      refine horder ⟨?_, not_not.1 hunsigned, by simpa using hsigned, hfloat rfl, ?_⟩
      · exact fun t ht hcounts => (isNumeric_of_casts_float (hd t ht hcounts) hcounts).1
      · exact fun hdouble => absurd (hd double hdouble (by decide)) (by decide)
    rcases hclass with hunsigned | hsigned
    · refine casts_of_class (p := (· ≠ ubigint)) (by decide)
        (fun u hu heq => hunsigned (heq ▸ hu)) ?_ hd h
      intro t u v ht hu htd hud hv
      exact ⟨(ne_of_common hv).2.1 ht hu, casts_of_common hv htd hud fun _ => Or.inl ⟨ht, hu⟩⟩
    · refine casts_of_class (p := fun t => t.isSigned = false) rfl hsigned ?_ hd h
      intro t u v ht hu htd hud hv
      exact ⟨(ne_of_common hv).2.2 ht hu, casts_of_common hv htd hud fun _ => Or.inr ⟨ht, hu⟩⟩
  · refine casts_of_class (p := fun _ => True) trivial (fun _ _ => trivial) ?_ hd h
    intro t u v _ _ htd hud hv
    exact ⟨trivial, casts_of_common hv htd hud fun heq => absurd heq hsingle⟩

/-- Two common types that cast to each other are the same. -/
theorem eq_of_casts {c' : SqlType} (h : commonTypeFrom .unknown ts = .ok c)
    (h' : commonTypeFrom .unknown us = .ok c') (hle : c.implicitlyCasts c' = true)
    (hge : c'.implicitlyCasts c = true) : c = c' := by
  rcases counts_commonTypeFrom h with ⟨rfl, -⟩ | hc
  · rcases counts_commonTypeFrom h' with ⟨rfl, -⟩ | hc'
    · rfl
    · exact absurd (hc'.of_casts hge).1 (by decide)
  · rcases implicitlyCasts_cases hle with heq | rfl | rfl | ⟨hn, hn'⟩
    · exact heq
    · exact absurd rfl hc.2
    · exact absurd hc.1 (by decide)
    · exact implicitlyCasts_antisymm hn hn' hle hge

theorem exists_of_members (hmem : ∀ t, t ∈ ts ↔ t ∈ us) (h : commonTypeFrom .unknown ts = .ok c) :
    ∃ c', commonTypeFrom .unknown us = .ok c' :=
  exists_commonType_of_bounds fun t ht => bounds_of_commonTypeFrom h t ((hmem t).2 ht)

/-- **Only membership matters**: lists of the same types have the same common type or both have
none, unless the order matters. -/
theorem commonTypeFrom_congr (hmem : ∀ t, t ∈ ts ↔ t ∈ us) (horder : ¬OrderMatters ts) :
    (commonTypeFrom .unknown ts).toOption = (commonTypeFrom .unknown us).toOption := by
  have hle {ts us : List SqlType} {c c' : SqlType} (hmem : ∀ t, t ∈ ts ↔ t ∈ us)
      (horder : ¬OrderMatters ts) (h : commonTypeFrom .unknown ts = .ok c)
      (h' : commonTypeFrom .unknown us = .ok c') : c.implicitlyCasts c' = true := by
    refine least_commonTypeFrom horder h (fun t ht => ?_) fun hfloat => ?_
    · exact bounds_of_commonTypeFrom h' t ((hmem t).1 ht)
    · subst hfloat
      exact (hmem _).2 (float_mem_of_commonTypeFrom h')
  -- each result bounds the types of the other list, so they cast to each other
  have hmem' (t : SqlType) : t ∈ us ↔ t ∈ ts := (hmem t).symm
  cases h : commonTypeFrom .unknown ts with
  | ok c =>
    obtain ⟨c', h'⟩ := exists_of_members hmem h
    have hge := hle hmem' (fun hus => horder (hus.congr hmem')) h' h
    rw [h', eq_of_casts h h' (hle hmem horder h h') hge]
  | error e =>
    cases h' : commonTypeFrom .unknown us with
    | error e' => rfl
    | ok c' =>
      obtain ⟨c, hc⟩ := exists_of_members hmem' h'
      rw [h] at hc
      cases hc

/-! ## Where the order matters -/

/-- With `FLOAT` in front the common type is `FLOAT`. -/
theorem commonTypeFrom_float (h : OrderMatters (float :: us)) :
    commonTypeFrom .unknown (float :: us) = .ok float := by
  rw [commonTypeFrom_cons_of_counts (by decide)]
  refine commonTypeFrom_of_casts (by decide) fun u hu hcounts => ?_
  have hmem : u ∈ float :: us := List.mem_cons_of_mem _ hu
  exact casts_float (h.numeric u hmem hcounts) fun heq => h.noDouble (heq ▸ hmem)

/-- With the two integer types in front it is `DOUBLE`. -/
theorem commonTypeFrom_ubigint_signed (ht : t.isSigned = true)
    (h : OrderMatters (ubigint :: t :: us)) :
    commonTypeFrom .unknown (ubigint :: t :: us) = .ok double := by
  rw [commonTypeFrom_cons_of_counts (by decide)]
  show commonTypeFrom ubigint (t :: us) = .ok double
  rw [commonTypeFrom_cons_of_counts (counts_of_isSigned ht), common_ubigint_of_signed ht]
  refine commonTypeFrom_of_casts (by decide) fun u hu hcounts => ?_
  exact casts_double (h.numeric u (List.mem_cons_of_mem _ (List.mem_cons_of_mem _ hu)) hcounts)

end

end Prepared
