import Prepared.Analysis.BoundExpr

/-!
# Common types

Implicit casts compose, and two types cast to their common type. So the common type of a list is one
to which all its types cast (`casts_commonTypeFrom`), and an undecided type in the list may as well
be the common type itself: the result stays the same (`commonTypeFrom_decided`).
-/

namespace Prepared

namespace SqlType

/-! ## Implicit casts -/

/-- A type that casts to another one is the same, has nothing to say, or both are numeric. -/
theorem implicitlyCasts_cases {a b : SqlType} (h : a.implicitlyCasts b = true) :
    a = b ∨ a = null ∨ a = unknown ∨ (a.isNumeric = true ∧ b.isNumeric = true) := by
  revert a b
  decide

/-- Every numeric type casts to the widest one. -/
theorem casts_double {t : SqlType} (ht : t.isNumeric = true) : t.implicitlyCasts double = true := by
  revert t
  decide

/-- Every other numeric type casts to the one below it. -/
theorem casts_float {t : SqlType} (ht : t.isNumeric = true) (hdouble : t ≠ double) :
    t.implicitlyCasts float = true := by
  revert t
  decide

/-- Implicit casts compose. -/
theorem implicitlyCasts_trans {a b c : SqlType} (h : a.implicitlyCasts b = true)
    (h' : b.implicitlyCasts c = true) : a.implicitlyCasts c = true := by
  rcases implicitlyCasts_cases h with rfl | rfl | rfl | ⟨ha, hb⟩
  · exact h'
  · simp [implicitlyCasts]
  · simp [implicitlyCasts]
  rcases implicitlyCasts_cases h' with rfl | rfl | rfl | ⟨-, hc⟩
  · exact h
  · cases hb
  · cases hb
  -- all three are numeric: integer types compose as their ranges do, and floating point is above them
  cases c with
  | integer u =>
    cases b with
    | integer t =>
      cases a with
      | integer s =>
        rw [integer_implicitlyCasts_iff] at h h' ⊢
        exact ⟨Int.le_trans h'.1 h.1, Int.le_trans h.2 h'.2⟩
      | float | double => simp [implicitlyCasts] at h
      | _ => cases ha
    | float | double => simp [implicitlyCasts] at h'
    | _ => cases hb
  | float =>
    cases b with
    | integer t =>
      cases a with
      | integer s => exact casts_float rfl (by simp)
      | float | double => simp [implicitlyCasts] at h
      | _ => cases ha
    | float => exact h
    | double => simp [implicitlyCasts] at h'
    | _ => cases hb
  | double => exact casts_double ha
  | _ => cases hc

/-- Two numeric types that cast to each other are the same. -/
theorem implicitlyCasts_antisymm {a b : SqlType} (ha : a.isNumeric = true) (hb : b.isNumeric = true)
    (h : a.implicitlyCasts b = true) (h' : b.implicitlyCasts a = true) : a = b := by
  revert a b
  decide

/-! ## Two types -/

/-- A type of either sign casts to the signed type above the unsigned one, unless the signed one holds
the other already. -/
theorem casts_signedAbove {u s : Width} (h : ¬IntType.FitsIn ⟨false, u⟩ ⟨true, s⟩) :
    (integer ⟨false, u⟩).implicitlyCasts (signedAbove u) = true
      ∧ (integer ⟨true, s⟩).implicitlyCasts (signedAbove u) = true := by
  revert h
  cases u <;> cases s <;> decide

/-- Two types cast to what they are combined to. -/
theorem casts_combineNumeric {t u v : SqlType} (h : combineNumeric t u = some v) :
    t.implicitlyCasts v = true ∧ u.implicitlyCasts v = true := by
  unfold combineNumeric at h
  split at h
  · rename_i hcasts
    cases h
    exact ⟨hcasts, implicitlyCasts_self _⟩
  rename_i hleft
  split at h
  · rename_i hcasts
    cases h
    exact ⟨implicitlyCasts_self _, hcasts⟩
  rename_i hright
  -- what is left are two types of different sign
  split at h
  · rename_i width width'
    have hnot : ¬IntType.FitsIn ⟨false, width⟩ ⟨true, width'⟩ := mt integer_implicitlyCasts_iff.2 hleft
    rw [mixSigns_eq hnot] at h
    cases h
    exact casts_signedAbove hnot
  · rename_i width' width
    have hnot : ¬IntType.FitsIn ⟨false, width⟩ ⟨true, width'⟩ := mt integer_implicitlyCasts_iff.2 hright
    rw [mixSigns_eq hnot] at h
    cases h
    exact (casts_signedAbove hnot).symm
  · cases h

/-- Both types cast to their common type. -/
theorem casts_common {t u v : SqlType} (h : common t u = .ok v) :
    t.implicitlyCasts v = true ∧ u.implicitlyCasts v = true := by
  have hnothing (a v : SqlType) (ha : a = null ∨ a = unknown) : a.implicitlyCasts v = true := by
    rcases ha with rfl | rfl <;> simp [implicitlyCasts]
  unfold common at h
  split at h
  · rename_i heq
    cases h
    rw [heq]
    exact ⟨implicitlyCasts_self _, implicitlyCasts_self _⟩
  · split at h
    · rename_i ht
      cases h
      exact ⟨hnothing _ _ ht, implicitlyCasts_self _⟩
    · split at h
      · rename_i hu
        cases h
        exact ⟨implicitlyCasts_self _, hnothing _ _ hu⟩
      · split at h
        · split at h
          · rename_i hcombine
            cases h
            exact casts_combineNumeric hcombine
          · cases h
        · cases h

/-- A type that casts to another one has the other one in common with it. -/
theorem common_of_casts {t c : SqlType} (h : t.implicitlyCasts c = true) (hnull : c ≠ null)
    (hunknown : c ≠ unknown) : common t c = .ok c := by
  unfold common
  by_cases heq : t = c
  · rw [if_pos heq, heq]
  · rw [if_neg heq]
    by_cases ht : t = null ∨ t = unknown
    · rw [if_pos ht]
    · rw [if_neg ht, if_neg (not_or.2 ⟨hnull, hunknown⟩)]
      rcases implicitlyCasts_cases h with h' | h' | h' | ⟨ht', hc⟩
      · exact absurd h' heq
      · exact absurd (Or.inl h') ht
      · exact absurd (Or.inr h') ht
      · have hcombine : combineNumeric t c = some c := if_pos h
        rw [if_pos (by rw [ht', hc]; rfl), hcombine]

/-- The same with the types the other way round. -/
theorem common_of_casts_right {c u : SqlType} (h : u.implicitlyCasts c = true) (hnull : c ≠ null)
    (hunknown : c ≠ unknown) : common c u = .ok c := by
  unfold common
  by_cases heq : c = u
  · rw [if_pos heq]
  · rw [if_neg heq, if_neg (not_or.2 ⟨hnull, hunknown⟩)]
    by_cases hu : u = null ∨ u = unknown
    · rw [if_pos hu]
    · rw [if_neg hu]
      rcases implicitlyCasts_cases h with h' | h' | h' | ⟨hu', hc⟩
      · exact absurd h'.symm heq
      · exact absurd (Or.inl h') hu
      · exact absurd (Or.inr h') hu
      · have hcu : ¬c.implicitlyCasts u = true := fun hcu =>
          heq (implicitlyCasts_antisymm hc hu' hcu h)
        have hcombine : combineNumeric c u = some c := (if_neg hcu).trans (if_pos h)
        rw [if_pos (by rw [hu', hc]; rfl), hcombine]

end SqlType

/-! ## Lists of types -/

/-- Whether a type counts for a common type: one that values have, but not that of an untyped null. -/
def SqlType.Counts (t : SqlType) : Prop :=
  t.isResolved = true ∧ t ≠ .null

instance (t : SqlType) : Decidable t.Counts :=
  inferInstanceAs (Decidable (_ ∧ _))

theorem commonTypeFrom_cons_of_counts {t u : SqlType} {us : List SqlType} (hu : u.Counts) :
    commonTypeFrom t (u :: us) = SqlType.common t u >>= fun v => commonTypeFrom v us := by
  rw [commonTypeFrom, if_pos (by simpa [SqlType.Counts] using hu)]

theorem commonTypeFrom_cons_of_not_counts {t u : SqlType} {us : List SqlType} (hu : ¬u.Counts) :
    commonTypeFrom t (u :: us) = commonTypeFrom t us := by
  rw [commonTypeFrom, if_neg (by simpa [SqlType.Counts] using hu)]

/-- The types so far and all that count cast to the common type. -/
theorem casts_commonTypeFrom {t c : SqlType} {us : List SqlType} (h : commonTypeFrom t us = .ok c) :
    t.implicitlyCasts c = true ∧ ∀ u ∈ us, u.Counts → u.implicitlyCasts c = true := by
  induction us generalizing t with
  | nil =>
    cases h
    exact ⟨SqlType.implicitlyCasts_self _, fun _ hu => absurd hu List.not_mem_nil⟩
  | cons u us ih =>
    by_cases hu : u.Counts
    · rw [commonTypeFrom_cons_of_counts hu] at h
      cases hv : SqlType.common t u with
      | error e => rw [hv] at h; cases h
      | ok v =>
        rw [hv] at h
        obtain ⟨htv, huv⟩ := SqlType.casts_common hv
        obtain ⟨hvc, hus⟩ := ih h
        refine ⟨SqlType.implicitlyCasts_trans htv hvc, List.forall_mem_cons.2 ⟨fun _ => ?_, hus⟩⟩
        exact SqlType.implicitlyCasts_trans huv hvc
    · rw [commonTypeFrom_cons_of_not_counts hu] at h
      obtain ⟨htc, hus⟩ := ih h
      exact ⟨htc, List.forall_mem_cons.2 ⟨fun hcounts => absurd hcounts hu, hus⟩⟩

/-- What a type that counts casts to counts as well. -/
theorem SqlType.Counts.of_casts {t u : SqlType} (ht : t.Counts) (h : t.implicitlyCasts u = true) :
    u.Counts := by
  rcases SqlType.implicitlyCasts_cases h with rfl | rfl | rfl | ⟨-, hu⟩
  · exact ht
  · exact absurd rfl ht.2
  · exact absurd ht.1 (by decide)
  · refine ⟨?_, ?_⟩
    · cases u <;> first | rfl | cases hu
    · rintro rfl
      cases hu

/-- A common type counts, unless nothing does. -/
theorem counts_commonTypeFrom {t c : SqlType} {us : List SqlType} (h : commonTypeFrom t us = .ok c) :
    c = t ∧ (∀ u ∈ us, ¬u.Counts) ∨ c.Counts := by
  induction us generalizing t with
  | nil =>
    cases h
    exact Or.inl ⟨rfl, fun _ hu => absurd hu List.not_mem_nil⟩
  | cons u us ih =>
    by_cases hu : u.Counts
    · right
      exact hu.of_casts ((casts_commonTypeFrom h).2 u List.mem_cons_self hu)
    · rw [commonTypeFrom_cons_of_not_counts hu] at h
      rcases ih h with ⟨hc, hus⟩ | hc
      · exact Or.inl ⟨hc, List.forall_mem_cons.2 ⟨hu, hus⟩⟩
      · exact Or.inr hc

/-- A type to which all those that count cast stays the common type. -/
theorem commonTypeFrom_of_casts {c : SqlType} {us : List SqlType} (hc : c.Counts)
    (hus : ∀ u ∈ us, u.Counts → u.implicitlyCasts c = true) : commonTypeFrom c us = .ok c := by
  have hunknown : c ≠ .unknown := by
    intro h
    rw [h] at hc
    exact absurd hc.1 (by decide)
  induction us with
  | nil => rfl
  | cons u us ih =>
    obtain ⟨hu, hus⟩ := List.forall_mem_cons.1 hus
    by_cases hcounts : u.Counts
    · rw [commonTypeFrom_cons_of_counts hcounts,
        SqlType.common_of_casts_right (hu hcounts) hc.2 hunknown]
      exact ih hus
    · rw [commonTypeFrom_cons_of_not_counts hcounts]
      exact ih hus

/-- If one type counts and the others are the same or do not count, it is the common type. -/
theorem commonTypeFrom_of_mem {c : SqlType} {us : List SqlType} (hc : c.Counts) (hmem : c ∈ us)
    (hus : ∀ u ∈ us, u = c ∨ ¬u.Counts) : commonTypeFrom .unknown us = .ok c := by
  induction us with
  | nil => exact absurd hmem List.not_mem_nil
  | cons u us ih =>
    obtain ⟨hu, hrest⟩ := List.forall_mem_cons.1 hus
    by_cases hcounts : u.Counts
    · obtain rfl : u = c := hu.resolve_right (not_not_intro hcounts)
      have hcommon : SqlType.common .unknown u = .ok u := by
        unfold SqlType.common
        split
        · rename_i h
          rw [h]
        · rw [if_pos (Or.inr rfl)]
      rw [commonTypeFrom_cons_of_counts hcounts, hcommon]
      refine commonTypeFrom_of_casts hcounts fun v hv hv' => ?_
      rw [(hrest v hv).resolve_right (not_not_intro hv')]
      exact SqlType.implicitlyCasts_self u
    · rw [commonTypeFrom_cons_of_not_counts hcounts]
      refine ih ((List.mem_cons.1 hmem).resolve_left ?_) hrest
      rintro rfl
      exact hcounts hc

/-- **Decided types in a list.** Where undecided types become the common type, it stays the common
type. -/
theorem commonTypeFrom_decided {α : Type} {f g : α → SqlType} {t c : SqlType} {es : List α}
    (hc : c.Counts) (hg : ∀ e ∈ es, g e = f e ∨ f e = .unknown ∧ g e = c)
    (h : commonTypeFrom t (es.map f) = .ok c) : commonTypeFrom t (es.map g) = .ok c := by
  have hunknown : c ≠ .unknown := by
    intro h
    rw [h] at hc
    exact absurd hc.1 (by decide)
  induction es generalizing t with
  | nil => exact h
  | cons e es ih =>
    obtain ⟨he, hes⟩ := List.forall_mem_cons.1 hg
    rw [List.map_cons] at h ⊢
    rcases he with he | ⟨hf, he⟩
    · rw [he]
      by_cases hcounts : (f e).Counts
      · rw [commonTypeFrom_cons_of_counts hcounts] at h ⊢
        cases hv : SqlType.common t (f e) with
        | error x => rw [hv] at h; cases h
        | ok v =>
          rw [hv] at h
          exact ih hes h
      · rw [commonTypeFrom_cons_of_not_counts hcounts] at h ⊢
        exact ih hes h
    · rw [hf, commonTypeFrom_cons_of_not_counts (by decide)] at h
      obtain ⟨htc, hcasts⟩ := casts_commonTypeFrom h
      rw [he, commonTypeFrom_cons_of_counts hc, SqlType.common_of_casts htc hc.2 hunknown]
      -- what is left are types of the old list and the common type itself
      refine commonTypeFrom_of_casts hc fun v hv hcounts => ?_
      obtain ⟨e', he', rfl⟩ := List.mem_map.1 hv
      rcases hes e' he' with hsame | ⟨-, hsame⟩
      · rw [hsame] at hcounts ⊢
        exact hcasts _ (List.mem_map_of_mem he') hcounts
      · rw [hsame]
        exact SqlType.implicitlyCasts_self c

end Prepared
