import Mathlib.Data.List.Forall2
import Prepared.Proofs.Analysis.OutputTypes
import Prepared.Proofs.Value.Cast

/-!
# Bringing expressions to one type

Expressions that are compared, or that stand in one column, are brought to a common type. Each of
them gets there in its own way (`BoundExpr.Adapted`): it has the type, it is a parameter that is
granted the type, a literal that is converted, or it is cast. Where they end is the same for all of
them, and it is a fixed point: once all have the type, it is their common type, whichever of them
are literals and whatever there is to fall back on (`unifiedType_of_types`), and nothing is left to
be done.

The main result is `unify_delivers`.
-/

namespace Prepared

open BindM Walk

variable {σ : Type} [ParamHook σ]

/-! ## Hooks that grant what is wanted -/

/-- A hook that answers the wish for a type with that type or not at all. -/
def ParamHook.Grants (σ : Type) [ParamHook σ] : Prop :=
  ∀ (n : Nat) (target : SqlType) (p : σ) (t : SqlType),
    (ParamHook.settle n target p).1 = .ok t → t = target

/-- Whether types are given, found or absent, no other type is granted than the wanted one. -/
theorem ParamTypes.grants : ParamHook.Grants ParamTypes := by
  intro n target p t h
  have hsettle : p.settle n target = .ok (t, (p.answer (p.settle n target)).2) :=
    ParamTypes.eq_ok_of_answer h
  exact ParamTypes.settle_eq_target hsettle

/-! ## One expression -/

namespace BoundExpr

/-- How an expression is brought to the type `c`. -/
inductive Adapted (c : SqlType) : BoundExpr → BoundExpr → Prop
  | kept {e} : e.type = c → Adapted c e e
  | granted {name number} : Adapted c (.parameter name number .unknown) (.parameter name number c)
  | converted {name value value'} : (constant name value).isUntypedLiteral = true →
    value.castTo c = .ok value' → Adapted c (.constant name value) (.constant name value')
  | cast {e} : e.type.implicitlyCasts c = true → Adapted c e (.computed e.name c)

variable {c : SqlType}

theorem Adapted.type_eq (hc : c.isResolved = true) {e e' : BoundExpr} (h : Adapted c e e') :
    e'.type = c := by
  cases h with
  | kept htype => exact htype
  | granted => rfl
  | converted _ hcast => exact Value.type_of_castTo hc hcast
  | cast _ => rfl

/-- What is not a literal gets to a type by an implicit cast. -/
theorem Adapted.casts {e e' : BoundExpr} (h : Adapted c e e')
    (hliteral : e.isUntypedLiteral = false) : e.type.implicitlyCasts c = true := by
  cases h with
  | kept htype =>
    rw [htype]
    exact SqlType.implicitlyCasts_self c
  | granted =>
    show SqlType.unknown.implicitlyCasts c = true
    simp [SqlType.implicitlyCasts]
  | converted h _ =>
    rw [h] at hliteral
    cases hliteral
  | cast hcasts => exact hcasts

omit [ParamHook σ] in
theorem castImplicitly_adapted (e : BoundExpr) :
    Yields (e.castImplicitly c : Walk σ _) (Adapted c e) := by
  unfold castImplicitly
  split
  · rename_i hcasts
    exact .pure (.cast hcasts)
  · exact .throw _

theorem settleParam_grants (hgrants : ParamHook.Grants σ) (n : Nat) (target : SqlType) :
    Yields (settleParam n target : Walk σ _) (· = target) := by
  intro s t s' hrun
  exact hgrants n target s.params t (congrArg Prod.fst hrun)

/-- **One expression** that is brought to a type that values have. -/
theorem coerce_adapted (hgrants : ParamHook.Grants σ) (hc : c.isResolved = true) (e : BoundExpr) :
    Yields (e.coerce c : Walk σ _) (Adapted c e) := by
  unfold coerce
  split
  · rename_i hkept
    refine .pure (.kept (hkept.resolve_right ?_))
    rw [hc]
    exact Bool.noConfusion
  · split
    · refine (settleParam_grants hgrants _ c).bind fun t ht => .pure ?_
      subst ht
      exact .granted
    · split
      · rename_i name value _ hliteral
        have hvalue : Yields (ofType (value.castTo c) : Walk σ _) fun v => value.castTo c = .ok v :=
          .ofType fun _ hv => hv
        exact hvalue.bind fun v hv => .pure (.converted hliteral hv)
      · exact castImplicitly_adapted _
    · exact castImplicitly_adapted _

/-! ## All expressions -/

theorem coerceAll_adapted (hgrants : ParamHook.Grants σ) (hc : c.isResolved = true)
    (es : List BoundExpr) :
    Yields (coerceAll c es : Walk σ _) (List.Forall₂ (Adapted c) es) := by
  induction es with
  | nil => exact .pure .nil
  | cons e es ih =>
    unfold coerceAll
    refine (coerce_adapted hgrants hc e).bind fun e' he => ?_
    exact ih.bind fun es' hes => .pure (.cons he hes)

theorem types_of_adapted (hc : c.isResolved = true) {es es' : List BoundExpr}
    (h : List.Forall₂ (Adapted c) es es') : ∀ e ∈ es', e.type = c := by
  have htypes : List.Forall₂ (fun e' e => e'.type = c ∧ Adapted c e e') es' es :=
    (h.imp fun _ _ he => ⟨he.type_eq hc, he⟩).flip
  exact ((List.forall₂_and_left es' es).1 htypes).1

theorem casts_of_adapted {es es' : List BoundExpr} (h : List.Forall₂ (Adapted c) es es') :
    ∀ e ∈ es, e.isUntypedLiteral = false → e.type.implicitlyCasts c = true :=
  ((List.forall₂_and_left es es').1 (h.imp fun _ _ he => ⟨he.casts, he⟩)).1

/-- Expressions that have the type stay as they are. -/
theorem coerceAll_of_types {es : List BoundExpr} (h : ∀ e ∈ es, e.type = c) :
    (coerceAll c es : Walk σ _) = pure es := by
  induction es with
  | nil => rfl
  | cons e es ih =>
    obtain ⟨he, hes⟩ := List.forall_mem_cons.1 h
    have hkept : (e.coerce c : Walk σ _) = pure e := by
      unfold coerce
      rw [if_pos (Or.inl he)]
    unfold coerceAll
    rw [hkept, ih hes]
    rfl

end BoundExpr

/-! ## The type that all have -/

theorem commonTypeFrom_of_not_counts {t : SqlType} {us : List SqlType} (h : ∀ u ∈ us, ¬u.Counts) :
    commonTypeFrom t us = .ok t := by
  induction us with
  | nil => rfl
  | cons u us ih =>
    obtain ⟨hu, hus⟩ := List.forall_mem_cons.1 h
    rw [commonTypeFrom_cons_of_not_counts hu]
    exact ih hus

theorem commonType_of_not_counts {es : List BoundExpr} (h : ∀ e ∈ es, ¬e.type.Counts) :
    commonType es = .ok .unknown :=
  commonTypeFrom_of_not_counts (List.forall_mem_map.2 h)

/-- Expressions of one type have it in common. -/
theorem commonType_of_types {c : SqlType} (hc : c.Counts) {es : List BoundExpr} (hne : es ≠ [])
    (h : ∀ e ∈ es, e.type = c) : commonType es = .ok c := by
  obtain ⟨e, he⟩ := List.exists_mem_of_ne_nil es hne
  have hmem : c ∈ es.map BoundExpr.type := List.mem_map.2 ⟨e, he, h e he⟩
  exact commonTypeFrom_of_mem hc hmem (List.forall_mem_map.2 fun e' he' => Or.inl (h e' he'))

/-- Where only literals have a type, all expressions say what they are brought to. -/
theorem unifiedType_of_untyped {es : List BoundExpr} (default : Option SqlType) {c : SqlType}
    (htyped : commonType (es.filter fun e => !e.isUntypedLiteral) = .ok .unknown)
    (hall : commonType es = .ok c) :
    unifiedType es default = .ok (if c = .unknown then default else some c) := by
  unfold unifiedType
  rw [htyped]
  simp only [bind, pure, Except.bind, Except.pure, if_true, hall]

/-- A type that expressions are brought to is the common type of some, or the one to fall back
on. -/
theorem counts_or_default {es : List BoundExpr} {default : Option SqlType} {c : SqlType}
    (h : unifiedType es default = .ok (some c)) : c.Counts ∧ es ≠ [] ∨ default = some c := by
  have hne {t : SqlType} {p : BoundExpr → Bool} (ht : t ≠ .unknown)
      (h : commonType (es.filter p) = .ok t) : t.Counts ∧ es ≠ [] := by
    refine ⟨(eq_unknown_or_counts h).resolve_left ht, ?_⟩
    rintro rfl
    exact ht (Except.ok.inj h).symm
  obtain ⟨t, htyped, ⟨ht, hc⟩ | ⟨-, u, hall, ⟨hu, hc⟩ | ⟨-, hc⟩⟩⟩ := unifiedType_cases h
  · cases hc
    exact Or.inl (hne ht htyped)
  · cases hc
    rw [← List.filter_true es] at hall
    exact Or.inl (hne hu hall)
  · exact Or.inr hc.symm

/-- **The type that all have** is the one that they are brought to. -/
theorem unifiedType_of_types {es : List BoundExpr} {default : Option SqlType} {c : SqlType}
    (h : ∀ e ∈ es, e.type = c) (hc : c.Counts ∧ es ≠ [] ∨ default = some c) :
    unifiedType es default = .ok (some c) := by
  by_cases hall : c.Counts ∧ es ≠ []
  · obtain ⟨hcounts, hne⟩ := hall
    have hunknown : c ≠ .unknown := by
      rintro rfl
      exact absurd hcounts.1 (by decide)
    by_cases hliterals : (es.filter fun e => !e.isUntypedLiteral) = []
    · -- only literals, so that the second pass finds their type
      have htyped : commonType (es.filter fun e => !e.isUntypedLiteral) = .ok .unknown := by
        rw [hliterals]
        rfl
      rw [unifiedType_of_untyped default htyped (commonType_of_types hcounts hne h),
        if_neg hunknown]
    · refine unifiedType_of_typed default hunknown (commonType_of_types hcounts hliterals ?_)
      exact fun e he => h e (List.mem_filter.1 he).1
  · -- an untyped null, or no expression at all, leaves it to the default
    have hnone : ∀ e ∈ es, ¬e.type.Counts := by
      intro e he hcounts
      rw [h e he] at hcounts
      exact hall ⟨hcounts, List.ne_nil_of_mem he⟩
    have htyped : commonType (es.filter fun e => !e.isUntypedLiteral) = .ok .unknown :=
      commonType_of_not_counts fun e he => hnone e (List.mem_filter.1 he).1
    rw [unifiedType_of_untyped default htyped (commonType_of_not_counts hnone), if_pos rfl,
      hc.resolve_left hall]

/-! ## Unification -/

/-- What expressions are brought to is a type of values, if the one to fall back on is. -/
theorem isResolved_of_unifiedType {es : List BoundExpr} {default : Option SqlType} {c : SqlType}
    (hdefault : ∀ d, default = some d → d.isResolved = true)
    (h : unifiedType es default = .ok (some c)) : c.isResolved = true := by
  rcases counts_or_default h with ⟨hcounts, -⟩ | hc
  · exact hcounts.1
  · exact hdefault c hc

theorem run_unify_of_none {es : List BoundExpr} {default : Option SqlType}
    (h : unifiedType es default = .ok none) (s : WalkState σ) :
    BoundExpr.unify es default s = (.ok (es, .unknown), s) := by
  unfold BoundExpr.unify
  rw [h]
  rfl

theorem run_unify_of_types {es : List BoundExpr} {default : Option SqlType} {c : SqlType}
    (hes : ∀ e ∈ es, e.type = c) (h : unifiedType es default = .ok (some c)) (s : WalkState σ) :
    BoundExpr.unify es default s = (.ok (es, c), s) := by
  unfold BoundExpr.unify
  rw [h]
  show (do return (← BoundExpr.coerceAll c es, c) : Walk σ _) s = _
  rw [BoundExpr.coerceAll_of_types hes]
  rfl

/-- A unification that succeeds has found a type to bring all expressions to, or has nothing to
do. -/
theorem run_unify_ok {es es' : List BoundExpr} {default : Option SqlType} {c : SqlType}
    {s s' : WalkState σ} (h : BoundExpr.unify es default s = (.ok (es', c), s')) :
    unifiedType es default = .ok none ∧ es' = es ∧ c = .unknown ∧ s' = s
      ∨ unifiedType es default = .ok (some c) ∧ BoundExpr.coerceAll c es s = (.ok es', s') := by
  cases hcommon : unifiedType es default with
  | error e =>
    unfold BoundExpr.unify at h
    rw [hcommon] at h
    cases h
  | ok common =>
    cases common with
    | none =>
      rw [run_unify_of_none hcommon] at h
      cases h
      exact Or.inl ⟨rfl, rfl, rfl, rfl⟩
    | some c' =>
      unfold BoundExpr.unify at h
      rw [hcommon] at h
      have hcoerce : (do return (← BoundExpr.coerceAll c' es, c') : Walk σ _) s
          = (.ok (es', c), s') := h
      obtain ⟨es₁, s₁, hrun, hpair⟩ := Walk.run_bind_ok hcoerce
      cases hpair
      exact Or.inr ⟨rfl, hrun⟩

/-- **Unification delivers one type.** The program's own hooks grant no other type than the wanted
one, and with every hook that does so: if expressions are unified, with a type of values to fall
back on or none, there are as many afterwards. Either none had a type, there was none to fall back
on, and they are the same; or each of them has been adapted to the common type, in its place. Then
all have this type, constants have values of it, and what was not a literal casts to it. To unify
what has been unified changes nothing, neither the expressions nor what is known of parameters. -/
theorem unify_delivers :
    ParamHook.Grants ParamTypes
      ∧ ∀ (σ : Type) [ParamHook σ], ParamHook.Grants σ →
        ∀ (es es' : List BoundExpr) (default : Option SqlType) (c : SqlType) (s s' : WalkState σ),
          (∀ d, default = some d → d.isResolved = true) →
          BoundExpr.unify es default s = (.ok (es', c), s') →
          es'.length = es.length
            ∧ (c = .unknown ∧ default = none ∧ es' = es
              ∨ c.isResolved = true ∧ List.Forall₂ (BoundExpr.Adapted c) es es'
                ∧ (∀ e ∈ es', e.type = c)
                ∧ (∀ name value, BoundExpr.constant name value ∈ es' → value.type = c)
                ∧ ∀ e ∈ es, e.isUntypedLiteral = false → e.type.implicitlyCasts c = true)
            ∧ BoundExpr.unify es' default s' = (.ok (es', c), s') := by
  refine ⟨ParamTypes.grants, fun σ _ hgrants es es' default c s s' hdefault hrun => ?_⟩
  rcases run_unify_ok hrun with ⟨hnone, rfl, rfl, rfl⟩ | ⟨hcommon, hcoerce⟩
  · refine ⟨rfl, Or.inl ⟨rfl, ?_, rfl⟩, run_unify_of_none hnone s'⟩
    cases default with
    | none => rfl
    | some d => exact absurd hnone (unifiedType_ne_none es' d)
  · have hc := isResolved_of_unifiedType hdefault hcommon
    have hadapted : List.Forall₂ (BoundExpr.Adapted c) es es' :=
      BoundExpr.coerceAll_adapted hgrants hc es s es' s' hcoerce
    have htypes := BoundExpr.types_of_adapted hc hadapted
    have hlength := hadapted.length_eq
    refine ⟨hlength.symm, Or.inr ⟨hc, hadapted, htypes, fun name value => htypes _,
      BoundExpr.casts_of_adapted hadapted⟩, ?_⟩
    -- a second time, all have the type that they are to be brought to
    refine run_unify_of_types htypes (unifiedType_of_types htypes ?_) s'
    refine (counts_or_default hcommon).imp_left fun hfound => ⟨hfound.1, ?_⟩
    rw [← List.length_pos_iff, ← hlength, List.length_pos_iff]
    exact hfound.2

/-- A parameter without a type, the text `'7'`, a column of type `TINYINT` and an expression of type
`USMALLINT`. -/
def mixedExprs : List BoundExpr :=
  [.parameter "$1" 1 .unknown, .constant "'7'" (.datum (.text "7")),
    .column ⟨"a", .tinyint, 1, 0, 0⟩, .computed "b" .usmallint]

/-- The same expressions as ones of type `INTEGER`. -/
def mixedExprsAsInt : List BoundExpr :=
  [.parameter "$1" 1 .int, .constant "'7'" (.datum (.integer ⟨true, .w32⟩ 7 (by decide))),
    .computed "a" .int, .computed "b" .int]

/-- Each way in which an expression is brought to a type is taken once, and then there is nothing
left to do. -/
theorem unify_delivers_mixed :
    ParamHook.Grants ParamTypes
      ∧ (∀ d, some SqlType.varchar = some d → d.isResolved = true)
      ∧ BoundExpr.unify mixedExprs (some .varchar)
          (WalkState.initial (ParamTypes.inferred [.unknown] 1))
        = (.ok (mixedExprsAsInt, .int), .initial (.inferred [.int] 1))
      ∧ BoundExpr.unify mixedExprsAsInt (some .varchar)
          (WalkState.initial (ParamTypes.inferred [.int] 1))
        = (.ok (mixedExprsAsInt, .int), .initial (.inferred [.int] 1))
      ∧ ∀ e ∈ mixedExprsAsInt, e.type = .int := by
  have hdefault : ∀ d, some SqlType.varchar = some d → d.isResolved = true := by
    rintro d ⟨⟩
    rfl
  have hrun : BoundExpr.unify mixedExprs (some .varchar)
      (WalkState.initial (ParamTypes.inferred [.unknown] 1))
        = (.ok (mixedExprsAsInt, .int), .initial (.inferred [.int] 1)) := rfl
  obtain ⟨hgrants, h⟩ := unify_delivers
  obtain ⟨-, hone, hagain⟩ := h ParamTypes hgrants _ _ _ _ _ _ hdefault hrun
  rcases hone with ⟨hunknown, -⟩ | ⟨-, -, htypes, -⟩
  · cases hunknown
  · exact ⟨hgrants, hdefault, hrun, hagain, htypes⟩

end Prepared
