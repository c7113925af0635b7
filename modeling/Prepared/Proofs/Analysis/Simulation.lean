import Prepared.Proofs.Analysis.Agreement
import Prepared.Proofs.Analysis.Undecided

/-!
# The same step with types that are found and with types that are given

The types that an analysis finds are compared with the same types given beforehand. Where a
parameter was undecided when it was referred to, the second analysis has its type at once, so the
expressions of the two differ by `BoundExpr.decidedBy`. `Sim` says this of one step, and the lemmas
below show it for the rules of single forms.

The simulation looks ahead: that the second analysis succeeds depends on types that the first one
has found only in the end. So a step is compared under the assumption that its outcome leads to
these types, which holds of every step of a walk that ends there, since types only move forward.
-/

namespace Prepared

open Sql BindM

/-- The same state with fixed types. -/
def WalkState.fixed (types : List SqlType) (s : BindState) : BindState :=
  { s with params := .declared types }

/-- The first step, from a state in which types are found, moves them forward. If it succeeds with
types that move forward to the final ones, then the second step succeeds with these fixed, and what
it gives is the image of what the first one gives. -/
def Sim (final : List SqlType) (limit : Nat) {α β : Type} (s : BindState) (x : BindM α)
    (y : BindM β) (f : α → β) : Prop :=
  ∀ types, s.params = .inferred types limit → ∃ types', (x s).2.params = .inferred types' limit
    ∧ SlotsForward types types'
    ∧ (SlotsForward types' final → ∀ a, (x s).1 = .ok a →
      y (s.fixed final) = (.ok (f a), (x s).2.fixed final))

variable {final : List SqlType} {limit : Nat} {α β γ δ : Type} {s : BindState}

namespace Sim

/-! ## Putting steps together -/

protected theorem pure {a : α} {b : β} {f : α → β} (h : f a = b) :
    Sim final limit s (pure a) (pure b) f := by
  intro types htypes
  refine ⟨types, htypes, .refl types, fun _ a' ha => ?_⟩
  cases ha
  rw [h]
  rfl

protected theorem throw {y : BindM β} {f : α → β} (e : BindError) :
    Sim final limit s (throw e : BindM α) y f := by
  intro types htypes
  exact ⟨types, htypes, .refl types, fun _ a ha => by cases ha⟩

/-- The second of two steps starts from what the first one gave and left. -/
protected theorem bind {x : BindM α} {y : BindM β} {f : α → β} {g : α → BindM γ} {h : β → BindM δ}
    {k : γ → δ} (hx : Sim final limit s x y f)
    (hg : ∀ a s', x s = (.ok a, s') → Sim final limit s' (g a) (h (f a)) k) :
    Sim final limit s (x >>= g) (y >>= h) k := by
  intro types htypes
  obtain ⟨types₁, hparams₁, hforward₁, hsame₁⟩ := hx types htypes
  rw [Walk.run_bind, Walk.run_bind]
  rcases hxs : x s with ⟨r, s₁⟩
  rw [hxs] at hparams₁ hsame₁
  cases r with
  | error e => exact ⟨types₁, hparams₁, hforward₁, fun _ a ha => by cases ha⟩
  | ok a =>
    obtain ⟨types₂, hparams₂, hforward₂, hsame₂⟩ := hg a s₁ hxs types₁ hparams₁
    refine ⟨types₂, hparams₂, hforward₁.trans hforward₂, fun hfinal c hc => ?_⟩
    -- what leads to the final types after the second step does so before it
    rw [hsame₁ (hforward₂.trans hfinal) a rfl]
    exact hsame₂ hfinal c hc

protected theorem withScope {x : BindM α} {y : BindM β} {f : α → β}
    (h : Sim final limit { s with scopes := Scope.empty :: s.scopes } x y f) :
    Sim final limit s (withScope x) (withScope y) f := by
  intro types htypes
  obtain ⟨types', hparams, hforward, hsame⟩ := h types htypes
  refine ⟨types', hparams, hforward, fun hfinal a ha => ?_⟩
  have hy : y { s.fixed final with scopes := Scope.empty :: (s.fixed final).scopes }
      = (.ok (f a), (x { s with scopes := Scope.empty :: s.scopes }).2.fixed final) :=
    hsame hfinal a ha
  show ((y { s.fixed final with scopes := Scope.empty :: (s.fixed final).scopes }).1, _) = _
  rw [hy]
  rfl

/-! ## Steps that ask nothing -/

/-- A step that neither changes nor depends on what is known of parameters. -/
def Silent (x : BindM α) : Prop :=
  ∀ s p, x { s with params := p } = ((x s).1, { (x s).2 with params := p })

/-- **A silent step is simulated by itself.** With fixed types it gives the same and leaves the
same but for them. -/
theorem of_silent {x : BindM α} (h : Silent x) : Sim final limit s x x id := by
  intro types htypes
  have hparams : (x s).2.params = s.params := congrArg (·.2.params) (h s s.params)
  refine ⟨types, hparams.trans htypes, .refl types, fun _ a ha => ?_⟩
  show x { s with params := .declared final } = _
  rw [h s (.declared final), ha]
  rfl

protected theorem ofResult (x : Except BindError α) :
    Sim final limit s (ofResult x) (ofResult x) id :=
  of_silent fun _ _ => rfl

protected theorem ofType (x : Except TypeError α) : Sim final limit s (ofType x) (ofType x) id :=
  Sim.ofResult _

protected theorem ofCatalog (x : Except CatalogError α) :
    Sim final limit s (ofCatalog x) (ofCatalog x) id :=
  Sim.ofResult _

protected theorem newTable : Sim final limit s newTable newTable id :=
  of_silent fun _ _ => rfl

protected theorem resolveColumn (table : Option String) (column : String) :
    Sim final limit s (resolveColumn table column) (resolveColumn table column) id :=
  of_silent fun _ _ => rfl

protected theorem currentScope : Sim final limit s currentScope currentScope id := by
  refine of_silent ?_
  rintro ⟨scopes, q, tables⟩ p
  cases scopes <;> rfl

/-- Adding a table is silent, also where it is refused. -/
protected theorem addBinding (b : Binding) : Sim final limit s (addBinding b) (addBinding b) id := by
  refine of_silent ?_
  rintro ⟨scopes, q, tables⟩ p
  cases scopes with
  | nil => rfl
  | cons scope outer =>
    simp only [addBinding]
    cases scope.add b <;> rfl

/-! ## Questions -/

theorem run_referParam (n : Nat) (s : BindState) :
    referParam n s = ((s.params.answer (s.params.refer n)).1,
      { s with params := (s.params.answer (s.params.refer n)).2 }) :=
  rfl

theorem run_settleParam (n : Nat) (target : SqlType) (s : BindState) :
    settleParam n target s = ((s.params.answer (s.params.settle n target)).1,
      { s with params := (s.params.answer (s.params.settle n target)).2 }) :=
  rfl

/-- A reference that succeeds is one that the types of parameters answer. -/
theorem referParam_ok {n : Nat} {t : SqlType} {s s' : BindState}
    (h : referParam n s = (.ok t, s')) : s.params.refer n = .ok (t, s'.params) := by
  rw [run_referParam] at h
  obtain ⟨hanswer, rfl⟩ := Prod.mk.inj h
  exact ParamTypes.eq_ok_of_answer hanswer

/-- A type that is granted is one that the types of parameters grant. -/
theorem settleParam_ok {n : Nat} {t target : SqlType} {s s' : BindState}
    (h : settleParam n target s = (.ok t, s')) :
    s.params.settle n target = .ok (t, s'.params) := by
  rw [run_settleParam] at h
  obtain ⟨hanswer, rfl⟩ := Prod.mk.inj h
  exact ParamTypes.eq_ok_of_answer hanswer

/-- A type that a parameter has got is the one that it has in the end. -/
theorem decidedBy_parameter {types : List SqlType} {name : String} {n : Nat} {t : SqlType}
    (hfinal : SlotsForward types final) (hslot : ParamTypes.slot? types n = some t)
    (ht : t.isResolved = true) :
    (BoundExpr.parameter name n .unknown).decidedBy final = .parameter name n t := by
  rw [BoundExpr.decidedBy_undecided, ParamTypes.slot?_of_forward hfinal hslot ht]
  rfl

/-- A type that a parameter was referred to with is not replaced. -/
theorem decidedBy_of_isResolved {name : String} {n : Nat} {t : SqlType}
    (ht : t.isResolved = true) :
    (BoundExpr.parameter name n t).decidedBy final = .parameter name n t := by
  refine BoundExpr.decidedBy_of_not_isUndecided ?_
  cases t <;> first | rfl | cases ht

/-- A parameter with a fixed type is answered with it, however undecided it was. -/
protected theorem referParam (name : String) (n : Nat) :
    Sim final limit s (referParam n) (referParam n)
      fun t => ((BoundExpr.parameter name n t).decidedBy final).type := by
  intro types htypes
  rcases ParamTypes.refer_inferred types limit n with
    hrefused | ⟨types', t, hanswer, hforward, -, hslot, ht⟩
  · rw [run_referParam, htypes, hrefused]
    exact ⟨types, rfl, .refl types, fun _ a ha => by cases ha⟩
  · rw [run_referParam, htypes, hanswer]
    refine ⟨types', rfl, hforward, fun hfinal a ha => ?_⟩
    cases ha
    -- the parameter is known now, so it has a final type, which is the fixed answer
    obtain ⟨u, hu, htu⟩ := ParamTypes.exists_slot?_of_forward hfinal hslot
    have hfixed : (s.fixed final).params.refer n = .ok (u, .declared final) :=
      ParamTypes.refer_declared hu
    have htype : ((BoundExpr.parameter name n t).decidedBy final).type = u := by
      rcases ht with rfl | ht
      · rw [BoundExpr.decidedBy_undecided, hu]
        rfl
      · rw [decidedBy_of_isResolved ht, htu.eq_of_isResolved ht]
        rfl
    rw [run_referParam, hfixed]
    simp only [htype]
    rfl

/-- A placeholder, with the type that the reference has found or, if there is none, the final one.
-/
protected theorem bindLiteral (l : Literal) :
    Sim final limit s (bindLiteral l) (bindLiteral l) (·.decidedBy final) := by
  unfold bindLiteral
  split
  · split
    · rename_i text _ n _
      refine (Sim.referParam text n).bind fun t s' _ => Sim.pure ?_
      by_cases ht : t = .unknown
      · rw [ht]
        rfl
      · have hsame : (BoundExpr.parameter text n t).decidedBy final = .parameter text n t := by
          refine BoundExpr.decidedBy_of_not_isUndecided ?_
          cases t <;> first | rfl | exact absurd rfl ht
        rw [hsame]
        rfl
    · exact Sim.throw _
  · exact (Sim.ofType _).bind fun _ _ _ => Sim.pure rfl

/-! ## Coercions -/

/-- An inserted cast hides the type of its operand. -/
protected theorem castImplicitly (e : BoundExpr) (target : SqlType) :
    Sim final limit s (e.castImplicitly target) (e.castImplicitly target)
      (·.decidedBy final) := by
  unfold BoundExpr.castImplicitly
  split
  · exact Sim.pure rfl
  · exact Sim.throw _

/-- An undecided parameter that is brought to a type has this type in the end. -/
protected theorem settleParam (final : List SqlType) (name : String) (n : Nat) {target : SqlType}
    (htarget : target.isResolved = true) {types : List SqlType}
    (htypes : s.params = .inferred types limit) :
    ∃ types', (settleParam n target s).2.params = .inferred types' limit
      ∧ SlotsForward types types'
      ∧ ∀ t, (settleParam n target s).1 = .ok t → t = target
        ∧ (SlotsForward types' final →
          (BoundExpr.parameter name n .unknown).decidedBy final = .parameter name n target) := by
  rw [run_settleParam, htypes]
  cases hanswer : (ParamTypes.inferred types limit).settle n target with
  | error e => exact ⟨types, rfl, .refl types, fun t ht => by cases ht⟩
  | ok r =>
    obtain ⟨t, p⟩ := r
    obtain ⟨types', rfl, hforward, rfl, hslot⟩ := ParamTypes.settle_inferred_ok htarget hanswer
    refine ⟨types', rfl, hforward, fun u hu => ?_⟩
    cases hu
    exact ⟨rfl, fun hfinal => decidedBy_parameter hfinal hslot htarget⟩

/-- A type that is none of values is not brought to anything. -/
theorem coerce_of_not_isResolved (e : BoundExpr) {target : SqlType}
    (h : target.isResolved = false) : (e.coerce target : BindM BoundExpr) = pure e := by
  unfold BoundExpr.coerce
  rw [if_pos (Or.inr h)]

/-- With the wanted type there is nothing to do. -/
theorem coerce_of_type_eq (e : BoundExpr) {target : SqlType} (h : e.type = target) :
    (e.coerce target : BindM BoundExpr) = pure e := by
  unfold BoundExpr.coerce
  rw [if_pos (Or.inl h)]

/-- An undecided parameter is asked about, since its type is none that values have. -/
theorem coerce_undecided (name : String) (n : Nat) {target : SqlType}
    (h : target.isResolved = true) :
    ((BoundExpr.parameter name n .unknown).coerce target : BindM BoundExpr)
      = do return .parameter name n (← settleParam n target) := by
  have hguard : ¬((BoundExpr.parameter name n .unknown).type = target
      ∨ target.isResolved = false) := by
    rintro (h' | h')
    · rw [← h'] at h
      cases h
    · rw [h] at h'
      cases h'
  unfold BoundExpr.coerce
  rw [if_neg hguard]

/-- Where no undecided parameter is brought to a type, nothing is asked. -/
theorem coerce_silent {e : BoundExpr} (he : e.isUndecided = false) (target : SqlType) :
    Sim final limit s (e.coerce target) (e.coerce target) (·.decidedBy final) := by
  unfold BoundExpr.coerce
  split
  · exact Sim.pure (BoundExpr.decidedBy_of_not_isUndecided he)
  · split
    · cases he
    · split
      · exact (Sim.ofType _).bind fun _ _ _ => Sim.pure rfl
      · exact Sim.castImplicitly _ _
    · exact Sim.castImplicitly _ _

/-- An undecided parameter that is brought to a type has the type from the beginning in the second
analysis, which has nothing to do then. -/
theorem of_isUndecided {e : BoundExpr} {target : SqlType} {y : BindM BoundExpr}
    (he : e.isUndecided = true) (ht : target.isResolved = true)
    (hy : (e.decidedBy final).type = target → y = Pure.pure (e.decidedBy final)) :
    Sim final limit s (e.coerce target) y (·.decidedBy final) := by
  obtain ⟨name, n, rfl⟩ := BoundExpr.isUndecided_iff.1 he
  rw [coerce_undecided name n ht]
  intro types htypes
  obtain ⟨types', hparams, hforward, hsettled⟩ :=
    Sim.settleParam final name n ht htypes
  -- the question changes what is known of parameters and nothing else
  have hstate : (settleParam n target s).2.fixed final = s.fixed final := rfl
  rw [Walk.run_bind]
  rcases hrun : settleParam n target s with ⟨r, s'⟩
  rw [hrun] at hparams hsettled hstate
  cases r with
  | error e => exact ⟨types', hparams, hforward, fun _ a ha => by cases ha⟩
  | ok t =>
    obtain ⟨rfl, hdecided⟩ := hsettled t rfl
    refine ⟨types', hparams, hforward, fun hfinal a ha => ?_⟩
    cases ha
    rw [hy (by rw [hdecided hfinal]; rfl), hdecided hfinal]
    show (Except.ok _, s.fixed final) = (Except.ok _, s'.fixed final)
    rw [hstate]
    simp only [decidedBy_of_isResolved ht]

/-- **Coercion.** An undecided parameter takes the wanted type; whatever else is coerced is the same
in both analyses. -/
protected theorem coerce (e : BoundExpr) (target : SqlType) :
    Sim final limit s (e.coerce target) ((e.decidedBy final).coerce target)
      (·.decidedBy final) := by
  cases he : e.isUndecided with
  | false =>
    rw [BoundExpr.decidedBy_of_not_isUndecided he]
    exact coerce_silent he target
  | true =>
    cases ht : target.isResolved with
    | false =>
      rw [coerce_of_not_isResolved _ ht, coerce_of_not_isResolved _ ht]
      exact Sim.pure rfl
    | true => exact of_isUndecided he ht fun htype => coerce_of_type_eq _ htype

/-- In the second analysis the parameter has a type, and is left alone for it. -/
protected theorem coerceUnknown (e : BoundExpr) {target : SqlType}
    (ht : target.isResolved = true) :
    Sim final limit s (e.coerceUnknown target) ((e.decidedBy final).coerceUnknown target)
      (·.decidedBy final) := by
  unfold BoundExpr.coerceUnknown
  cases he : e.isUndecided with
  | false =>
    rw [BoundExpr.decidedBy_of_not_isUndecided he]
    split
    · exact coerce_silent he target
    · exact Sim.pure (BoundExpr.decidedBy_of_not_isUndecided he)
  | true =>
    rw [if_pos (BoundExpr.type_of_isUndecided he)]
    refine of_isUndecided he ht fun htype => ?_
    split
    · exact coerce_of_type_eq _ htype
    · rfl

/-- Types only move forward in the first analysis. -/
theorem forward {x : BindM α} {y : BindM β} {f : α → β} (h : Sim final limit s x y f)
    {types : List SqlType} (htypes : s.params = .inferred types limit) {s' : BindState}
    {r : Except BindError α} (hrun : x s = (r, s')) :
    ∃ types', s'.params = .inferred types' limit ∧ SlotsForward types types' := by
  obtain ⟨types', hparams, hforward, -⟩ := h types htypes
  rw [hrun] at hparams
  exact ⟨types', hparams, hforward⟩

/-- An undecided parameter that is brought to a type has this type in the end. -/
theorem type_decidedBy_of_coerce {e e' : BoundExpr} {target : SqlType} {s s' : BindState}
    {types types' : List SqlType} (he : e.isUndecided = true) (ht : target.isResolved = true)
    (htypes : s.params = .inferred types limit) (hrun : e.coerce target s = (.ok e', s'))
    (htypes' : s'.params = .inferred types' limit) (hfinal : SlotsForward types' final) :
    (e.decidedBy final).type = target := by
  obtain ⟨name, n, rfl⟩ := BoundExpr.isUndecided_iff.1 he
  rw [coerce_undecided name n ht] at hrun
  obtain ⟨t, s₁, hsettle, hrun⟩ := Walk.run_bind_ok hrun
  cases hrun
  obtain ⟨types₁, htypes₁, -, hsettled⟩ :=
    Sim.settleParam final name n ht htypes
  rw [hsettle] at htypes₁ hsettled
  obtain rfl : types₁ = types' := ParamTypes.types_unique htypes₁ htypes'
  rw [(hsettled t rfl).2 hfinal]
  rfl

protected theorem coerceAll (target : SqlType) (es : List BoundExpr) :
    Sim final limit s (BoundExpr.coerceAll target es)
      (BoundExpr.coerceAll target (es.map (·.decidedBy final))) (List.map (·.decidedBy final)) := by
  induction es generalizing s with
  | nil => exact Sim.pure rfl
  | cons e es ih =>
    rw [List.map_cons]
    unfold BoundExpr.coerceAll
    refine (Sim.coerce e target).bind fun e' s₁ _ => ?_
    exact ih.bind fun es' s₂ _ => Sim.pure rfl

protected theorem coerceEach (es : List BoundExpr) (ts : List SqlType) :
    Sim final limit s (BoundExpr.coerceEach es ts)
      (BoundExpr.coerceEach (es.map (·.decidedBy final)) ts) (List.map (·.decidedBy final)) := by
  induction es generalizing s ts with
  | nil => exact Sim.pure rfl
  | cons e es ih =>
    cases ts with
    | nil => exact Sim.pure rfl
    | cons t ts =>
      rw [List.map_cons]
      unfold BoundExpr.coerceEach
      refine (Sim.coerce e t).bind fun e' s₁ _ => ?_
      exact (ih ts).bind fun es' s₂ _ => Sim.pure rfl

/-- The same for each of several expressions. -/
theorem decidedAs_of_coerceAll {target : SqlType} (ht : target.isResolved = true)
    {es es' : List BoundExpr} {s s' : BindState} {types types' : List SqlType}
    (htypes : s.params = .inferred types limit)
    (hrun : BoundExpr.coerceAll target es s = (.ok es', s'))
    (htypes' : s'.params = .inferred types' limit) (hfinal : SlotsForward types' final) :
    DecidedAs final target es := by
  induction es generalizing s es' types with
  | nil => exact fun e he => absurd he List.not_mem_nil
  | cons e es ih =>
    unfold BoundExpr.coerceAll at hrun
    obtain ⟨e', s₁, he, hrun⟩ := Walk.run_bind_ok hrun
    obtain ⟨es'', s₂, hes, hrun⟩ := Walk.run_bind_ok hrun
    cases hrun
    -- the types after the first coercion lead to those after the rest
    have hfirst : Sim final limit s (e.coerce target) _ _ := Sim.coerce e target
    have hrest : Sim final limit s₁ (BoundExpr.coerceAll target es) _ _ := Sim.coerceAll target es
    obtain ⟨types₁, htypes₁, -⟩ := hfirst.forward htypes he
    obtain ⟨types₂, htypes₂, hforward⟩ := hrest.forward htypes₁ hes
    obtain rfl : types₂ = types' := ParamTypes.types_unique htypes₂ htypes'
    refine List.forall_mem_cons.2 ⟨fun hu => ?_, ih htypes₁ hes⟩
    exact type_decidedBy_of_coerce hu ht htypes he htypes₁ (hforward.trans hfinal)

/-- **Unification.** Expressions are brought to the same type in both analyses, unless it is none
and there are undecided parameters among them. -/
protected theorem unify {es : List BoundExpr} {default : Option SqlType}
    (hdefault : ∀ d, default = some d → d.Counts)
    (hnone : unifiedType es default = .ok none → ∀ e ∈ es, e.isUndecided = false) :
    Sim final limit s (BoundExpr.unify es default)
      (BoundExpr.unify (es.map (·.decidedBy final)) default)
      (Prod.map (List.map (·.decidedBy final)) id) := by
  unfold BoundExpr.unify
  cases hu : unifiedType es default with
  | error e => exact fun types htypes => ⟨types, htypes, .refl types, fun _ a ha => by cases ha⟩
  | ok common =>
    cases common with
    | none =>
      -- nothing is brought to a type, so nothing may be undecided
      have hsame : es.map (·.decidedBy final) = es := by
        rw [List.map_congr_left fun e he =>
          BoundExpr.decidedBy_of_not_isUndecided (hnone hu e he)]
        exact List.map_id' es
      rw [hsame, hu]
      refine (Sim.ofType _).bind fun common s₁ hcommon => ?_
      cases hcommon
      refine Sim.pure ?_
      rw [Prod.map_apply, hsame]
      rfl
    | some c =>
      have hc : c.Counts := counts_unifiedType hdefault hu
      have hsim : Sim final limit s (do return (← BoundExpr.coerceAll c es, c))
          (do return (← BoundExpr.coerceAll c (es.map (·.decidedBy final)), c))
          (Prod.map (List.map (·.decidedBy final)) id) :=
        (Sim.coerceAll c es).bind fun _ _ _ => Sim.pure rfl
      intro types htypes
      obtain ⟨types', hparams, hforward, hsame⟩ := hsim types htypes
      refine ⟨types', hparams, hforward, fun hfinal a ha => ?_⟩
      -- all undecided parameters have been brought to `c`, so `c` is the common type once more
      have hdecided : DecidedAs final c es := by
        have hrun : (do return (← BoundExpr.coerceAll c es, c) : BindM _) s = (.ok a, _) :=
          Prod.ext ha rfl
        obtain ⟨es', s', hcoerce, hrun⟩ := Walk.run_bind_ok hrun
        cases hrun
        exact decidedAs_of_coerceAll hc.1 htypes hcoerce hparams hfinal
      rw [unifiedType_decided hc hdecided hu]
      exact hsame hfinal a ha

/-- Text is what expressions without a type are brought to. -/
theorem counts_varchar : ∀ d, some SqlType.varchar = some d → d.Counts := by
  rintro d ⟨⟩
  decide

/-- With text to fall back on, expressions are brought to the same type in any case. -/
protected theorem unifyText (es : List BoundExpr) :
    Sim final limit s (BoundExpr.unify es (some .varchar))
      (BoundExpr.unify (es.map (·.decidedBy final)) (some .varchar))
      (Prod.map (List.map (·.decidedBy final)) id) := by
  exact Sim.unify counts_varchar fun hnone => absurd hnone (unifiedType_ne_none es .varchar)

/-! ## Rules for single forms -/

protected theorem bindColumnRef (parts : List Ident) :
    Sim final limit s (bindColumnRef parts) (bindColumnRef parts) (·.decidedBy final) := by
  unfold bindColumnRef
  split
  · exact (Sim.resolveColumn _ _).bind fun _ _ _ => Sim.pure rfl
  · exact (Sim.resolveColumn _ _).bind fun _ _ _ => Sim.pure rfl
  · exact Sim.throw _

/-- An undecided parameter is settled to the type of the cast, so the second analysis finds nothing
to cast. -/
protected theorem bindCast (name : String) {target : SqlType} (ht : target.isResolved = true)
    (e : BoundExpr) :
    Sim final limit s (bindCast name target e) (bindCast name target (e.decidedBy final))
      (·.decidedBy final) := by
  have hresolved : target ≠ .unknown := by
    rintro rfl
    cases ht
  unfold bindCast
  cases he : e.isUndecided with
  | true =>
    rw [if_pos (BoundExpr.type_of_isUndecided he)]
    refine of_isUndecided he ht fun htype => ?_
    rw [if_neg (by rw [htype]; exact hresolved), if_pos htype]
  | false =>
    rw [BoundExpr.decidedBy_of_not_isUndecided he]
    split
    · exact coerce_silent he target
    · split
      · exact Sim.pure (BoundExpr.decidedBy_of_not_isUndecided he)
      · split
        · exact (Sim.ofType _).bind fun _ _ _ => Sim.pure rfl
        · exact Sim.pure rfl

/-- A comparison forgets what its operands were brought to. -/
protected theorem bindComparison (name : String) (es : List BoundExpr) :
    Sim final limit s (bindComparison name es)
      (bindComparison name (es.map (·.decidedBy final))) (·.decidedBy final) := by
  unfold bindComparison
  exact (Sim.unifyText es).bind fun _ _ _ => Sim.pure rfl

/-- The common type is the same in both, so it is the type of the whole. -/
protected theorem bindBranches (name : String) (es : List BoundExpr) :
    Sim final limit s (bindBranches name es)
      (bindBranches name (es.map (·.decidedBy final))) (·.decidedBy final) := by
  unfold bindBranches
  exact (Sim.unifyText es).bind fun _ _ _ => Sim.pure rfl

protected theorem bindConnective (name : String) (l r : BoundExpr) :
    Sim final limit s (bindConnective name l r)
      (bindConnective name (l.decidedBy final) (r.decidedBy final)) (·.decidedBy final) := by
  unfold bindConnective
  refine (Sim.coerce l _).bind fun _ _ _ => ?_
  exact (Sim.coerce r _).bind fun _ _ _ => Sim.pure rfl

protected theorem bindConcat (name : String) (l r : BoundExpr) :
    Sim final limit s (bindConcat name l r)
      (bindConcat name (l.decidedBy final) (r.decidedBy final)) (·.decidedBy final) := by
  unfold bindConcat
  refine (Sim.coerceUnknown l rfl).bind fun _ _ _ => ?_
  exact (Sim.coerceUnknown r rfl).bind fun _ _ _ => Sim.pure rfl

/-- An arithmetic operation gives the same type, if it does not take over an undecided one. -/
protected theorem bindArithmetic (name : String) (op : BinaryOp) {l r : BoundExpr}
    (h : unifiedType [l, r] none = .ok none → l.isUndecided = false ∧ r.isUndecided = false) :
    Sim final limit s (bindArithmetic name op l r)
      (bindArithmetic name op (l.decidedBy final) (r.decidedBy final)) (·.decidedBy final) := by
  have hnone : unifiedType [l, r] none = .ok none → ∀ e ∈ [l, r], e.isUndecided = false := by
    intro hu
    exact List.forall_mem_cons.2 ⟨(h hu).1, List.forall_mem_singleton.2 (h hu).2⟩
  unfold bindArithmetic
  refine (Sim.unify (fun _ hd => by cases hd) hnone).bind fun u _ _ => ?_
  dsimp only [Prod.map_snd, id]
  split
  · exact Sim.throw _
  · exact Sim.pure rfl

/-- Only the arithmetic operators can take an undecided type over. -/
protected theorem bindBinary (name : String) (op : BinaryOp) {l r : BoundExpr}
    (h : op.isArithmetic = true → unifiedType [l, r] none = .ok none →
      l.isUndecided = false ∧ r.isUndecided = false) :
    Sim final limit s (bindBinary name op l r)
      (bindBinary name op (l.decidedBy final) (r.decidedBy final)) (·.decidedBy final) := by
  cases op with
  | eq | notEq | lt | ltEq | gt | gtEq => exact Sim.bindComparison name [l, r]
  | plus | minus | multiply | divide | modulo => exact Sim.bindArithmetic name _ (h rfl)
  | and | or => exact Sim.bindConnective name l r
  | concat => exact Sim.bindConcat name l r
  | other | custom => exact Sim.throw _

/-- A sign leaves the type as it is, if it does not take over an undecided one. -/
protected theorem bindUnary (name : String) (op : UnaryOp) {e : BoundExpr}
    (h : op.isSign = true → e.isUndecided = false) :
    Sim final limit s (bindUnary name op e) (bindUnary name op (e.decidedBy final))
      (·.decidedBy final) := by
  have hsign (op : UnaryOp) (he : e.isUndecided = false) :
      Sim final limit s (bindSign name op e) (bindSign name op (e.decidedBy final))
        (·.decidedBy final) := by
    rw [BoundExpr.decidedBy_of_not_isUndecided he]
    unfold bindSign
    split
    · exact Sim.throw _
    · exact Sim.pure rfl
  have hnot : Sim final limit s (bindNot name e) (bindNot name (e.decidedBy final))
      (·.decidedBy final) := by
    unfold bindNot
    exact (Sim.coerce e _).bind fun _ _ _ => Sim.pure rfl
  cases op with
  | not => exact hnot
  | plus | minus => exact hsign _ (h rfl)
  | factorial | other => exact Sim.throw _

/-! ## Outputs of queries -/

protected theorem singleColumn (q : BoundQuery) :
    Sim final limit s (singleColumn q) (singleColumn (q.decidedBy final)) (·.decidedBy final) := by
  unfold singleColumn BoundQuery.decidedBy
  rcases q.columns with _ | ⟨column, _ | ⟨next, rest⟩⟩
  · exact Sim.throw _
  · exact Sim.pure rfl
  · exact Sim.throw _

/-- With text to fall back on nothing stays undecided. -/
protected theorem firstUnified (es : List BoundExpr) :
    Sim final limit s (firstUnified es) (firstUnified (es.map (·.decidedBy final)))
      (List.map (·.decidedBy final)) := by
  unfold firstUnified
  exact (Sim.unifyText es).bind fun u s₁ _ => Sim.pure (List.map_take)

protected theorem combineColumns (ls rs : List BoundExpr) :
    Sim final limit s (combineColumns ls rs)
      (combineColumns (ls.map (·.decidedBy final)) (rs.map (·.decidedBy final)))
      (List.map (·.decidedBy final)) := by
  induction ls generalizing s rs with
  | nil => exact Sim.pure rfl
  | cons l ls ih =>
    cases rs with
    | nil => exact Sim.pure rfl
    | cons r rs =>
      rw [List.map_cons, List.map_cons]
      unfold combineColumns
      refine (Sim.firstUnified [l, r]).bind fun u s₁ _ => ?_
      exact (ih rs).bind fun us s₂ _ => Sim.pure (List.map_append)

/-- Widths and names are the same in both. -/
protected theorem combineQueries (l r : BoundQuery) :
    Sim final limit s (combineQueries l r)
      (combineQueries (l.decidedBy final) (r.decidedBy final)) (·.decidedBy final) := by
  unfold combineQueries BoundQuery.decidedBy
  simp only [List.length_map]
  split
  · exact Sim.throw _
  · exact (Sim.combineColumns l.columns r.columns).bind fun _ _ _ => Sim.pure rfl

protected theorem unifyColumns (columns : List (List BoundExpr))
    (expected : Option (List SqlType)) :
    Sim final limit s (unifyColumns columns expected)
      (unifyColumns (columns.map (List.map (·.decidedBy final))) expected)
      (List.map (·.decidedBy final)) := by
  induction columns generalizing s expected with
  | nil =>
    unfold unifyColumns
    exact Sim.pure rfl
  | cons column columns ih =>
    rw [List.map_cons]
    have hunify (expected : Option (List SqlType)) : Sim final limit s
        (do return (← firstUnified column) ++ (← unifyColumns columns expected))
        (do return (← firstUnified (column.map (·.decidedBy final)))
          ++ (← unifyColumns (columns.map (List.map (·.decidedBy final))) expected))
        (List.map (·.decidedBy final)) := by
      refine (Sim.firstUnified column).bind fun u s₁ _ => ?_
      exact (ih expected).bind fun us s₂ _ => Sim.pure (List.map_append)
    rcases expected with _ | _ | ⟨t, ts⟩
    · exact hunify none
    · exact hunify (some [])
    · unfold unifyColumns
      refine (Sim.coerceAll t column).bind fun es s₁ _ => ?_
      refine (ih (some ts)).bind fun us s₂ _ => Sim.pure ?_
      rw [List.map_append, List.map_take]

/-- Deciding the cells of rows decides those of their columns. -/
theorem columnsOf_decidedBy (width : Nat) (rows : List (List BoundExpr)) :
    columnsOf width (rows.map (List.map (·.decidedBy final)))
      = (columnsOf width rows).map (List.map (·.decidedBy final)) := by
  unfold columnsOf
  rw [List.map_map]
  refine List.map_congr_left fun i _ => ?_
  rw [Function.comp_apply, List.filterMap_map, List.map_filterMap]
  exact congrArg (fun f => rows.filterMap f) (funext fun row => List.getElem?_map)

protected theorem checkWidth (expected : Option (List SqlType)) (width : Nat) :
    Sim final limit s (checkWidth expected width) (checkWidth expected width) id := by
  unfold checkWidth
  split
  · split
    · exact Sim.pure rfl
    · exact Sim.throw _
  · exact Sim.pure rfl

/-- The check leaves the state as it was. -/
theorem state_of_checkWidth {expected : Option (List SqlType)} {width : Nat} {u : Unit}
    {s s' : BindState} (h : checkWidth expected width s = (.ok u, s')) : s = s' := by
  unfold checkWidth at h
  split at h
  · split at h
    · cases h
      rfl
    · cases h
  · cases h
    rfl

/-- Columns are brought to the wanted types, or left undecided if none are wanted. -/
protected theorem fitOutput (expected : Option (List SqlType)) (columns : List BoundExpr) :
    Sim final limit s (fitOutput expected columns)
      (fitOutput expected (columns.map (·.decidedBy final))) (List.map (·.decidedBy final)) := by
  unfold fitOutput
  rw [List.length_map]
  refine (Sim.checkWidth _ _).bind fun _ s₁ _ => ?_
  cases expected with
  | none => exact Sim.pure rfl
  | some types => exact Sim.coerceEach columns types

protected theorem starColumns (table : String) (columns : List Column) :
    Sim final limit s (starColumns table columns) (starColumns table columns)
      (List.map (·.decidedBy final)) := by
  induction columns generalizing s with
  | nil => exact Sim.pure rfl
  | cons c cs ih =>
    unfold starColumns
    refine (Sim.resolveColumn _ _).bind fun column s₁ _ => ?_
    exact ih.bind fun es s₂ _ => Sim.pure rfl

protected theorem starBindings (bindings : List Binding) :
    Sim final limit s (starBindings bindings) (starBindings bindings)
      (List.map (·.decidedBy final)) := by
  induction bindings generalizing s with
  | nil => exact Sim.pure rfl
  | cons b bs ih =>
    unfold starBindings
    refine (Sim.starColumns _ _).bind fun es s₁ _ => ?_
    exact ih.bind fun fs s₂ _ => Sim.pure (List.map_append)

/-- Wildcards give columns of tables, and none of these is undecided. -/
protected theorem bindStar (table : Option ObjectName) :
    Sim final limit s (bindStar table) (bindStar table) (List.map (·.decidedBy final)) := by
  unfold bindStar
  cases table with
  | none =>
    refine Sim.currentScope.bind fun scope s₁ _ => ?_
    dsimp only [id]
    split
    · exact Sim.throw _
    · exact Sim.starBindings _
  | some table =>
    refine (Sim.ofResult _).bind fun name s₁ _ => ?_
    refine Sim.currentScope.bind fun scope s₂ _ => ?_
    dsimp only [id]
    split
    · exact Sim.starBindings _
    · exact Sim.throw _

/-- The catalog does not know about parameters. -/
protected theorem bindTable (catalog : Catalog) (name : ObjectName) (label : Option TableAlias) :
    Sim final limit s (bindTable catalog name label) (bindTable catalog name label) id := by
  unfold bindTable
  refine (Sim.ofResult _).bind fun name s₁ _ => ?_
  refine (Sim.ofCatalog _).bind fun table s₂ _ => ?_
  refine Sim.newTable.bind fun index s₃ _ => ?_
  exact Sim.addBinding _

/-- An output without undecided parameters is the same in both analyses. -/
theorem decidedBy_of_isDecided {q : BoundQuery} (h : q.IsDecided) : q.decidedBy final = q := by
  unfold BoundQuery.decidedBy
  rw [List.map_congr_left fun e he => BoundExpr.decidedBy_of_not_isUndecided (h e he), List.map_id']

/-- A table takes over the types of its columns, so all of them have to be decided. -/
protected theorem bindDerived {q : BoundQuery} (h : q.IsDecided) (label : TableAlias) :
    Sim final limit s (bindDerived q label) (bindDerived (q.decidedBy final) label) id := by
  rw [decidedBy_of_isDecided h]
  unfold bindDerived
  refine Sim.newTable.bind fun index s₁ _ => ?_
  exact Sim.addBinding _

/-- Deciding the type of a column leaves it its name. -/
theorem underOwnNames_decidedBy (columns : List BoundExpr) :
    underOwnNames (columns.map (·.decidedBy final)) = (underOwnNames columns).decidedBy final := by
  unfold underOwnNames BoundQuery.decidedBy
  rw [List.map_map]
  congr 1
  exact List.map_congr_left fun e _ => BoundExpr.name_decidedBy final e

/-- The branches of a `CASE` with the one that may be missing. -/
theorem append_toList_decidedBy (es : List BoundExpr) (e : Option BoundExpr) :
    (es ++ e.toList).map (·.decidedBy final)
      = es.map (·.decidedBy final) ++ (e.map (·.decidedBy final)).toList := by
  cases e <;> simp

/-- The column that a query stands for is one of its columns. -/
theorem mem_of_singleColumn {q : BoundQuery} {column : BoundExpr} {s s' : BindState}
    (h : singleColumn q s = (.ok column, s')) : column ∈ q.columns := by
  unfold singleColumn at h
  rcases hcolumns : q.columns with _ | ⟨only, _ | ⟨next, rest⟩⟩ <;> rw [hcolumns] at h <;> cases h
  exact List.mem_singleton_self _

theorem append_decidedBy (q r : BoundQuery) :
    (q.decidedBy final).append (r.decidedBy final) = (q.append r).decidedBy final := by
  unfold BoundQuery.append BoundQuery.decidedBy
  rw [List.map_append]

end Sim

end Prepared
