import Prepared.Proofs.Analysis.Simulation

/-!
# Types that are found in any state

What a step gives may depend on the state, but for most forms the type does not: a comparison is a
boolean, a concatenation is a text, and what has been brought to a common type has that type. So
these types are known without a look at how the operands were bound.

`Walk.Yields` is a postcondition of the steps that succeed. The rules below are stated with it, one
for each step that has something to say about types.
-/

namespace Prepared

open Sql BindM

/-! ## Postconditions -/

/-- Whatever the step gives when it succeeds satisfies `P`. -/
def Walk.Yields {σ α : Type} (x : Walk σ α) (P : α → Prop) : Prop :=
  ∀ s a s', x s = (.ok a, s') → P a

namespace Walk.Yields

variable {σ α β : Type} {P : α → Prop} {Q : β → Prop}

theorem any (x : Walk σ α) : Yields x fun _ => True :=
  fun _ _ _ _ => trivial

theorem mono {x : Walk σ α} {P' : α → Prop} (h : Yields x P) (hsub : ∀ a, P a → P' a) :
    Yields x P' :=
  fun s a s' hrun => hsub a (h s a s' hrun)

theorem pure {a : α} (h : P a) : Yields (pure a : Walk σ α) P := by
  intro s a' s' hrun
  cases hrun
  exact h

theorem throw (e : BindError) : Yields (throw e : Walk σ α) P := by
  intro s a s' hrun
  cases hrun

theorem ofResult {r : Except BindError α} (h : ∀ a, r = .ok a → P a) :
    Yields (ofResult r : Walk σ α) P := by
  intro s a s' hrun
  cases hrun
  exact h a rfl

theorem ofType {r : Except TypeError α} (h : ∀ a, r = .ok a → P a) :
    Yields (ofType r : Walk σ α) P := by
  refine ofResult fun a ha => ?_
  cases r with
  | error e => cases ha
  | ok a' =>
    cases ha
    exact h a rfl

/-- The second step may count on the postcondition of the first. -/
theorem bind {x : Walk σ α} {f : α → Walk σ β} (hx : Yields x P) (hf : ∀ a, P a → Yields (f a) Q) :
    Yields (x >>= f) Q := by
  intro s b s'' hrun
  obtain ⟨a, s', hrun, hrun'⟩ := Walk.run_bind_ok hrun
  exact hf a (hx s a s' hrun) s' b s'' hrun'

/-- The second step shows the postcondition whatever the first one gave. -/
theorem then_ {x : Walk σ α} {f : α → Walk σ β} (hf : ∀ a, Yields (f a) Q) : Yields (x >>= f) Q :=
  (any x).bind fun a _ => hf a

end Walk.Yields

open Walk

/-! ## Expressions that are brought to a type -/

/-- An expression with a type that values have. -/
def BoundExpr.IsTyped (e : BoundExpr) : Prop :=
  e.type.isResolved = true

/-- A wanted type that is granted is the one that was wanted. -/
theorem ParamTypes.settle_eq_target {p p' : ParamTypes} {n : Nat} {t target : SqlType}
    (h : p.settle n target = .ok (t, p')) : t = target := by
  -- a type that is there already has to be the wanted one, and one that is free becomes it
  unfold settle at h
  dsimp only at h
  split at h
  · cases h
  · split at h
    · split at h
      · rename_i hsame
        cases h
        exact hsame
      · cases h
    · cases h
  · split at h
    · split at h
      · split at h
        · rename_i hsame
          cases h
          exact hsame
        · cases h
      · cases h
        rfl
    · cases h

/-- Through the hook that records types, a settled parameter has the wanted type and no other. -/
theorem settleParam_yields (n : Nat) (target : SqlType) :
    Yields (settleParam n target : BindM _) (· = target) := by
  intro s t s' hrun
  exact ParamTypes.settle_eq_target (Sim.settleParam_ok hrun)

section Coercion

variable {target : SqlType} (ht : target.isResolved = true)

include ht

/-- An inserted cast has the type that it casts to. -/
theorem castImplicitly_yields (e : BoundExpr) :
    Yields (e.castImplicitly target : BindM _) BoundExpr.IsTyped := by
  unfold BoundExpr.castImplicitly
  split
  · exact .pure ht
  · exact .throw _

/-- **Coercion to a type that values have gives an expression with a type.** Of the five ways out,
the first leaves the expression alone, since it has the type already. -/
theorem coerce_yields (e : BoundExpr) : Yields (e.coerce target : BindM _) BoundExpr.IsTyped := by
  unfold BoundExpr.coerce
  split
  · rename_i hkept
    rcases hkept with hsame | hunresolved
    · refine .pure ?_
      unfold BoundExpr.IsTyped
      rw [hsame]
      exact ht
    · rw [ht] at hunresolved
      cases hunresolved
  · split
    · refine (settleParam_yields _ target).bind fun t hsame => .pure ?_
      subst hsame
      exact ht
    · split
      · -- a literal is converted, and no value is without a type
        exact .then_ fun v => .pure v.type_isResolved
      · exact castImplicitly_yields ht _
    · exact castImplicitly_yields ht _

theorem coerceAll_yields (es : List BoundExpr) :
    Yields (BoundExpr.coerceAll target es : BindM _) fun es => ∀ e ∈ es, e.IsTyped := by
  induction es with
  | nil => exact .pure fun e he => absurd he List.not_mem_nil
  | cons e es ih =>
    unfold BoundExpr.coerceAll
    refine (coerce_yields ht e).bind fun e' he' => ?_
    exact ih.bind fun es' hes' => .pure (List.forall_mem_cons.2 ⟨he', hes'⟩)

end Coercion

/-! ## Common types -/

/-- Expressions are brought to a type that values have, or none has a type and there is none to fall
back on. -/
theorem unify_yields (es : List BoundExpr) (default : Option SqlType)
    (hdefault : ∀ d, default = some d → d.Counts) :
    Yields (BoundExpr.unify es default : BindM _) fun r =>
      r.2.isResolved = true ∧ (∀ e ∈ r.1, e.IsTyped)
        ∨ unifiedType es default = .ok none ∧ r = (es, .unknown) := by
  unfold BoundExpr.unify
  have hcommon : Yields (ofType (unifiedType es default) : BindM _) fun common =>
      unifiedType es default = .ok common := .ofType fun _ h => h
  refine hcommon.bind fun common h => ?_
  cases common with
  | none => exact .pure (Or.inr ⟨h, rfl⟩)
  | some c =>
    have hc : c.isResolved = true := (counts_unifiedType hdefault h).1
    exact (coerceAll_yields hc es).bind fun es' hes' => .pure (Or.inl ⟨hc, hes'⟩)

/-- With text to fall back on, every expression gets a type. -/
theorem unifyText_yields (es : List BoundExpr) :
    Yields (BoundExpr.unify es (some .varchar) : BindM _) fun r =>
      r.2.isResolved = true ∧ ∀ e ∈ r.1, e.IsTyped := by
  intro s r s' hrun
  rcases unify_yields es _ Sim.counts_varchar s r s' hrun with htyped | ⟨hnone, -⟩
  · exact htyped
  · exact absurd hnone (unifiedType_ne_none es .varchar)

/-- One operand with a type is enough for a common type. -/
theorem unifiedType_ne_none_of_counts {es : List BoundExpr} {e : BoundExpr} (he : e ∈ es)
    (hcounts : e.type.Counts) (default : Option SqlType) : unifiedType es default ≠ .ok none := by
  intro h
  -- without a type to fall back on, both ways to one must have failed
  obtain ⟨t, -, ⟨-, hnone⟩ | ⟨-, u, hall, ⟨-, hnone⟩ | ⟨rfl, -⟩⟩⟩ := unifiedType_cases h
  · cases hnone
  · cases hnone
  · -- nothing was found by going through the types, but `e` has one that counts
    rcases counts_commonTypeFrom hall with ⟨-, hothers⟩ | hunknown
    · exact hothers e.type (List.mem_map_of_mem he) hcounts
    · exact absurd hunknown.1 (by decide)

/-! ## Rules for single forms -/

/-- A predicate is a boolean. -/
theorem predicateOf_isTyped (name : String) : (predicateOf name).IsTyped :=
  rfl

/-- Whatever the operands are brought to, a comparison is a boolean. -/
theorem bindComparison_yields (name : String) (es : List BoundExpr) :
    Yields (bindComparison name es : BindM _) BoundExpr.IsTyped :=
  .then_ fun _ => .pure (predicateOf_isTyped name)

/-- The branches of a `CASE` fall back on text, so it has a type even if none of them has. -/
theorem bindBranches_yields (name : String) (es : List BoundExpr) :
    Yields (bindBranches name es : BindM _) BoundExpr.IsTyped :=
  (unifyText_yields es).bind fun _ h => .pure h.1

theorem bindConnective_yields (name : String) (l r : BoundExpr) :
    Yields (bindConnective name l r : BindM _) BoundExpr.IsTyped :=
  .then_ fun _ => .then_ fun _ => .pure (predicateOf_isTyped name)

/-- A concatenation is text, whatever its operands were before. -/
theorem bindConcat_yields (name : String) (l r : BoundExpr) :
    Yields (bindConcat name l r : BindM _) BoundExpr.IsTyped :=
  .then_ fun _ => .then_ fun _ => .pure rfl

theorem bindNot_yields (name : String) (e : BoundExpr) :
    Yields (bindNot name e : BindM _) BoundExpr.IsTyped :=
  .then_ fun _ => .pure (predicateOf_isTyped name)

/-- A cast has the type that is written in it. -/
theorem bindCast_yields (name : String) {target : SqlType} (ht : target.isResolved = true)
    (e : BoundExpr) : Yields (bindCast name target e : BindM _) BoundExpr.IsTyped := by
  unfold bindCast
  split
  · exact coerce_yields ht e
  · split
    · rename_i hsame
      refine .pure ?_
      unfold BoundExpr.IsTyped
      rw [hsame]
      exact ht
    · split
      · exact .then_ fun v => .pure v.type_isResolved
      · exact .pure ht

/-- Only where neither operand has a type, an arithmetic operation has none. -/
theorem bindArithmetic_yields (name : String) (op : BinaryOp) (l r : BoundExpr) :
    Yields (bindArithmetic name op l r : BindM _) fun e =>
      e.IsTyped ∨ unifiedType [l, r] none = .ok none ∧ e.type = .unknown := by
  unfold bindArithmetic
  refine (unify_yields [l, r] none nofun).bind fun u hu => ?_
  dsimp only
  split
  · exact .throw _
  · refine .pure ?_
    rcases hu with ⟨htyped, -⟩ | ⟨hnone, rfl⟩
    · exact Or.inl htyped
    · exact Or.inr ⟨hnone, rfl⟩

/-- Every operator gives a type, but for an arithmetic one between operands without types. -/
theorem bindBinary_yields (name : String) (op : BinaryOp) (l r : BoundExpr) :
    Yields (bindBinary name op l r : BindM _) fun e => e.IsTyped
      ∨ op.isArithmetic = true ∧ unifiedType [l, r] none = .ok none ∧ e.type = .unknown := by
  cases op with
  | eq | notEq | lt | ltEq | gt | gtEq =>
    exact (bindComparison_yields name [l, r]).mono fun _ h => Or.inl h
  | plus | minus | multiply | divide | modulo =>
    exact (bindArithmetic_yields name _ l r).mono fun _ h => h.imp_right fun h => ⟨rfl, h⟩
  | and | or => exact (bindConnective_yields name l r).mono fun _ h => Or.inl h
  | concat => exact (bindConcat_yields name l r).mono fun _ h => Or.inl h
  | other | custom => exact .throw _

/-- A sign hands on the type of its operand. -/
theorem bindSign_yields (name : String) (op : UnaryOp) (e : BoundExpr) :
    Yields (bindSign name op e : BindM _) fun e' => e'.type = e.type := by
  unfold bindSign
  split
  · exact .throw _
  · exact .pure rfl

/-- `NOT` gives a boolean, and the signs give what they were given. -/
theorem bindUnary_yields (name : String) (op : UnaryOp) (e : BoundExpr) :
    Yields (bindUnary name op e : BindM _)
      fun e' => e'.IsTyped ∨ op.isSign = true ∧ e'.type = e.type := by
  cases op with
  | not => exact (bindNot_yields name e).mono fun _ h => Or.inl h
  | plus | minus => exact (bindSign_yields name _ e).mono fun _ h => Or.inr ⟨rfl, h⟩
  | factorial | other => exact .throw _

/-! ## Outputs of queries -/

/-- A query with a type for every column of its output. -/
def BoundQuery.IsTyped (q : BoundQuery) : Prop :=
  ∀ e ∈ q.columns, e.IsTyped

theorem firstUnified_yields (es : List BoundExpr) :
    Yields (firstUnified es : BindM _) fun es => ∀ e ∈ es, e.IsTyped :=
  (unifyText_yields es).bind fun _ h => .pure fun e he => h.2 e (List.mem_of_mem_take he)

/-- By induction on the columns of the left side. -/
theorem combineColumns_yields (ls rs : List BoundExpr) :
    Yields (combineColumns ls rs : BindM _) fun es => ∀ e ∈ es, e.IsTyped := by
  induction ls generalizing rs with
  | nil => exact .pure fun e he => absurd he List.not_mem_nil
  | cons l ls ih =>
    cases rs with
    | nil => exact .pure fun e he => absurd he List.not_mem_nil
    | cons r rs =>
      unfold combineColumns
      refine (firstUnified_yields [l, r]).bind fun first hfirst => ?_
      exact (ih rs).bind fun rest hrest => .pure (List.forall_mem_append.2 ⟨hfirst, hrest⟩)

/-- A set operation falls back on text for each of its columns, so none is left without a type. -/
theorem combineQueries_yields (l r : BoundQuery) :
    Yields (combineQueries l r : BindM _) BoundQuery.IsTyped := by
  unfold combineQueries
  split
  · exact .throw _
  · exact (combineColumns_yields l.columns r.columns).bind fun columns h => .pure h

/-- The same for the columns of a `VALUES`, where no types are wanted. -/
theorem unifyColumns_yields (columns : List (List BoundExpr)) :
    Yields (unifyColumns columns none : BindM _) fun es => ∀ e ∈ es, e.IsTyped := by
  induction columns with
  | nil =>
    unfold unifyColumns
    exact .pure fun e he => absurd he List.not_mem_nil
  | cons column columns ih =>
    unfold unifyColumns
    refine (firstUnified_yields column).bind fun first hfirst => ?_
    exact ih.bind fun rest hrest => .pure (List.forall_mem_append.2 ⟨hfirst, hrest⟩)

end Prepared
