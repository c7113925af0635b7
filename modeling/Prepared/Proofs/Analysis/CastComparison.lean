import Prepared.Proofs.Analysis.Constant
import Prepared.Proofs.Analysis.Frame
import Prepared.Proofs.Analysis.Mentioned
import Prepared.Proofs.Analysis.TableNumbers
import Prepared.Proofs.Analysis.Unification

/-!
# Comparing casts

A cast says which type an expression is of, so one would expect two casts to be comparable exactly if
their types have a common one. That is so unless a constant is cast to text. Such a cast is evaluated
at once, and what comes of it cannot be told from a text that stands in the statement: it adapts to
whatever it is compared with (`castComparison_iff`).

An expression without parameters leaves the state as it is but for the number of tables
(`alike_of_parameterFree`), so of two operands each can be looked at on its own.
-/

namespace Prepared

open Sql BindM Walk

/-! ## Expressions without parameters -/

section

variable {σ : Type} [hook : ParamHook σ]

/-- A hook that refuses all references and is left as it was. -/
def ParamHook.Refuses (σ : Type) [ParamHook σ] : Prop :=
  ∀ (n : Nat) (p : σ), ParamHook.refer n p = (.error (.noSuchParameter n), p)

/-- Such a hook agrees with itself on staying as it is: no parameter gets into an expression, so no
type is wanted for one. -/
def HookAgreement.ofRefuses (h : ParamHook.Refuses σ) (p : σ) : HookAgreement σ σ where
  rel q q' := q = p ∧ q' = p
  known _ _ _ := False
  excused _ := False
  refer := by
    rintro q q' n ⟨hq, hq'⟩
    rw [hq, hq', h n p]
    exact Or.inr ⟨⟨rfl, rfl, rfl⟩, fun _ _ hknown => hknown, nofun⟩
  settle := by
    rintro q q' n target - hnone -
    exact hnone.elim
  check := by
    rintro q q' ⟨rfl, rfl⟩
    exact Or.inr rfl

variable {catalog : Catalog} {e : Expr} {s s' : WalkState σ} {b : BoundExpr}

theorem bindExpr_of_refuses (hrefuses : ParamHook.Refuses σ)
    (h : bindExpr catalog e s = (.ok b, s')) :
    s'.params = s.params ∧ ∀ name n t, b ≠ .parameter name n t := by
  let A := HookAgreement.ofRefuses hrefuses s.params
  have hsame : A.RelState s s := ⟨rfl, rfl, rfl, rfl⟩
  rcases A.bindExpr_agrees catalog s.params e s s (HookAgreement.Below.refl A _) hsame with
    ⟨_, _, hexcused⟩ | ⟨-, hstate, -, hknown⟩
  · exact hexcused.elim
  · rw [h] at hstate hknown
    exact ⟨hstate.params.1, fun name n t hb => hknown b rfl name n t hb⟩

/-- **Without parameters** nothing is asked, and nothing is bound to a parameter. -/
theorem bindExpr_parameterFree (he : e.parameters = [])
    (h : bindExpr catalog e s = (.ok b, s')) :
    s'.params = s.params ∧ ∀ name n t, b ≠ .parameter name n t := by
  have hnone : ∀ n ∈ e.parameters, (fun _ : Nat => False) n := by
    rw [he]
    exact nofun
  rw [← bindExpr_restrict catalog e hnone] at h
  exact @bindExpr_of_refuses σ (hook.restrict fun _ => False) _ _ _ _ _ (fun _ _ => rfl) h

/-- The state that is left is the same but for the number of tables. -/
theorem alike_of_parameterFree (he : e.parameters = [])
    (h : bindExpr catalog e s = (.ok b, s')) : s.Alike s' := by
  have hscopes : (bindExpr catalog e s).2.scopes = s.scopes :=
    ((Frame.levels σ).stepRelation catalog).bindExpr_related e s
  rw [h] at hscopes
  refine ⟨?_, (bindExpr_parameterFree he h).1.symm⟩
  rw [hscopes]
  exact List.forall₂_same.2 fun scope _ => .refl scope

end

variable {σ : Type} [ParamHook σ]

/-! ## Expressions with types -/

namespace BoundExpr

/-- An expression with a type can be brought to the type `c`: a literal is converted, and any other
expression is cast. -/
inductive Adapts (c : SqlType) : BoundExpr → Prop
  | converted {name : String} {v w : Value} : (constant name v).isUntypedLiteral = true →
    v.castTo c = .ok w → Adapts c (.constant name v)
  | cast {b : BoundExpr} : b.isUntypedLiteral = false → b.type.implicitlyCasts c = true →
    Adapts c b

theorem exists_of_isUntypedLiteral {b : BoundExpr} (h : b.isUntypedLiteral = true) :
    ∃ name v, b = constant name v := by
  cases b with
  | constant name v => exact ⟨name, v, rfl⟩
  | column | parameter | computed => cases h

variable {c : SqlType} {b : BoundExpr}

theorem adapts_iff_of_not_literal (h : b.isUntypedLiteral = false) :
    b.Adapts c ↔ b.type.implicitlyCasts c = true := by
  refine ⟨fun hadapts => ?_, .cast h⟩
  cases hadapts with
  | converted hliteral _ =>
    rw [h] at hliteral
    cases hliteral
  | cast _ hcasts => exact hcasts

theorem adapts_iff_of_literal {name : String} {v : Value}
    (h : (constant name v).isUntypedLiteral = true) :
    (constant name v).Adapts c ↔ ∃ w, v.castTo c = .ok w := by
  refine ⟨fun hadapts => ?_, fun ⟨w, hw⟩ => .converted h hw⟩
  cases hadapts with
  | converted _ hw => exact ⟨_, hw⟩
  | cast hliteral _ =>
    rw [h] at hliteral
    cases hliteral

theorem adapts_self (b : BoundExpr) : b.Adapts b.type := by
  cases h : b.isUntypedLiteral with
  | false => exact .cast h (SqlType.implicitlyCasts_self _)
  | true =>
    obtain ⟨name, v, rfl⟩ := exists_of_isUntypedLiteral h
    exact .converted h v.castTo_self

/-- **Coercion of an expression with a type.** It asks nothing, and succeeds exactly if the
expression adapts. -/
theorem run_coerce (hc : c.isResolved = true) (hb : b.type ≠ .unknown) (s : WalkState σ) :
    b.Adapts c ∧ (∃ b', b.coerce c s = (.ok b', s))
      ∨ ¬b.Adapts c ∧ ∃ e, b.coerce c s = (.error e, s) := by
  unfold coerce
  by_cases hsame : b.type = c
  · rw [if_pos (Or.inl hsame)]
    exact Or.inl ⟨hsame ▸ b.adapts_self, b, rfl⟩
  rw [if_neg (by rw [hc]; simpa using hsame)]
  cases hliteral : b.isUntypedLiteral with
  | true =>
    obtain ⟨name, v, rfl⟩ := exists_of_isUntypedLiteral hliteral
    rw [adapts_iff_of_literal hliteral]
    dsimp only
    rw [if_pos rfl]
    cases hv : v.castTo c with
    | error e =>
      refine Or.inr ⟨?_, .type e, rfl⟩
      rintro ⟨w, hw⟩
      cases hw
    | ok w => exact Or.inl ⟨⟨w, rfl⟩, _, rfl⟩
  | false =>
    have hcast : b.Adapts c ∧ (∃ b', b.castImplicitly c s = (.ok b', s))
        ∨ ¬b.Adapts c ∧ ∃ e, b.castImplicitly c s = (.error e, s) := by
      rw [adapts_iff_of_not_literal hliteral]
      unfold castImplicitly
      by_cases h : b.type.implicitlyCasts c = true
      · rw [if_pos h]
        exact Or.inl ⟨h, _, rfl⟩
      · rw [if_neg h]
        exact Or.inr ⟨h, _, rfl⟩
    split
    · exact absurd rfl hb
    · rw [if_neg Bool.false_ne_true]
      exact hcast
    · exact hcast

theorem run_coerceAll (hc : c.isResolved = true) {es : List BoundExpr}
    (hes : ∀ b ∈ es, b.type ≠ .unknown) (s : WalkState σ) :
    (∀ b ∈ es, b.Adapts c) ∧ (∃ es', coerceAll c es s = (.ok es', s))
      ∨ (¬∀ b ∈ es, b.Adapts c) ∧ ∃ e, coerceAll c es s = (.error e, s) := by
  induction es with
  | nil => exact Or.inl ⟨fun b hb => absurd hb List.not_mem_nil, [], rfl⟩
  | cons b es ih =>
    obtain ⟨hb, hes⟩ := List.forall_mem_cons.1 hes
    rw [List.forall_mem_cons]
    unfold coerceAll
    rw [Walk.run_bind]
    rcases run_coerce hc hb s with ⟨hadapts, b', hrun⟩ | ⟨hadapts, e, hrun⟩
    · rw [hrun]
      dsimp only
      rw [Walk.run_bind]
      rcases ih hes with ⟨hall, es', hrest⟩ | ⟨hall, e, hrest⟩
      · rw [hrest]
        exact Or.inl ⟨⟨hadapts, hall⟩, _, rfl⟩
      · rw [hrest]
        exact Or.inr ⟨fun h => hall h.2, e, rfl⟩
    · rw [hrun]
      exact Or.inr ⟨fun h => hadapts h.1, e, rfl⟩

end BoundExpr

open BoundExpr

theorem SqlType.Counts.ne_unknown {t : SqlType} (h : t.Counts) : t ≠ .unknown := by
  rintro rfl
  exact absurd h.1 Bool.false_ne_true

/-- Expressions with types are compared successfully exactly if all of them adapt to the type that
is found for them. -/
theorem bindComparison_ok_iff (name : String) {es : List BoundExpr} (hes : ∀ b ∈ es, b.type.Counts)
    (s : WalkState σ) :
    (∃ b s', bindComparison name es s = (.ok b, s'))
      ↔ ∃ c, unifiedType es (some .varchar) = .ok (some c) ∧ ∀ b ∈ es, b.Adapts c := by
  -- typed expressions are brought to a type without a question, so success does not depend on the
  -- state
  have hrun {c : SqlType} (h : unifiedType es (some .varchar) = .ok (some c)) :=
    run_coerceAll (isResolved_of_unifiedType (by rintro d ⟨⟩; rfl) h)
      (fun b hb => (hes b hb).ne_unknown) s
  constructor
  · rintro ⟨b, s', h⟩
    obtain ⟨⟨es', c⟩, s₁, hunify, -⟩ := Walk.run_bind_ok h
    rcases run_unify_ok hunify with ⟨hnone, -⟩ | ⟨hcommon, hcoerce⟩
    · exact absurd hnone (unifiedType_ne_none es .varchar)
    · rcases hrun hcommon with ⟨hall, -⟩ | ⟨-, e, herror⟩
      · exact ⟨c, hcommon, hall⟩
      · rw [herror] at hcoerce
        cases hcoerce
  · rintro ⟨c, hcommon, hall⟩
    rcases hrun hcommon with ⟨-, es', hcoerce⟩ | ⟨hnot, -⟩
    · have hunify : unify es (some .varchar) s = (.ok (es', c), s) := by
        unfold unify
        rw [hcommon]
        show (do return (← coerceAll c es, c) : Walk σ _) s = _
        rw [Walk.run_bind, hcoerce]
        rfl
      refine ⟨predicateOf name, s, ?_⟩
      unfold bindComparison
      rw [Walk.run_bind, hunify]
      rfl
    · exact absurd hall hnot

/-! ## Two operands -/

theorem SqlType.eq_varchar_of_common {t u : SqlType} (ht : t.Counts)
    (h : common .varchar t = .ok u ∨ common t .varchar = .ok u) : t = .varchar := by
  obtain ⟨hresolved, hnull⟩ := ht
  cases t with
  | varchar => rfl
  | null => exact absurd rfl hnull
  | invalid | unknown => cases hresolved
  | boolean | integer | float | double => rcases h with h | h <;> cases h

namespace BoundExpr

variable {b₁ b₂ : BoundExpr}

theorem type_of_isUntypedLiteral {b : BoundExpr} (hb : b.type.Counts)
    (h : b.isUntypedLiteral = true) : b.type = .varchar := by
  obtain ⟨name, v, rfl⟩ := exists_of_isUntypedLiteral h
  have hcases : v.type = .varchar ∨ v.type = .null := by simpa [isUntypedLiteral] using h
  exact hcases.resolve_right hb.2

/-- A literal is brought to the type of the other operand. If the two types have a common one, the
other operand is text as well. -/
theorem adapts_of_common {t u : SqlType} {b : BoundExpr} (hb : b.type.Counts) (ht : t.Counts)
    (hliteral : b.isUntypedLiteral = true)
    (h : SqlType.common b.type t = .ok u ∨ SqlType.common t b.type = .ok u) : b.Adapts t := by
  have hvarchar : b.type = .varchar := type_of_isUntypedLiteral hb hliteral
  rw [hvarchar] at h
  rw [SqlType.eq_varchar_of_common ht h, ← hvarchar]
  exact b.adapts_self

theorem commonType_pair (h₁ : b₁.type.Counts) (h₂ : b₂.type.Counts) :
    commonType [b₁, b₂] = SqlType.common b₁.type b₂.type := by
  have hfirst : SqlType.common .unknown b₁.type = .ok b₁.type := by
    unfold SqlType.common
    rw [if_neg h₁.ne_unknown.symm, if_pos (Or.inr rfl)]
  show commonTypeFrom .unknown [b₁.type, b₂.type] = _
  rw [commonTypeFrom_cons_of_counts h₁, hfirst]
  show commonTypeFrom b₁.type [b₂.type] = _
  rw [commonTypeFrom_cons_of_counts h₂]
  cases SqlType.common b₁.type b₂.type with
  | error e => rfl
  | ok t => rfl

/-- The only expression that is no literal decides for all. -/
theorem unifiedType_of_filter {es : List BoundExpr} {b : BoundExpr} (default : Option SqlType)
    (hb : b.type.Counts) (h : (es.filter fun e => !e.isUntypedLiteral) = [b]) :
    unifiedType es default = .ok (some b.type) := by
  refine unifiedType_of_typed default hb.ne_unknown ?_
  rw [h]
  exact commonType_of_types hb (List.cons_ne_nil _ _) (by simp)

theorem exists_unified_iff {es : List BoundExpr} {default : Option SqlType} {t : SqlType}
    (h : unifiedType es default = .ok (some t)) :
    (∃ c, unifiedType es default = .ok (some c) ∧ ∀ b ∈ es, b.Adapts c)
      ↔ ∀ b ∈ es, b.Adapts t := by
  rw [h]
  constructor
  · rintro ⟨c, hc, hall⟩
    cases hc
    exact hall
  · exact fun hall => ⟨t, rfl, hall⟩

/-- Operands that are no literals are cast to what their types have in common. -/
theorem pair_adapts_iff_of_typed (h₁ : b₁.type.Counts) (h₂ : b₂.type.Counts)
    (hl₁ : b₁.isUntypedLiteral = false) (hl₂ : b₂.isUntypedLiteral = false) :
    (∃ c, unifiedType [b₁, b₂] (some .varchar) = .ok (some c) ∧ ∀ b ∈ [b₁, b₂], b.Adapts c)
      ↔ ∃ t, SqlType.common b₁.type b₂.type = .ok t := by
  have hfilter : commonType ([b₁, b₂].filter fun b => !b.isUntypedLiteral)
      = SqlType.common b₁.type b₂.type := by
    rw [← commonType_pair h₁ h₂]
    simp [hl₁, hl₂]
  constructor
  · rintro ⟨c, hc, -⟩
    cases hcommon : SqlType.common b₁.type b₂.type with
    | ok t => exact ⟨t, rfl⟩
    | error e =>
      unfold unifiedType at hc
      rw [hfilter, hcommon] at hc
      cases hc
  · rintro ⟨t, ht⟩
    obtain ⟨hcasts₁, hcasts₂⟩ := SqlType.casts_common ht
    refine ⟨t, unifiedType_of_typed _ (h₁.of_casts hcasts₁).ne_unknown (hfilter.trans ht), ?_⟩
    simp [Adapts.cast hl₁ hcasts₁, Adapts.cast hl₂ hcasts₂]

/-- **Two operands with types.** They are brought to one type if their types have a common one, or
if one of them is a literal that adapts to the type of the other. -/
theorem pair_adapts_iff (h₁ : b₁.type.Counts) (h₂ : b₂.type.Counts) :
    (∃ c, unifiedType [b₁, b₂] (some .varchar) = .ok (some c) ∧ ∀ b ∈ [b₁, b₂], b.Adapts c)
      ↔ (∃ t, SqlType.common b₁.type b₂.type = .ok t)
        ∨ b₁.isUntypedLiteral = true ∧ b₁.Adapts b₂.type
        ∨ b₂.isUntypedLiteral = true ∧ b₂.Adapts b₁.type := by
  have hboth {c : SqlType} : (∀ b ∈ [b₁, b₂], b.Adapts c) ↔ b₁.Adapts c ∧ b₂.Adapts c := by simp
  cases hl₁ : b₁.isUntypedLiteral with
  | false =>
    cases hl₂ : b₂.isUntypedLiteral with
    | false =>
      rw [pair_adapts_iff_of_typed h₁ h₂ hl₁ hl₂]
      simp
    | true =>
      have hunified := @unifiedType_of_filter [b₁, b₂] b₁ (some .varchar) h₁ (by simp [hl₁, hl₂])
      rw [exists_unified_iff hunified, hboth]
      constructor
      · exact fun h => Or.inr (Or.inr ⟨rfl, h.2⟩)
      · rintro (⟨t, ht⟩ | ⟨h, -⟩ | ⟨-, h⟩)
        · exact ⟨b₁.adapts_self, adapts_of_common h₂ h₁ hl₂ (Or.inr ht)⟩
        · cases h
        · exact ⟨b₁.adapts_self, h⟩
  | true =>
    cases hl₂ : b₂.isUntypedLiteral with
    | false =>
      have hunified := @unifiedType_of_filter [b₁, b₂] b₂ (some .varchar) h₂ (by simp [hl₁, hl₂])
      rw [exists_unified_iff hunified, hboth]
      constructor
      · exact fun h => Or.inr (Or.inl ⟨rfl, h.1⟩)
      · rintro (⟨t, ht⟩ | ⟨-, h⟩ | ⟨h, -⟩)
        · exact ⟨adapts_of_common h₁ h₂ hl₁ (Or.inl ht), b₂.adapts_self⟩
        · exact ⟨h, b₂.adapts_self⟩
        · cases h
    | true =>
      -- both are text, which needs nothing
      have hv₁ := type_of_isUntypedLiteral h₁ hl₁
      have hv₂ := type_of_isUntypedLiteral h₂ hl₂
      have hunified : unifiedType [b₁, b₂] (some .varchar) = .ok (some .varchar) :=
        unifiedType_of_types (by simp [hv₁, hv₂]) (Or.inr rfl)
      refine iff_of_true ⟨.varchar, hunified, hboth.2 ⟨?_, ?_⟩⟩ (Or.inl ⟨.varchar, ?_⟩)
      · exact hv₁ ▸ b₁.adapts_self
      · exact hv₂ ▸ b₂.adapts_self
      · rw [hv₁, hv₂]
        exact SqlType.common_self _

end BoundExpr

/-! ## Casts -/

theorem SqlType.counts_of_ofDataType {d : DataType} {t : SqlType} (h : ofDataType d = .ok t) :
    t.Counts := by
  refine ⟨isResolved_of_ofDataType h, ?_⟩
  rintro rfl
  unfold ofDataType at h
  split at h <;> cases h

omit [ParamHook σ] in
theorem castTo_yields {t : SqlType} (ht : t.isResolved = true) (v : Value) :
    Yields (ofType (v.castTo t) : Walk σ _) fun w => w.type = t :=
  .ofType fun _ hw => Value.type_of_castTo ht hw

/-- What is not a parameter has the type that it is brought to. -/
theorem coerce_type_eq {b : BoundExpr} {t : SqlType} (ht : t.isResolved = true)
    (hb : ∀ name n u, b ≠ .parameter name n u) :
    Yields (b.coerce t : Walk σ _) fun b' => b'.type = t := by
  have hcast (b : BoundExpr) : Yields (b.castImplicitly t : Walk σ _) fun b' => b'.type = t := by
    unfold castImplicitly
    split
    · exact .pure rfl
    · exact .throw _
  unfold coerce
  split
  · rename_i hkept
    refine .pure (hkept.resolve_right ?_)
    rw [ht]
    exact Bool.noConfusion
  · split
    · exact absurd rfl (hb _ _ _)
    · split
      · exact (castTo_yields ht _).bind fun w hw => .pure hw
      · exact hcast _
    · exact hcast _

theorem bindCast_type_eq (name : String) {b : BoundExpr} {t : SqlType} (ht : t.isResolved = true)
    (hb : ∀ name n u, b ≠ .parameter name n u) :
    Yields (bindCast name t b : Walk σ _) fun b' => b'.type = t := by
  unfold bindCast
  split
  · exact coerce_type_eq ht hb
  · split
    · rename_i hsame
      exact .pure hsame
    · split
      · exact (castTo_yields ht _).bind fun w hw => .pure hw
      · exact .pure rfl

section

variable {catalog : Catalog} {e : Expr} {d : DataType} {t : SqlType} {s s' : WalkState σ}
  {b : BoundExpr}

/-- A cast without parameters has the type that is written. -/
theorem type_of_bindExpr_cast (he : e.parameters = []) (ht : SqlType.ofDataType d = .ok t)
    (h : bindExpr catalog (.cast e d) s = (.ok b, s')) : b.type = t := by
  unfold bindExpr at h
  rw [ht] at h
  obtain ⟨_, _, htarget, hrest⟩ := Walk.run_bind_ok h
  cases htarget
  obtain ⟨b', s₁, hoperand, hcast⟩ := Walk.run_bind_ok hrest
  obtain ⟨-, hparameter⟩ := bindExpr_parameterFree he hoperand
  exact bindCast_type_eq _ (SqlType.isResolved_of_ofDataType ht) hparameter s₁ b s' hcast

/-- A constant of type text, the value of which can be converted to the type `t`. -/
def Sql.Expr.ReadsAs (e : Expr) (t : SqlType) : Prop :=
  e.isConstant = true
    ∧ ∃ v w, evalConstant e = .ok v ∧ v.type = .varchar ∧ v.castTo t = .ok w

/-- What is bound to a literal that adapts is a constant of text that can be converted. -/
theorem adapts_iff_readsAs (hb : b.type.Counts) (h : bindExpr catalog e s = (.ok b, s')) :
    b.isUntypedLiteral = true ∧ b.Adapts t ↔ e.ReadsAs t := by
  constructor
  · rintro ⟨hliteral, hadapts⟩
    have htype := BoundExpr.type_of_isUntypedLiteral hb hliteral
    obtain ⟨name, v, rfl⟩ := BoundExpr.exists_of_isUntypedLiteral hliteral
    obtain ⟨hconstant, hvalue⟩ := evalConstant_of_bindExpr h
    obtain ⟨w, hw⟩ := (BoundExpr.adapts_iff_of_literal hliteral).1 hadapts
    exact ⟨hconstant, v, w, hvalue, htype, hw⟩
  · rintro ⟨hconstant, v, w, hvalue, htype, hw⟩
    have hb' : b.isConstant = true := (bindExpr_isConstant catalog e s b s' h).trans hconstant
    obtain ⟨name, v', rfl⟩ := BoundExpr.exists_of_isConstant hb'
    obtain ⟨-, hvalue'⟩ := evalConstant_of_bindExpr h
    rw [hvalue] at hvalue'
    cases hvalue'
    have hliteral : (BoundExpr.constant name v).isUntypedLiteral = true := by
      simp [BoundExpr.isUntypedLiteral, htype]
    exact ⟨hliteral, .converted hliteral hw⟩

end

/-- **A comparison of two casts.** Let two expressions have no parameters, and let a cast of each be
bound in a state. The comparison of the casts is bound there if and only if their types have a
common one, or one of them is a constant of text that can be converted to the type of the other:
there the cast to text counts for nothing. -/
theorem castComparison_iff (catalog : Catalog) {e₁ e₂ : Expr} {d₁ d₂ : DataType} {t₁ t₂ : SqlType}
    (he₁ : e₁.parameters = []) (he₂ : e₂.parameters = []) (ht₁ : SqlType.ofDataType d₁ = .ok t₁)
    (ht₂ : SqlType.ofDataType d₂ = .ok t₂) {s : WalkState σ}
    (h₁ : ∃ b s', bindExpr catalog (.cast e₁ d₁) s = (.ok b, s'))
    (h₂ : ∃ b s', bindExpr catalog (.cast e₂ d₂) s = (.ok b, s')) :
    (∃ b s', bindExpr catalog (.binary .eq (.cast e₁ d₁) (.cast e₂ d₂)) s = (.ok b, s'))
      ↔ (∃ t, SqlType.common t₁ t₂ = .ok t)
        ∨ (Expr.cast e₁ d₁).ReadsAs t₂ ∨ (Expr.cast e₂ d₂).ReadsAs t₁ := by
  obtain ⟨b₁, s₁, h₁⟩ := h₁
  obtain ⟨b, s₂, h₂⟩ := h₂
  have hcast {e : Expr} {d : DataType} (h : e.parameters = []) :
      (Expr.cast e d).parameters = [] := by
    unfold Expr.parameters
    exact h
  -- the second operand is bound behind the first one as it is bound on its own
  obtain ⟨b₂, s₂', h₂, -, -⟩ :=
    bindExpr_alike catalog (.cast e₂ d₂) s s₁ (alike_of_parameterFree (hcast he₁) h₁) b s₂ h₂
  have htype₁ : b₁.type = t₁ := type_of_bindExpr_cast he₁ ht₁ h₁
  have htype₂ : b₂.type = t₂ := type_of_bindExpr_cast he₂ ht₂ h₂
  have hcounts₁ : b₁.type.Counts := htype₁ ▸ SqlType.counts_of_ofDataType ht₁
  have hcounts₂ : b₂.type.Counts := htype₂ ▸ SqlType.counts_of_ofDataType ht₂
  have hrun : bindExpr catalog (.binary .eq (.cast e₁ d₁) (.cast e₂ d₂)) s
      = bindComparison (Expr.binary .eq (.cast e₁ d₁) (.cast e₂ d₂)).render [b₁, b₂] s₂' := by
    rw [bindExpr, Walk.run_bind, h₁]
    dsimp only
    rw [Walk.run_bind, h₂]
    rfl
  rw [hrun, bindComparison_ok_iff _ (by simp [hcounts₁, hcounts₂]),
    BoundExpr.pair_adapts_iff hcounts₁ hcounts₂, adapts_iff_readsAs hcounts₁ h₁,
    adapts_iff_readsAs hcounts₂ h₂, htype₁, htype₂]

/-- `SELECT CAST('1' AS VARCHAR) = CAST(2 AS INT)`: the text is read as a number, and the
comparison is bound. -/
theorem castComparison_iff_textAndInt :
    (SqlType.common .varchar .int).isOk = false
      ∧ ∃ b s', bindExpr .empty (.binary .eq (.cast (.literal (.singleQuoted "1")) (.char .varchar none))
          (.cast (.literal (.number "2" false)) (.integer .int none false)))
          (WalkState.initial ParamTypes.absent) = (.ok b, s') := by
  refine ⟨rfl, (castComparison_iff .empty rfl rfl rfl rfl ⟨_, _, rfl⟩ ⟨_, _, rfl⟩).2 (Or.inr (Or.inl ?_))⟩
  exact ⟨rfl, .datum (.text "1"), .datum (.integer ⟨true, .w32⟩ 1 (by decide)), rfl, rfl, rfl⟩

/-- Casts are compared although their types have nothing in common. -/
theorem not_castComparison_iff_common :
    ¬∀ (catalog : Catalog) (e₁ e₂ : Expr) (d₁ d₂ : DataType) (t₁ t₂ : SqlType) (s : BindState),
      e₁.parameters = [] → e₂.parameters = [] → SqlType.ofDataType d₁ = .ok t₁ →
      SqlType.ofDataType d₂ = .ok t₂ →
      (∃ b s', bindExpr catalog (.cast e₁ d₁) s = (.ok b, s')) →
      (∃ b s', bindExpr catalog (.cast e₂ d₂) s = (.ok b, s')) →
      ((∃ b s', bindExpr catalog (.binary .eq (.cast e₁ d₁) (.cast e₂ d₂)) s = (.ok b, s'))
        ↔ ∃ t, SqlType.common t₁ t₂ = .ok t) := by
  intro hclaim
  have h := hclaim .empty (.literal (.singleQuoted "1")) (.literal (.number "2" false))
    (.char .varchar none) (.integer .int none false) .varchar .int (.initial .absent)
    rfl rfl rfl rfl ⟨_, _, rfl⟩ ⟨_, _, rfl⟩
  obtain ⟨t, ht⟩ := h.1 ⟨_, _, rfl⟩
  cases ht

end Prepared
