import Prepared.Analysis.Statement

/-!
# Two hooks that agree

The analysis asks a hook about parameters and does everything else on its own. So two analyses of the
same statement can only differ if their hooks do. `HookAgreement` says what it takes for two hooks to
agree on every question that the analysis can put, and `bindExpr_agrees` and its companions carry
this from a question to expressions, queries and statements.

What the analysis can ask is limited: a type is wanted only for a parameter that stands in an
expression, and it stands there only because the hook has answered for it before. An agreement
therefore names the parameters that are *known* in a state, which only become more.
-/

namespace Prepared

open Sql BindM

/-! ## Steps of the analysis -/

section Run

variable {σ α β : Type}

/-- A step goes on with what the one before it gave, in the state that it left. -/
theorem Walk.run_bind (x : Walk σ α) (f : α → Walk σ β) (s : WalkState σ) :
    (x >>= f) s
      = match x s with
        | (.ok a, s') => f a s'
        | (.error e, s') => (.error e, s') := by
  show (ExceptT.bind x f) s = _
  unfold ExceptT.bind ExceptT.mk
  show (ExceptT.bindCont f (x s).1) (x s).2 = _
  rcases x s with ⟨r, s'⟩
  cases r <;> rfl

/-- Two steps that succeed one after the other. -/
theorem Walk.run_bind_ok {x : Walk σ α} {f : α → Walk σ β} {s s'' : WalkState σ} {b : β}
    (h : (x >>= f) s = (.ok b, s'')) :
    ∃ a s', x s = (.ok a, s') ∧ f a s' = (.ok b, s'') := by
  rw [Walk.run_bind] at h
  rcases hx : x s with ⟨r, s'⟩
  rw [hx] at h
  cases r with
  | error e => cases h
  | ok a => exact ⟨a, s', rfl, h⟩

/-- What runs inside a query level succeeds if the whole does, and the level is closed behind it. -/
theorem Walk.run_withScope_ok {x : Walk σ α} {a : α} {s s' : WalkState σ}
    (h : withScope x s = (.ok a, s')) :
    ∃ t, x { s with scopes := Scope.empty :: s.scopes } = (.ok a, t)
      ∧ s' = { t with scopes := t.scopes.tail } := by
  unfold BindM.withScope at h
  rcases hx : x { s with scopes := Scope.empty :: s.scopes } with ⟨r, t⟩
  rw [hx] at h
  obtain ⟨rfl, rfl⟩ := Prod.mk.inj h
  exact ⟨t, rfl, rfl⟩

/-- A result that is known beforehand is handed on, and the state with it. -/
theorem ok_of_ofResult {x : Except BindError α} {a : α} {s s' : WalkState σ}
    (h : ofResult x s = (.ok a, s')) : x = .ok a ∧ s = s' :=
  Prod.ext_iff.1 h

/-- The catalog's errors are renamed on the way, its tables are not. -/
theorem ok_of_ofCatalog {x : Except CatalogError α} {a : α} {s s' : WalkState σ}
    (h : ofCatalog x s = (.ok a, s')) : x = .ok a ∧ s = s' := by
  obtain ⟨hx, hs⟩ := ok_of_ofResult h
  cases x with
  | error e => cases hx
  | ok b => exact ⟨congrArg Except.ok (Except.ok.inj hx), hs⟩

/-- A statement is analyzed successfully if its columns are found and every parameter has a type
then. -/
theorem analyze_eq_ok [ParamHook σ] {catalog : Catalog} {p p' : σ} {S : Statement}
    {d : Description} :
    analyze catalog p S = (.ok d, p') ↔ ∃ s', bindStatement catalog S (.initial p) = (.ok d, s')
      ∧ s'.params = p' ∧ ParamHook.check p' = .ok () := by
  unfold analyze analyzeStatement
  rw [Walk.run_bind]
  rcases bindStatement catalog S (.initial p) with ⟨r, s'⟩
  cases r with
  | error e =>
    constructor
    · intro h
      cases h
    · rintro ⟨s'', h, -⟩
      cases h
  | ok d' =>
    dsimp only
    rw [Walk.run_bind, checkParams]
    cases hcheck : ParamHook.check s'.params with
    | error e =>
      constructor
      · intro h
        cases h
      · rintro ⟨s'', h, rfl, hp⟩
        cases h
        rw [hcheck] at hp
        cases hp
    | ok u =>
      constructor
      · intro h
        cases h
        exact ⟨s', rfl, rfl, hcheck⟩
      · rintro ⟨s'', h, rfl, -⟩
        cases h
        rfl

end Run

/-! ## Agreement -/

variable {σ τ : Type} [ParamHook σ] [ParamHook τ]

/-- Two hooks give the same answer and are left in states that belong together. -/
structure HookAgreement.Same {σ τ α : Type} (rel : σ → τ → Prop) (x : Except BindError α × σ)
    (y : Except BindError α × τ) : Prop where
  result : x.1 = y.1
  state : rel x.2 y.2

/-- Two hooks that agree on every question of the analysis, unless the first refuses to answer for a
reason that is excused. -/
structure HookAgreement (σ τ : Type) [ParamHook σ] [ParamHook τ] where
  /-- The states that belong together. -/
  rel : σ → τ → Prop
  /-- The parameters that can stand in an expression, with the types they can have there. -/
  known : σ → Nat → SqlType → Prop
  /-- The errors after which nothing is promised. -/
  excused : BindError → Prop
  /-- A parameter that is referred to is known from then on. -/
  refer : ∀ {p q} n, rel p q →
    (∃ e, (ParamHook.refer n p).1 = .error e ∧ excused e)
      ∨ HookAgreement.Same rel (ParamHook.refer n p) (ParamHook.refer n q)
        ∧ (∀ m t, known p m t → known (ParamHook.refer n p).2 m t)
        ∧ ∀ t, (ParamHook.refer n p).1 = .ok t → known (ParamHook.refer n p).2 n t
  /-- A type is wanted only for a known parameter that has none, and it is one of values. -/
  settle : ∀ {p q n target}, rel p q → known p n .unknown → target.isResolved = true →
    (∃ e, (ParamHook.settle n target p).1 = .error e ∧ excused e)
      ∨ HookAgreement.Same rel (ParamHook.settle n target p) (ParamHook.settle n target q)
        ∧ (∀ m t, known p m t → known (ParamHook.settle n target p).2 m t)
        ∧ ∀ t, (ParamHook.settle n target p).1 = .ok t →
          known (ParamHook.settle n target p).2 n t
  check : ∀ {p q}, rel p q →
    (∃ e, ParamHook.check p = .error e ∧ excused e) ∨ ParamHook.check p = ParamHook.check q

namespace HookAgreement

variable (A : HookAgreement σ τ)

/-- All that is known in one state is known in the other. -/
def Below (p p' : σ) : Prop :=
  ∀ n t, A.known p n t → A.known p' n t

/-- Where a chain of steps starts: what is known already is known. -/
theorem Below.refl (p : σ) : A.Below p p :=
  fun _ _ h => h

variable {A} in
/-- Knowledge only grows, so what is promised for a later state may be used from an earlier one on.
-/
theorem Below.trans {p p' p'' : σ} (h : A.Below p p') (h' : A.Below p' p'') : A.Below p p'' :=
  fun n t hn => h' n t (h n t hn)

/-- An expression with nothing but known parameters. -/
def Knows (p : σ) (e : BoundExpr) : Prop :=
  ∀ name n t, e = .parameter name n t → A.known p n t

/-- Expressions with nothing but known parameters. -/
def KnowsAll (p : σ) (es : List BoundExpr) : Prop :=
  ∀ e ∈ es, A.Knows p e

variable {A} in
/-- An expression stays good while the analysis goes on. Every rule with two operands needs this of
the first one, which was bound before the second. -/
theorem Knows.mono {p p' : σ} {e : BoundExpr} (h : A.Knows p e) (hp : A.Below p p') :
    A.Knows p' e :=
  fun name n t he => hp n t (h name n t he)

variable {A} in
theorem KnowsAll.mono {p p' : σ} {es : List BoundExpr} (h : A.KnowsAll p es)
    (hp : A.Below p p') : A.KnowsAll p' es :=
  fun e he => (h e he).mono hp

/-- Only a bare parameter counts: a computed expression is never asked for a type again. -/
theorem knows_computed (p : σ) (name : String) (t : SqlType) : A.Knows p (.computed name t) :=
  fun _ _ _ h => by cases h

theorem knows_constant (p : σ) (name : String) (v : Value) : A.Knows p (.constant name v) :=
  fun _ _ _ h => by cases h

theorem knows_column (p : σ) (c : BoundColumn) : A.Knows p (.column c) :=
  fun _ _ _ h => by cases h

variable {A} in
/-- The one expression of which there is something to show. -/
theorem knows_parameter {p : σ} {name : String} {n : Nat} {t : SqlType} (h : A.known p n t) :
    A.Knows p (.parameter name n t) := by
  intro name' n' t' he
  cases he
  exact h

theorem knowsAll_nil (p : σ) : A.KnowsAll p [] :=
  fun _ h => absurd h List.not_mem_nil

variable {A} in
theorem KnowsAll.cons {p : σ} {e : BoundExpr} {es : List BoundExpr} (he : A.Knows p e)
    (hes : A.KnowsAll p es) : A.KnowsAll p (e :: es) :=
  List.forall_mem_cons.2 ⟨he, hes⟩

variable {A} in
theorem KnowsAll.append {p : σ} {es fs : List BoundExpr} (he : A.KnowsAll p es)
    (hf : A.KnowsAll p fs) : A.KnowsAll p (es ++ fs) :=
  fun e h => (List.mem_append.1 h).elim (he e) (hf e)

/-- States of the analysis that are the same but for their hooks, which belong together. -/
structure RelState (s : WalkState σ) (t : WalkState τ) : Prop where
  scopes : s.scopes = t.scopes
  tables : s.tables = t.tables
  params : A.rel s.params t.params

/-- Two steps agree wherever all that is known in `p` is known: the first fails for an excused
reason, or they give the same, leave states that belong together and forget no parameter. What they
give satisfies `P`. -/
def Agree {α : Type} (p : σ) (x : Walk σ α) (y : Walk τ α) (P : σ → α → Prop) : Prop :=
  ∀ s t, A.Below p s.params → A.RelState s t →
    (∃ e, (x s).1 = .error e ∧ A.excused e)
      ∨ (x s).1 = (y t).1 ∧ A.RelState (x s).2 (y t).2 ∧ A.Below s.params (x s).2.params
        ∧ ∀ a, (x s).1 = .ok a → P (x s).2.params a

variable {A} {α β : Type} {p : σ}

/-! ### Putting steps together -/

/-- A step that only returns has to show its postcondition in every later state, since it may stand
anywhere in the analysis. -/
theorem Agree.pure {P : σ → α → Prop} {a : α} (h : ∀ p', A.Below p p' → P p' a) :
    A.Agree p (pure a) (pure a) P := by
  intro s t hp hst
  refine Or.inr ⟨rfl, hst, Below.refl A _, fun b hb => ?_⟩
  cases hb
  exact h _ hp

/-- The same error on both sides is agreement, whether it is excused or not. -/
theorem Agree.throw {P : σ → α → Prop} {e : BindError} :
    A.Agree p (throw e : Walk σ α) (throw e) P := by
  intro s t _ hst
  exact Or.inr ⟨rfl, hst, Below.refl A _, fun b hb => by cases hb⟩

/-- The second of two steps may count on what the first one gave. -/
theorem Agree.bind {P : σ → α → Prop} {Q : σ → β → Prop} {x : Walk σ α} {y : Walk τ α}
    {f : α → Walk σ β} {g : α → Walk τ β} (hx : A.Agree p x y P)
    (hf : ∀ a p', A.Below p p' → P p' a → A.Agree p' (f a) (g a) Q) :
    A.Agree p (x >>= f) (y >>= g) Q := by
  intro s t hp hst
  -- The states after the first steps take the place of `s` and `t`; `p'` is what is known in them.
  rw [Walk.run_bind, Walk.run_bind]
  have h := hx s t hp hst
  generalize x s = u at h
  generalize y t = v at h
  obtain ⟨r, s'⟩ := u
  obtain ⟨r', t'⟩ := v
  rcases h with ⟨e, he, hexcused⟩ | ⟨hr, hst', hbelow, hpost⟩
  · -- an excused failure of the first step is one of both together
    left
    dsimp only at he
    subst he
    exact ⟨e, rfl, hexcused⟩
  · dsimp only at hr hst' hbelow hpost
    subst hr
    cases r with
    | error e => exact Or.inr ⟨rfl, hst', hbelow, fun b hb => by cases hb⟩
    | ok a =>
      dsimp only
      rcases hf a s'.params (hp.trans hbelow) (hpost a rfl) s' t' (Below.refl A _) hst' with
        hexcused | ⟨hr, hst'', hbelow', hpost'⟩
      · exact Or.inl hexcused
      · exact Or.inr ⟨hr, hst'', hbelow.trans hbelow', hpost'⟩

/-! ### Steps that ask nothing -/

/-- What the syntax or the catalog decides is the same on both sides. -/
theorem agree_ofResult (x : Except BindError α) :
    A.Agree p (ofResult x) (ofResult x) fun _ _ => True :=
  fun _ _ _ hst => Or.inr ⟨rfl, hst, Below.refl A _, fun _ _ => trivial⟩

theorem agree_ofType (x : Except TypeError α) :
    A.Agree p (ofType x) (ofType x) fun _ _ => True :=
  agree_ofResult _

theorem agree_ofCatalog (x : Except CatalogError α) :
    A.Agree p (ofCatalog x) (ofCatalog x) fun _ _ => True :=
  agree_ofResult _

/-- A query level is opened and closed on both sides. -/
theorem Agree.withScope {P : σ → α → Prop} {x : Walk σ α} {y : Walk τ α} (h : A.Agree p x y P) :
    A.Agree p (withScope x) (withScope y) P := by
  intro s t hp hst
  have hopen : A.RelState { s with scopes := Scope.empty :: s.scopes }
      { t with scopes := Scope.empty :: t.scopes } :=
    ⟨congrArg (Scope.empty :: ·) hst.scopes, hst.tables, hst.params⟩
  rcases h { s with scopes := Scope.empty :: s.scopes } { t with scopes := Scope.empty :: t.scopes }
    hp hopen with hexcused | ⟨hr, hst', hbelow, hpost⟩
  · exact Or.inl hexcused
  · exact Or.inr ⟨hr, ⟨congrArg List.tail hst'.scopes, hst'.tables, hst'.params⟩, hbelow, hpost⟩

/-- The two sides have the same query levels, so they see the same innermost one. -/
theorem agree_currentScope : A.Agree p (currentScope : Walk σ Scope) currentScope fun _ _ => True := by
  intro s t _ hst
  have hscopes := hst.scopes
  unfold currentScope
  rw [← hscopes]
  cases s.scopes with
  | nil => exact Or.inr ⟨rfl, hst, Below.refl A _, fun _ _ => trivial⟩
  | cons scope outer => exact Or.inr ⟨rfl, hst, Below.refl A _, fun _ _ => trivial⟩

/-- A table is added to the same level under the same name, or refused on both sides. -/
theorem agree_addBinding (b : Binding) :
    A.Agree p (addBinding b : Walk σ Unit) (addBinding b) fun _ _ => True := by
  intro s t _ hst
  have hscopes := hst.scopes
  unfold addBinding
  rw [← hscopes]
  cases s.scopes with
  | nil => exact Or.inr ⟨rfl, hst, Below.refl A _, fun _ _ => trivial⟩
  | cons scope outer =>
    dsimp only
    cases scope.add b with
    | error e => exact Or.inr ⟨rfl, hst, Below.refl A _, fun _ _ => trivial⟩
    | ok scope' =>
      exact Or.inr ⟨rfl, ⟨rfl, hst.tables, hst.params⟩, Below.refl A _, fun _ _ => trivial⟩

/-- Both sides have counted the same tables. -/
theorem agree_newTable : A.Agree p (newTable : Walk σ Nat) newTable fun _ _ => True := by
  intro s t _ hst
  unfold newTable
  rw [hst.tables]
  exact Or.inr ⟨rfl, ⟨hst.scopes, rfl, hst.params⟩, Below.refl A _, fun _ _ => trivial⟩

/-- Columns are looked up in query levels alone. -/
theorem agree_resolveColumn (table : Option String) (column : String) :
    A.Agree p (resolveColumn table column : Walk σ BoundColumn) (resolveColumn table column)
      fun _ _ => True := by
  intro s t _ hst
  unfold resolveColumn
  rw [hst.scopes]
  exact Or.inr ⟨rfl, ⟨hst.scopes, hst.tables, hst.params⟩, Below.refl A _, fun _ _ => trivial⟩

/-! ### Questions -/

/-- A reference is one of the two questions; `HookAgreement.refer` is what was asked of it. -/
theorem agree_referParam (n : Nat) :
    A.Agree p (referParam n : Walk σ SqlType) (referParam n) fun p t => A.known p n t := by
  intro s t _ hst
  rcases A.refer n hst.params with hexcused | ⟨hsame, hbelow, hknown⟩
  · exact Or.inl hexcused
  · exact Or.inr ⟨hsame.result, ⟨hst.scopes, hst.tables, hsame.state⟩, hbelow, hknown⟩

/-- A wanted type is the other question. That the parameter is known is what makes it one of those
that `HookAgreement.settle` speaks about. -/
theorem agree_settleParam {n : Nat} {target : SqlType} (hn : A.known p n .unknown)
    (ht : target.isResolved = true) :
    A.Agree p (settleParam n target : Walk σ SqlType) (settleParam n target)
      fun p t => A.known p n t := by
  intro s t hp hst
  rcases A.settle hst.params (hp _ _ hn) ht with hexcused | ⟨hsame, hbelow, hknown⟩
  · exact Or.inl hexcused
  · exact Or.inr ⟨hsame.result, ⟨hst.scopes, hst.tables, hsame.state⟩, hbelow, hknown⟩

/-! ### Coercions -/

/-- An inserted cast asks nothing, and what it gives is computed. -/
theorem agree_castImplicitly (e : BoundExpr) (target : SqlType) :
    A.Agree p (e.castImplicitly target : Walk σ BoundExpr) (e.castImplicitly target) A.Knows := by
  unfold BoundExpr.castImplicitly
  split
  · exact Agree.pure fun p' _ => A.knows_computed p' _ _
  · exact Agree.throw

/-- Coercion is the only place where a type is wanted for a parameter. -/
theorem agree_coerce {e : BoundExpr} (he : A.Knows p e) (target : SqlType) :
    A.Agree p (e.coerce target : Walk σ BoundExpr) (e.coerce target) A.Knows := by
  unfold BoundExpr.coerce
  split
  · exact Agree.pure fun p' hp' => he.mono hp'
  · rename_i htarget
    have ht : target.isResolved = true := by
      rw [not_or, Bool.not_eq_false] at htarget
      exact htarget.2
    split
    · -- the parameter stands in the expression, so it is known
      rename_i name n
      refine (agree_settleParam (he name n .unknown rfl) ht).bind fun t p' _ hn => ?_
      exact Agree.pure fun p'' hp'' => knows_parameter (hp'' _ _ hn)
    · split
      · refine (agree_ofType _).bind fun v p' _ _ => ?_
        exact Agree.pure fun p'' _ => A.knows_constant p'' _ _
      · exact agree_castImplicitly _ _
    · exact agree_castImplicitly _ _

theorem agree_coerceUnknown {e : BoundExpr} (he : A.Knows p e) (target : SqlType) :
    A.Agree p (e.coerceUnknown target : Walk σ BoundExpr) (e.coerceUnknown target) A.Knows := by
  unfold BoundExpr.coerceUnknown
  split
  · exact agree_coerce he target
  · exact Agree.pure fun p' hp' => he.mono hp'

/-- Expression by expression, each with what the ones before it have made known. -/
theorem agree_coerceAll (target : SqlType) {es : List BoundExpr} (hes : A.KnowsAll p es) :
    A.Agree p (BoundExpr.coerceAll target es : Walk σ _) (BoundExpr.coerceAll target es)
      A.KnowsAll := by
  induction es generalizing p with
  | nil => exact Agree.pure fun p' _ => A.knowsAll_nil p'
  | cons e es ih =>
    obtain ⟨he, hes⟩ := List.forall_mem_cons.1 hes
    unfold BoundExpr.coerceAll
    refine (agree_coerce he target).bind fun e' p₁ hp₁ he' => ?_
    refine (ih (KnowsAll.mono hes hp₁)).bind fun es' p₂ hp₂ hes' => ?_
    exact Agree.pure fun p' hp' => KnowsAll.cons ((he'.mono hp₂).mono hp') (hes'.mono hp')

/-- The shorter of the two lists ends the walk, on both sides at once. -/
theorem agree_coerceEach {es : List BoundExpr} (hes : A.KnowsAll p es) (ts : List SqlType) :
    A.Agree p (BoundExpr.coerceEach es ts : Walk σ _) (BoundExpr.coerceEach es ts)
      A.KnowsAll := by
  induction es generalizing p ts with
  | nil =>
    unfold BoundExpr.coerceEach
    exact Agree.pure fun p' _ => A.knowsAll_nil p'
  | cons e es ih =>
    obtain ⟨he, hes⟩ := List.forall_mem_cons.1 hes
    cases ts with
    | nil =>
      unfold BoundExpr.coerceEach
      exact Agree.pure fun p' _ => A.knowsAll_nil p'
    | cons t ts =>
      unfold BoundExpr.coerceEach
      refine (agree_coerce he t).bind fun e' p₁ hp₁ he' => ?_
      refine (ih (KnowsAll.mono hes hp₁) ts).bind fun es' p₂ hp₂ hes' => ?_
      exact Agree.pure fun p' hp' => KnowsAll.cons ((he'.mono hp₂).mono hp') (hes'.mono hp')

/-- The common type depends on the expressions alone, so both sides unify to the same one or to
none. -/
theorem agree_unify {es : List BoundExpr} (hes : A.KnowsAll p es) (default : Option SqlType) :
    A.Agree p (BoundExpr.unify es default : Walk σ _) (BoundExpr.unify es default)
      fun p r => A.KnowsAll p r.1 := by
  unfold BoundExpr.unify
  refine (agree_ofType _).bind fun common p₁ hp₁ _ => ?_
  cases common with
  | none => exact Agree.pure fun p' hp' => (hes.mono hp₁).mono hp'
  | some common =>
    refine (agree_coerceAll common (hes.mono hp₁)).bind fun es' p₂ _ hes' => ?_
    exact Agree.pure fun p' hp' => hes'.mono hp'

/-! ### Rules for single forms -/

theorem agree_bindColumnRef (parts : List Ident) :
    A.Agree p (bindColumnRef parts : Walk σ BoundExpr) (bindColumnRef parts) A.Knows := by
  unfold bindColumnRef
  split
  · refine (agree_resolveColumn _ _).bind fun c p' _ _ => ?_
    exact Agree.pure fun p'' _ => A.knows_column p'' c
  · refine (agree_resolveColumn _ _).bind fun c p' _ _ => ?_
    exact Agree.pure fun p'' _ => A.knows_column p'' c
  · exact Agree.throw

/-- A placeholder is where a parameter becomes known. -/
theorem agree_bindLiteral (l : Literal) :
    A.Agree p (bindLiteral l : Walk σ BoundExpr) (bindLiteral l) A.Knows := by
  unfold bindLiteral
  split
  · split
    · refine (agree_referParam _).bind fun t p' _ hn => ?_
      exact Agree.pure fun p'' hp'' => knows_parameter (hp'' _ _ hn)
    · exact Agree.throw
  · refine (agree_ofType _).bind fun v p' _ _ => ?_
    exact Agree.pure fun p'' _ => A.knows_constant p'' _ v

/-- A cast of something without a type is a coercion, and every other cast is decided by the
expression. -/
theorem agree_bindCast (name : String) (target : SqlType) {e : BoundExpr} (he : A.Knows p e) :
    A.Agree p (bindCast name target e : Walk σ BoundExpr) (bindCast name target e) A.Knows := by
  unfold bindCast
  split
  · exact agree_coerce he target
  · split
    · exact Agree.pure fun p' hp' => he.mono hp'
    · split
      · refine (agree_ofType _).bind fun v p' _ _ => ?_
        exact Agree.pure fun p'' _ => A.knows_constant p'' _ v
      · exact Agree.pure fun p' _ => A.knows_computed p' _ _

/-- The operands are unified for the sake of the hook; what is given is a predicate. -/
theorem agree_bindComparison (name : String) {es : List BoundExpr} (hes : A.KnowsAll p es) :
    A.Agree p (bindComparison name es : Walk σ BoundExpr) (bindComparison name es) A.Knows := by
  unfold bindComparison
  refine (agree_unify hes _).bind fun _ _ _ _ => ?_
  exact Agree.pure fun p' _ => A.knows_computed p' _ _

theorem agree_bindBranches (name : String) {es : List BoundExpr} (hes : A.KnowsAll p es) :
    A.Agree p (bindBranches name es : Walk σ BoundExpr) (bindBranches name es) A.Knows := by
  unfold bindBranches
  refine (agree_unify hes _).bind fun _ _ _ _ => ?_
  exact Agree.pure fun p' _ => A.knows_computed p' _ _

/-- The type of the result is the common type, which the two sides share. -/
theorem agree_bindArithmetic (name : String) (op : BinaryOp) {l r : BoundExpr} (hl : A.Knows p l)
    (hr : A.Knows p r) :
    A.Agree p (bindArithmetic name op l r : Walk σ BoundExpr) (bindArithmetic name op l r)
      A.Knows := by
  have hboth : A.KnowsAll p [l, r] := KnowsAll.cons hl (KnowsAll.cons hr (A.knowsAll_nil p))
  unfold bindArithmetic
  refine (agree_unify hboth none).bind fun u p' _ _ => ?_
  dsimp only
  split
  · exact Agree.throw
  · exact Agree.pure fun p'' _ => A.knows_computed p'' _ _

theorem agree_bindConnective (name : String) {l r : BoundExpr} (hl : A.Knows p l)
    (hr : A.Knows p r) :
    A.Agree p (bindConnective name l r : Walk σ BoundExpr) (bindConnective name l r) A.Knows := by
  unfold bindConnective
  refine (agree_coerce hl _).bind fun _ p₁ hp₁ _ => ?_
  refine (agree_coerce (hr.mono hp₁) _).bind fun _ p₂ _ _ => ?_
  exact Agree.pure fun p' _ => A.knows_computed p' _ _

theorem agree_bindConcat (name : String) {l r : BoundExpr} (hl : A.Knows p l) (hr : A.Knows p r) :
    A.Agree p (bindConcat name l r : Walk σ BoundExpr) (bindConcat name l r) A.Knows := by
  unfold bindConcat
  refine (agree_coerceUnknown hl _).bind fun _ p₁ hp₁ _ => ?_
  refine (agree_coerceUnknown (hr.mono hp₁) _).bind fun _ p₂ _ _ => ?_
  exact Agree.pure fun p' _ => A.knows_computed p' _ _

/-- One case for each kind of operator, as the binding of them is split. -/
theorem agree_bindBinary (name : String) (op : BinaryOp) {l r : BoundExpr} (hl : A.Knows p l)
    (hr : A.Knows p r) :
    A.Agree p (bindBinary name op l r : Walk σ BoundExpr) (bindBinary name op l r) A.Knows := by
  have hboth : A.KnowsAll p [l, r] := KnowsAll.cons hl (KnowsAll.cons hr (A.knowsAll_nil p))
  cases op with
  | eq | notEq | lt | ltEq | gt | gtEq => exact agree_bindComparison name hboth
  | plus | minus | multiply | divide | modulo => exact agree_bindArithmetic name _ hl hr
  | and | or => exact agree_bindConnective name hl hr
  | concat => exact agree_bindConcat name hl hr
  | other | custom => exact Agree.throw

theorem agree_bindUnary (name : String) (op : UnaryOp) {e : BoundExpr} (he : A.Knows p e) :
    A.Agree p (bindUnary name op e : Walk σ BoundExpr) (bindUnary name op e) A.Knows := by
  have hsign (op : UnaryOp) :
      A.Agree p (bindSign name op e : Walk σ BoundExpr) (bindSign name op e) A.Knows := by
    unfold bindSign
    split
    · exact Agree.throw
    · exact Agree.pure fun p' _ => A.knows_computed p' _ _
  have hnot : A.Agree p (bindNot name e : Walk σ BoundExpr) (bindNot name e) A.Knows := by
    unfold bindNot
    refine (agree_coerce he _).bind fun _ p₁ _ _ => ?_
    exact Agree.pure fun p' _ => A.knows_computed p' _ _
  cases op with
  | not => exact hnot
  | plus | minus => exact hsign _
  | factorial | other => exact Agree.throw

/-! ### Outputs of queries -/

theorem agree_singleColumn {q : BoundQuery} (hq : A.KnowsAll p q.columns) :
    A.Agree p (singleColumn q : Walk σ BoundExpr) (singleColumn q) A.Knows := by
  unfold singleColumn
  split
  · rename_i column hcolumns
    have hcolumn : A.Knows p column := hq column (by rw [hcolumns]; exact List.mem_singleton_self _)
    exact Agree.pure fun p' hp' => hcolumn.mono hp'
  · exact Agree.throw

/-- The first of the unified expressions is kept, and it was known with the others. -/
theorem KnowsAll.take {es : List BoundExpr} (hes : A.KnowsAll p es) (n : Nat) :
    A.KnowsAll p (es.take n) :=
  fun e he => hes e (List.mem_of_mem_take he)

/-- Set operations and rows go on with the first of the unified expressions only. -/
theorem agree_firstUnified {es : List BoundExpr} (hes : A.KnowsAll p es) :
    A.Agree p (firstUnified es : Walk σ _) (firstUnified es) A.KnowsAll := by
  unfold firstUnified
  refine (agree_unify hes _).bind fun u p₁ _ hu => ?_
  exact Agree.pure fun p' hp' => (KnowsAll.take hu 1).mono hp'

/-- Column by column on both sides of a set operation; columns without a partner are dropped. -/
theorem agree_combineColumns {ls rs : List BoundExpr} (hls : A.KnowsAll p ls)
    (hrs : A.KnowsAll p rs) :
    A.Agree p (combineColumns ls rs : Walk σ _) (combineColumns ls rs) A.KnowsAll := by
  induction ls generalizing p rs with
  | nil =>
    unfold combineColumns
    exact Agree.pure fun p' _ => A.knowsAll_nil p'
  | cons l ls ih =>
    obtain ⟨hl, hls⟩ := List.forall_mem_cons.1 hls
    cases rs with
    | nil =>
      unfold combineColumns
      exact Agree.pure fun p' _ => A.knowsAll_nil p'
    | cons r rs =>
      obtain ⟨hr, hrs⟩ := List.forall_mem_cons.1 hrs
      have hboth : A.KnowsAll p [l, r] := KnowsAll.cons hl (KnowsAll.cons hr (A.knowsAll_nil p))
      unfold combineColumns
      refine (agree_firstUnified hboth).bind fun u p₁ hp₁ hu => ?_
      refine (ih (KnowsAll.mono hls hp₁) (KnowsAll.mono hrs hp₁)).bind fun us p₂ hp₂ hus => ?_
      exact Agree.pure fun p' hp' => KnowsAll.append ((hu.mono hp₂).mono hp') (hus.mono hp')

/-- What is known of a bound query: all its columns. -/
def KnowsQuery (A : HookAgreement σ τ) (p : σ) (q : BoundQuery) : Prop :=
  A.KnowsAll p q.columns

/-- The widths decide whether the two can be combined at all. -/
theorem agree_combineQueries {l r : BoundQuery} (hl : A.KnowsQuery p l) (hr : A.KnowsQuery p r) :
    A.Agree p (combineQueries l r : Walk σ BoundQuery) (combineQueries l r) A.KnowsQuery := by
  unfold combineQueries
  split
  · exact Agree.throw
  · refine (agree_combineColumns hl hr).bind fun columns p₁ _ hcolumns => ?_
    exact Agree.pure fun p' hp' => hcolumns.mono hp'

/-- Column by column: towards the wanted type while there is one, and towards a common one after
that. -/
theorem agree_unifyColumns {rows : List (List BoundExpr)} (hrows : ∀ es ∈ rows, A.KnowsAll p es)
    (expected : Option (List SqlType)) :
    A.Agree p (unifyColumns rows expected : Walk σ _) (unifyColumns rows expected)
      A.KnowsAll := by
  induction rows generalizing p expected with
  | nil =>
    unfold unifyColumns
    exact Agree.pure fun p' _ => A.knowsAll_nil p'
  | cons column columns ih =>
    obtain ⟨hcolumn, hcolumns⟩ := List.forall_mem_cons.1 hrows
    -- Without a wanted type, whether none was given or they have run out.
    have hunify (expected : Option (List SqlType)) :
        A.Agree p
          (do return (← firstUnified column) ++ (← unifyColumns columns expected) : Walk σ _)
          (do return (← firstUnified column) ++ (← unifyColumns columns expected)) A.KnowsAll := by
      refine (agree_firstUnified hcolumn).bind fun u p₁ hp₁ hu => ?_
      refine (ih (fun es h => (hcolumns es h).mono hp₁) _).bind fun us p₂ hp₂ hus => ?_
      exact Agree.pure fun p' hp' => KnowsAll.append ((hu.mono hp₂).mono hp') (hus.mono hp')
    rcases expected with _ | _ | ⟨t, ts⟩
    · exact hunify none
    · exact hunify (some [])
    · unfold unifyColumns
      refine (agree_coerceAll _ hcolumn).bind fun es p₁ hp₁ hes => ?_
      refine (ih (fun es h => (hcolumns es h).mono hp₁) _).bind fun us p₂ hp₂ hus => ?_
      exact Agree.pure fun p' hp' =>
        KnowsAll.append (((KnowsAll.take hes 1).mono hp₂).mono hp') (hus.mono hp')

/-- The columns of rows hold nothing but what the rows hold. -/
theorem knowsAll_columnsOf {rows : List (List BoundExpr)} (hrows : ∀ es ∈ rows, A.KnowsAll p es)
    (width : Nat) : ∀ es ∈ columnsOf width rows, A.KnowsAll p es := by
  intro es hes e he
  unfold columnsOf at hes
  obtain ⟨i, -, rfl⟩ := List.mem_map.1 hes
  obtain ⟨row, hrow, hi⟩ := List.mem_filterMap.1 he
  exact hrows row hrow e (List.mem_of_getElem? hi)

/-- The wanted types and the number of columns are the same for both. -/
theorem agree_checkWidth (expected : Option (List SqlType)) (width : Nat) :
    A.Agree p (checkWidth expected width : Walk σ Unit) (checkWidth expected width)
      fun _ _ => True := by
  unfold checkWidth
  split
  · split
    · exact Agree.pure fun _ _ => trivial
    · exact Agree.throw
  · exact Agree.pure fun _ _ => trivial

/-- Output that is wanted with certain types is coerced to them, and otherwise left alone. -/
theorem agree_fitOutput (expected : Option (List SqlType)) {columns : List BoundExpr}
    (hcolumns : A.KnowsAll p columns) :
    A.Agree p (fitOutput expected columns : Walk σ _) (fitOutput expected columns)
      A.KnowsAll := by
  unfold fitOutput
  refine (agree_checkWidth expected _).bind fun _ p₁ hp₁ _ => ?_
  cases expected with
  | none => exact Agree.pure fun p' hp' => (hcolumns.mono hp₁).mono hp'
  | some types => exact agree_coerceEach (hcolumns.mono hp₁) types

/-- A wildcard gives columns, which are no parameters. -/
theorem agree_starColumns (table : String) (columns : List Column) :
    A.Agree p (starColumns table columns : Walk σ _) (starColumns table columns) A.KnowsAll := by
  induction columns generalizing p with
  | nil => exact Agree.pure fun p' _ => A.knowsAll_nil p'
  | cons c cs ih =>
    unfold starColumns
    refine (agree_resolveColumn _ _).bind fun column p₁ _ _ => ?_
    refine ih.bind fun es p₂ _ hes => ?_
    exact Agree.pure fun p' hp' => KnowsAll.cons (A.knows_column p' column) (hes.mono hp')

theorem agree_starBindings (bindings : List Binding) :
    A.Agree p (starBindings bindings : Walk σ _) (starBindings bindings) A.KnowsAll := by
  induction bindings generalizing p with
  | nil => exact Agree.pure fun p' _ => A.knowsAll_nil p'
  | cons b bs ih =>
    unfold starBindings
    refine (agree_starColumns _ _).bind fun es p₁ _ hes => ?_
    refine ih.bind fun fs p₂ hp₂ hfs => ?_
    exact Agree.pure fun p' hp' => KnowsAll.append ((hes.mono hp₂).mono hp') (hfs.mono hp')

/-- Both sides expand a wildcard over the same innermost level. -/
theorem agree_bindStar (table : Option ObjectName) :
    A.Agree p (bindStar table : Walk σ _) (bindStar table) A.KnowsAll := by
  unfold bindStar
  cases table with
  | none =>
    refine agree_currentScope.bind fun scope p₁ _ _ => ?_
    split
    · exact Agree.throw
    · exact agree_starBindings _
  | some table =>
    refine (agree_ofResult _).bind fun name p₁ _ _ => ?_
    refine agree_currentScope.bind fun scope p₂ _ _ => ?_
    split
    · exact agree_starBindings _
    · exact Agree.throw

/-- A table of the catalog enters the level with the next number, which is the same for both. -/
theorem agree_bindTable (catalog : Catalog) (name : ObjectName) (label : Option TableAlias) :
    A.Agree p (bindTable catalog name label : Walk σ Unit) (bindTable catalog name label)
      fun _ _ => True := by
  unfold bindTable
  refine (agree_ofResult _).bind fun name p₁ _ _ => ?_
  refine (agree_ofCatalog _).bind fun table p₂ _ _ => ?_
  refine agree_newTable.bind fun index p₃ _ _ => ?_
  exact agree_addBinding _

/-- A subquery in a `FROM` is bound by then, and enters the level as a table does. -/
theorem agree_bindDerived (q : BoundQuery) (label : TableAlias) :
    A.Agree p (bindDerived q label : Walk σ Unit) (bindDerived q label) fun _ _ => True := by
  unfold bindDerived
  refine agree_newTable.bind fun index p₁ _ _ => ?_
  exact agree_addBinding _

/-! ### Expressions, queries and tables -/

variable (A) (catalog : Catalog)

-- On the syntax, all its kinds at once. What is known only grows from part to part, so what is
-- known of an operand is carried over the binding of the later ones by `mono`.
mutual

/-- **An expression under two hooks that agree.** -/
theorem bindExpr_agrees (p : σ) : (e : Expr) →
    A.Agree p (bindExpr catalog e : Walk σ BoundExpr) (bindExpr catalog e) A.Knows
  | .column name => by
    unfold bindExpr
    exact agree_bindColumnRef _
  | .qualified parts => by
    unfold bindExpr
    exact agree_bindColumnRef _
  | .literal value => by
    unfold bindExpr
    exact agree_bindLiteral _
  | .typed type text => by
    unfold bindExpr
    refine (agree_ofType _).bind fun target p₁ _ _ => ?_
    refine (agree_ofType _).bind fun value p₂ _ _ => ?_
    exact Agree.pure fun p' _ => A.knows_constant p' _ _
  | .cast operand type => by
    unfold bindExpr
    refine (agree_ofType _).bind fun target p₁ _ _ => ?_
    refine (bindExpr_agrees p₁ operand).bind fun e p₂ _ he => ?_
    exact agree_bindCast _ _ he
  | .nested operand => by
    unfold bindExpr
    exact bindExpr_agrees p operand
  | .binary op left right => by
    unfold bindExpr
    refine (bindExpr_agrees p left).bind fun l p₁ _ hl => ?_
    refine (bindExpr_agrees p₁ right).bind fun r p₂ hp₂ hr => ?_
    exact agree_bindBinary _ op (hl.mono hp₂) hr
  | .unary op operand => by
    unfold bindExpr
    refine (bindExpr_agrees p operand).bind fun e p₁ _ he => ?_
    exact agree_bindUnary _ op he
  | .isNull operand negated => by
    unfold bindExpr
    refine (bindExpr_agrees p operand).bind fun e p₁ _ _ => ?_
    exact Agree.pure fun p' _ => A.knows_computed p' _ _
  | .inList operand items negated => by
    unfold bindExpr
    refine (bindExpr_agrees p operand).bind fun e p₁ _ he => ?_
    refine (bindExprs_agrees p₁ items).bind fun es p₂ hp₂ hes => ?_
    exact agree_bindComparison _ (KnowsAll.cons (he.mono hp₂) hes)
  | .inQuery operand query negated => by
    unfold bindExpr
    refine (bindExpr_agrees p operand).bind fun e p₁ _ he => ?_
    refine (bindQuery_agrees p₁ none query).bind fun q p₂ hp₂ hq => ?_
    refine (agree_singleColumn hq).bind fun column p₃ hp₃ hcolumn => ?_
    exact agree_bindComparison _ (KnowsAll.cons ((he.mono hp₂).mono hp₃)
      (KnowsAll.cons hcolumn (A.knowsAll_nil p₃)))
  | .between operand low high negated => by
    unfold bindExpr
    refine (bindExpr_agrees p operand).bind fun e p₁ _ he => ?_
    refine (bindExpr_agrees p₁ low).bind fun l p₂ hp₂ hl => ?_
    refine (bindExpr_agrees p₂ high).bind fun h p₃ hp₃ hh => ?_
    exact agree_bindComparison _ (KnowsAll.cons ((he.mono hp₂).mono hp₃)
      (KnowsAll.cons (hl.mono hp₃) (KnowsAll.cons hh (A.knowsAll_nil p₃))))
  | .like kind operand pattern escape negated => by
    unfold bindExpr
    refine (bindExpr_agrees p operand).bind fun e p₁ _ he => ?_
    refine (agree_coerce he _).bind fun _ p₂ _ _ => ?_
    refine (bindExpr_agrees p₂ pattern).bind fun e p₃ _ he => ?_
    refine (agree_coerce he _).bind fun _ p₄ _ _ => ?_
    exact Agree.pure fun p' _ => A.knows_computed p' _ _
  | .case none conditions results otherwise => by
    unfold bindExpr
    refine (bindConditions_agrees p conditions).bind fun _ p₁ _ _ => ?_
    refine (bindExprs_agrees p₁ results).bind fun branches p₂ _ hbranches => ?_
    refine (bindOption_agrees p₂ otherwise).bind fun last p₃ hp₃ hlast => ?_
    exact agree_bindBranches _ (KnowsAll.append (hbranches.mono hp₃) hlast)
  | .case (some operand) conditions results otherwise => by
    unfold bindExpr
    refine (bindExpr_agrees p operand).bind fun e p₁ _ he => ?_
    refine (bindExprs_agrees p₁ conditions).bind fun es p₂ hp₂ hes => ?_
    refine (agree_unify (KnowsAll.cons (he.mono hp₂) hes) _).bind fun _ p₃ _ _ => ?_
    refine (bindExprs_agrees p₃ results).bind fun branches p₄ _ hbranches => ?_
    refine (bindOption_agrees p₄ otherwise).bind fun last p₅ hp₅ hlast => ?_
    exact agree_bindBranches _ (KnowsAll.append (hbranches.mono hp₅) hlast)
  | .exists query negated => by
    unfold bindExpr
    refine (bindQuery_agrees p none query).bind fun q p₁ _ _ => ?_
    exact Agree.pure fun p' _ => A.knows_computed p' _ _
  | .subquery query => by
    unfold bindExpr
    refine (bindQuery_agrees p none query).bind fun q p₁ _ hq => ?_
    refine (agree_singleColumn hq).bind fun column p₂ _ _ => ?_
    exact Agree.pure fun p' _ => A.knows_computed p' _ _
  | .arrayOf query => by
    unfold bindExpr
    exact Agree.throw
  | .form form operands => by
    unfold bindExpr
    exact Agree.throw

/-- Left to right, so that a later expression may use what an earlier one made known. -/
theorem bindExprs_agrees (p : σ) : (es : List Expr) →
    A.Agree p (bindExprs catalog es : Walk σ _) (bindExprs catalog es) A.KnowsAll
  | [] => by
    unfold bindExprs
    exact Agree.pure fun p' _ => A.knowsAll_nil p'
  | e :: es => by
    unfold bindExprs
    refine (bindExpr_agrees p e).bind fun b p₁ _ hb => ?_
    refine (bindExprs_agrees p₁ es).bind fun bs p₂ hp₂ hbs => ?_
    exact Agree.pure fun p' hp' => KnowsAll.cons ((hb.mono hp₂).mono hp') (hbs.mono hp')

/-- What may be left out, such as the `ELSE` of a `CASE`. -/
theorem bindOption_agrees (p : σ) : (e : Option Expr) →
    A.Agree p (bindOption catalog e : Walk σ _) (bindOption catalog e)
      fun p e => A.KnowsAll p e.toList
  | none => by
    unfold bindOption
    exact Agree.pure fun p' _ => A.knowsAll_nil p'
  | some e => by
    unfold bindOption
    rw [← bind_pure_comp, ← bind_pure_comp]
    refine (bindExpr_agrees p e).bind fun b p₁ _ hb => ?_
    exact Agree.pure fun p' hp' => KnowsAll.cons (hb.mono hp') (A.knowsAll_nil p')

/-- The conditions of a `CASE` are wanted as booleans. -/
theorem bindConditions_agrees (p : σ) : (es : List Expr) →
    A.Agree p (bindConditions catalog es : Walk σ Unit) (bindConditions catalog es)
      fun _ _ => True
  | [] => by
    unfold bindConditions
    exact Agree.pure fun _ _ => trivial
  | e :: es => by
    unfold bindConditions
    refine (bindExpr_agrees p e).bind fun b p₁ _ hb => ?_
    refine (agree_coerce hb _).bind fun _ p₂ _ _ => ?_
    exact bindConditions_agrees p₂ es

theorem bindCondition_agrees (p : σ) : (e : Option Expr) →
    A.Agree p (bindCondition catalog e : Walk σ Unit) (bindCondition catalog e)
      fun _ _ => True
  | none => by
    unfold bindCondition
    exact Agree.pure fun _ _ => trivial
  | some e => by
    unfold bindCondition
    refine (bindExpr_agrees p e).bind fun b p₁ _ hb => ?_
    refine (agree_coerce hb _).bind fun _ p₂ _ _ => ?_
    exact Agree.pure fun _ _ => trivial

theorem bindCount_agrees (p : σ) : (e : Option Expr) →
    A.Agree p (bindCount catalog e : Walk σ Unit) (bindCount catalog e) fun _ _ => True
  | none => by
    unfold bindCount
    exact Agree.pure fun _ _ => trivial
  | some e => by
    unfold bindCount
    refine (bindExpr_agrees p e).bind fun b p₁ _ hb => ?_
    refine (agree_coerce hb _).bind fun _ p₂ _ _ => ?_
    exact Agree.pure fun _ _ => trivial

/-- The rows of a `VALUES`, each of the width that the first one has. -/
theorem bindRows_agrees (p : σ) (width : Nat) : (rows : List (List Expr)) →
    A.Agree p (bindRows catalog width rows : Walk σ _) (bindRows catalog width rows)
      fun p rows => ∀ es ∈ rows, A.KnowsAll p es
  | [] => by
    unfold bindRows
    exact Agree.pure fun _ _ _ h => absurd h List.not_mem_nil
  | row :: rows => by
    unfold bindRows
    split
    · exact Agree.throw
    · refine (bindExprs_agrees p row).bind fun es p₁ _ hes => ?_
      refine (bindRows_agrees p₁ width rows).bind fun bound p₂ hp₂ hbound => ?_
      refine Agree.pure fun p' hp' => List.forall_mem_cons.2 ⟨(hes.mono hp₂).mono hp', ?_⟩
      exact fun es h => (hbound es h).mono hp'

/-- A query opens a level of its own, and binds its order and its limits in it after its body. -/
theorem bindQuery_agrees (p : σ) (expected : Option (List SqlType)) : (q : Query) →
    A.Agree p (bindQuery catalog expected q : Walk σ _) (bindQuery catalog expected q)
      A.KnowsQuery
  | .mk recursive ctes body orderBy limit offset offsetWord fetch lock => by
    unfold bindQuery
    split
    · exact Agree.throw
    · refine Agree.withScope ?_
      refine (bindBody_agrees p false expected body).bind fun output p₁ _ houtput => ?_
      refine (bindOrder_agrees p₁ output.names orderBy).bind fun _ p₂ hp₂ _ => ?_
      refine (bindCount_agrees p₂ limit).bind fun _ p₃ hp₃ _ => ?_
      refine (bindCount_agrees p₃ offset).bind fun _ p₄ hp₄ _ => ?_
      exact Agree.pure fun p' hp' =>
        houtput.mono (hp₂.trans (hp₃.trans (hp₄.trans hp')))

/-- A `SELECT` that is combined with others gets one more level, in which it agrees for the same
reason. -/
theorem bindBody_agrees (p : σ) (combined : Bool) (expected : Option (List SqlType)) :
    (b : Body) → A.Agree p (bindBody catalog combined expected b : Walk σ _)
      (bindBody catalog combined expected b) A.KnowsQuery
  | .select distinct items tables condition groupBy having extras => by
    have hselect : A.Agree p (do
          bindTables catalog tables
          bindCondition catalog condition
          let _ ← bindExprs catalog groupBy
          bindCondition catalog having
          let output ← bindItems catalog items
          return ⟨output.names, ← fitOutput expected output.columns⟩ : Walk σ BoundQuery)
        (do
          bindTables catalog tables
          bindCondition catalog condition
          let _ ← bindExprs catalog groupBy
          bindCondition catalog having
          let output ← bindItems catalog items
          return ⟨output.names, ← fitOutput expected output.columns⟩) A.KnowsQuery := by
      refine (bindTables_agrees p tables).bind fun _ p₁ _ _ => ?_
      refine (bindCondition_agrees p₁ condition).bind fun _ p₂ _ _ => ?_
      refine (bindExprs_agrees p₂ groupBy).bind fun _ p₃ _ _ => ?_
      refine (bindCondition_agrees p₃ having).bind fun _ p₄ _ _ => ?_
      refine (bindItems_agrees p₄ items).bind fun output p₅ _ houtput => ?_
      refine (agree_fitOutput expected houtput).bind fun columns p₆ _ hcolumns => ?_
      exact Agree.pure fun p' hp' => hcolumns.mono hp'
    unfold bindBody
    cases combined with
    | false => exact hselect
    | true => exact hselect.withScope
  | .query query => by
    unfold bindBody
    exact bindQuery_agrees p expected query
  | .operation op quantifier left right => by
    unfold bindBody
    refine (bindBody_agrees p true expected left).bind fun l p₁ _ hl => ?_
    refine (bindBody_agrees p₁ true expected right).bind fun r p₂ hp₂ hr => ?_
    exact agree_combineQueries (hl.mono hp₂) hr
  | .values rowWord rows => by
    unfold bindBody
    refine (agree_checkWidth _ _).bind fun _ p₁ _ _ => ?_
    refine (bindRows_agrees p₁ _ rows).bind fun bound p₂ _ hbound => ?_
    have hcolumns : ∀ es ∈ columnsOf ((rows.head?.map List.length).getD 0) bound,
        A.KnowsAll p₂ es := knowsAll_columnsOf hbound _
    refine (agree_unifyColumns hcolumns expected).bind fun columns p₃ _ hcolumns => ?_
    exact Agree.pure fun p' hp' => hcolumns.mono hp'
  | .other text outline => by
    unfold bindBody
    exact Agree.throw

/-- The output is what the items give one after the other. -/
theorem bindItems_agrees (p : σ) : (items : List SelectItem) →
    A.Agree p (bindItems catalog items : Walk σ _) (bindItems catalog items) A.KnowsQuery
  | [] => by
    unfold bindItems
    exact Agree.pure fun p' _ => A.knowsAll_nil p'
  | .unnamed value :: items => by
    unfold bindItems
    refine (bindExpr_agrees p value).bind fun e p₁ _ he => ?_
    refine (bindItems_agrees p₁ items).bind fun q p₂ hp₂ hq => ?_
    exact Agree.pure fun p' hp' => KnowsAll.cons ((he.mono hp₂).mono hp') (hq.mono hp')
  | .named value name :: items => by
    unfold bindItems
    refine (bindExpr_agrees p value).bind fun e p₁ _ he => ?_
    refine (bindItems_agrees p₁ items).bind fun q p₂ hp₂ hq => ?_
    exact Agree.pure fun p' hp' => KnowsAll.cons ((he.mono hp₂).mono hp') (hq.mono hp')
  | .wildcard :: items => by
    unfold bindItems
    refine (agree_bindStar none).bind fun columns p₁ _ hcolumns => ?_
    refine (bindItems_agrees p₁ items).bind fun q p₂ hp₂ hq => ?_
    exact Agree.pure fun p' hp' => KnowsAll.append ((hcolumns.mono hp₂).mono hp') (hq.mono hp')
  | .qualifiedWildcard table :: items => by
    unfold bindItems
    refine (agree_bindStar (some table)).bind fun columns p₁ _ hcolumns => ?_
    refine (bindItems_agrees p₁ items).bind fun q p₂ hp₂ hq => ?_
    exact Agree.pure fun p' hp' => KnowsAll.append ((hcolumns.mono hp₂).mono hp') (hq.mono hp')

/-- An order by an output name is not looked at, and the names are the same for both. -/
theorem bindOrder_agrees (p : σ) (names : List String) : (items : List OrderItem) →
    A.Agree p (bindOrder catalog names items : Walk σ Unit) (bindOrder catalog names items)
      fun _ _ => True
  | [] => by
    unfold bindOrder
    exact Agree.pure fun _ _ => trivial
  | .mk value direction :: items => by
    unfold bindOrder
    split
    · refine (bindExpr_agrees p value).bind fun _ p₁ _ _ => ?_
      exact bindOrder_agrees p₁ names items
    · exact bindOrder_agrees p names items

/-- A table, a subquery with a name, or a join, which binds its two sides before its condition. -/
theorem bindTableRef_agrees (p : σ) : (t : TableRef) →
    A.Agree p (bindTableRef catalog t : Walk σ Unit) (bindTableRef catalog t) fun _ _ => True
  | .table name hasArgs args label hints => by
    unfold bindTableRef
    exact agree_bindTable catalog name label
  | .derived lateral query none => by
    unfold bindTableRef
    exact Agree.throw
  | .derived lateral query (some label) => by
    unfold bindTableRef
    refine (bindQuery_agrees p none query).bind fun q p₁ _ _ => ?_
    exact agree_bindDerived q label
  | .function value label => by
    unfold bindTableRef
    exact Agree.throw
  | .nested tables label => by
    unfold bindTableRef
    exact Agree.throw
  | .join left kind right rule condition => by
    unfold bindTableRef
    refine (bindTableRef_agrees p left).bind fun _ p₁ _ _ => ?_
    refine (bindTableRef_agrees p₁ right).bind fun _ p₂ _ _ => ?_
    split
    · exact bindCondition_agrees p₂ condition
    · exact Agree.throw

theorem bindTables_agrees (p : σ) : (ts : List TableRef) →
    A.Agree p (bindTables catalog ts : Walk σ Unit) (bindTables catalog ts) fun _ _ => True
  | [] => by
    unfold bindTables
    exact Agree.pure fun _ _ => trivial
  | t :: ts => by
    unfold bindTables
    refine (bindTableRef_agrees p t).bind fun _ p₁ _ _ => ?_
    exact bindTables_agrees p₁ ts

end

/-! ### Statements -/

/-- The table and the named columns come from the catalog; only the source can ask something. -/
theorem bindInsert_agrees (p : σ) (i : Insert) :
    A.Agree p (bindInsert catalog i : Walk σ Unit) (bindInsert catalog i) fun _ _ => True := by
  unfold bindInsert
  refine (agree_ofResult _).bind fun name p₁ _ _ => ?_
  refine (agree_ofCatalog _).bind fun table p₂ _ _ => ?_
  refine (agree_ofResult _).bind fun types p₃ _ _ => ?_
  refine (bindQuery_agrees A catalog p₃ (some types) i.source).bind fun _ p₄ _ _ => ?_
  exact Agree.pure fun _ _ => trivial

/-- Each assigned value is wanted with the type of its column. -/
theorem bindAssignments_agrees (p : σ) (table : Table) (name : String) (as : List Assignment) :
    A.Agree p (bindAssignments catalog table name as : Walk σ Unit)
      (bindAssignments catalog table name as) fun _ _ => True := by
  induction as generalizing p with
  | nil => exact Agree.pure fun _ _ => trivial
  | cons a as ih =>
    unfold bindAssignments
    split
    · exact Agree.throw
    · split
      · exact Agree.throw
      · refine (bindExpr_agrees A catalog p a.value).bind fun e p₁ _ he => ?_
        refine (agree_coerce he _).bind fun _ p₂ _ _ => ?_
        exact ih p₂

theorem bindSource_agrees (p : σ) (source : Option TableRef) :
    A.Agree p (bindSource catalog source : Walk σ Unit) (bindSource catalog source)
      fun _ _ => True := by
  cases source with
  | none => exact Agree.pure fun _ _ => trivial
  | some t => exact bindTableRef_agrees A catalog p t

/-- The table is looked at twice, once as a table of the level and once for the types of its
columns. -/
theorem bindUpdate_agrees (p : σ) (table : TableRef) (assignments : List Assignment)
    (source : Option TableRef) (condition : Option Expr) :
    A.Agree p (bindUpdate catalog table assignments source condition : Walk σ Unit)
      (bindUpdate catalog table assignments source condition) fun _ _ => True := by
  unfold bindUpdate
  -- The level is closed at the end, after the order and the limits, which can see its tables.
  refine Agree.withScope ?_
  refine (agree_ofResult _).bind fun name p₁ _ _ => ?_
  refine (bindTableRef_agrees A catalog p₁ table).bind fun _ p₂ _ _ => ?_
  refine (bindSource_agrees A catalog p₂ source).bind fun _ p₃ _ _ => ?_
  refine (bindCondition_agrees A catalog p₃ condition).bind fun _ p₄ _ _ => ?_
  refine (agree_ofCatalog _).bind fun target p₅ _ _ => ?_
  exact bindAssignments_agrees A catalog p₅ target name assignments

theorem bindDelete_agrees (p : σ) (table : TableRef) (condition : Option Expr) :
    A.Agree p (bindDelete catalog table condition : Walk σ Unit)
      (bindDelete catalog table condition) fun _ _ => True := by
  unfold bindDelete
  refine Agree.withScope ?_
  refine (bindTableRef_agrees A catalog p table).bind fun _ p₁ _ _ => ?_
  exact bindCondition_agrees A catalog p₁ condition

theorem bindStatement_agrees (p : σ) (s : Statement) :
    A.Agree p (bindStatement catalog s : Walk σ Description) (bindStatement catalog s)
      fun _ _ => True := by
  unfold bindStatement
  split
  · refine (bindQuery_agrees A catalog p none _).bind fun output p₁ _ _ => ?_
    exact Agree.pure fun _ _ => trivial
  · refine (bindInsert_agrees A catalog p _).bind fun _ p₁ _ _ => ?_
    exact Agree.pure fun _ _ => trivial
  · refine (bindUpdate_agrees A catalog p _ _ _ _).bind fun _ p₁ _ _ => ?_
    exact Agree.pure fun _ _ => trivial
  · refine (bindDelete_agrees A catalog p _ _).bind fun _ p₁ _ _ => ?_
    exact Agree.pure fun _ _ => trivial
  · exact Agree.throw

/-- The last question, put when everything else is bound. -/
theorem checkParams_agrees (p : σ) :
    A.Agree p (checkParams : Walk σ Unit) checkParams fun _ _ => True := by
  intro s t _ hst
  rcases A.check hst.params with hexcused | hsame
  · exact Or.inl hexcused
  · exact Or.inr ⟨hsame, hst, Below.refl A _, fun _ _ => trivial⟩

/-- **A statement under two hooks that agree.** -/
theorem analyzeStatement_agrees (p : σ) (s : Statement) :
    A.Agree p (analyzeStatement catalog s : Walk σ Description) (analyzeStatement catalog s)
      fun _ _ => True := by
  unfold analyzeStatement
  refine (bindStatement_agrees A catalog p s).bind fun description p₁ _ _ => ?_
  refine (checkParams_agrees A p₁).bind fun _ p₂ _ _ => ?_
  exact Agree.pure fun _ _ => trivial

omit [ParamHook τ] in
theorem analyzeAll_cons (c : Statement) (ss : List Statement) (s : WalkState σ) :
    analyzeAll catalog (c :: ss) s
      = ((analyzeStatement catalog c s).1
          :: (analyzeAll catalog ss (analyzeStatement catalog c s).2).1,
        (analyzeAll catalog ss (analyzeStatement catalog c s).2).2) :=
  rfl

/-- **Several statements under two hooks that agree.** If no failure is excused, all results are the
same, and the states belong together in the end. -/
theorem analyzeAll_agrees (hexcused : ∀ e, ¬A.excused e) (ss : List Statement) {s : WalkState σ}
    {t : WalkState τ} (hst : A.RelState s t) :
    (analyzeAll catalog ss s).1 = (analyzeAll catalog ss t).1
      ∧ A.RelState (analyzeAll catalog ss s).2 (analyzeAll catalog ss t).2 := by
  -- By induction on the statements: each starts in the pair of states that the one before it left.
  induction ss generalizing s t with
  | nil => exact ⟨rfl, hst⟩
  | cons c ss ih =>
    rcases analyzeStatement_agrees A catalog s.params c s t (Below.refl A _) hst with
      ⟨e, -, he⟩ | ⟨hresult, hstate, -, -⟩
    · exact absurd he (hexcused e)
    · rw [analyzeAll_cons, analyzeAll_cons]
      obtain ⟨hresults, hlast⟩ := ih hstate
      exact ⟨by rw [hresult, hresults], hlast⟩

end HookAgreement

end Prepared
