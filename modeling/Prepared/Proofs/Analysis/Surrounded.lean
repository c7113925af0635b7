import Prepared.Proofs.Analysis.StepRelation

/-!
# A query level without tables around all others

A column that is in none of the open query levels is not in an outermost one without tables either
(`findColumn_surrounded`), and an analysis that has opened a level of its own never looks at the
outermost one for anything but columns. So a query is bound inside such a level as it is bound without
it (`bindQuery_surrounded`).
-/

namespace Prepared

open Sql BindM

variable {σ : Type} {α β : Type}

/-- The state with one more query level around all others, which has no tables. -/
def WalkState.surrounded (s : WalkState σ) : WalkState σ :=
  { s with scopes := s.scopes ++ [Scope.empty] }

theorem findColumn_surrounded (table : Option String) (column : String) (depth : Nat)
    (scopes : List Scope) :
    findColumn table column depth (scopes ++ [Scope.empty])
      = findColumn table column depth scopes := by
  induction scopes generalizing depth with
  | nil => cases table <;> rfl
  | cons scope outer ih =>
    rw [List.cons_append, findColumn, findColumn]
    refine congrArg _ (funext fun referent => ?_)
    cases referent with
    | none => exact ih (depth + 1)
    | some b => rfl

/-! ## Steps that a level around them makes no difference to -/

/-- Inside some query level the step does the same whether or not there is one more around it, and it
leaves as many levels open as there were. -/
def Walk.Enclosed (x : Walk σ α) : Prop :=
  ∀ s, s.scopes ≠ [] → x s.surrounded = ((x s).1, (x s).2.surrounded)
    ∧ (x s).2.scopes.length = s.scopes.length

namespace Walk.Enclosed

/-- A step that does not look at the query levels. -/
theorem of_params {x : Walk σ α} (f : σ → Nat → Except BindError α × σ × Nat)
    (h : ∀ s, x s = ((f s.params s.tables).1,
      ⟨s.scopes, (f s.params s.tables).2.1, (f s.params s.tables).2.2⟩)) : Enclosed x := by
  intro s _
  rw [h, h]
  exact ⟨rfl, rfl⟩

theorem bind {x : Walk σ α} {f : α → Walk σ β} (hx : Enclosed x) (hf : ∀ a, Enclosed (f a)) :
    Enclosed (x >>= f) := by
  intro s hs
  obtain ⟨hsame, hlength⟩ := hx s hs
  rw [Walk.run_bind, Walk.run_bind, hsame]
  generalize x s = result at hlength ⊢
  obtain ⟨e | a, s'⟩ := result
  · exact ⟨rfl, hlength⟩
  · have hs' : s'.scopes ≠ [] := by
      rwa [← List.length_pos_iff, hlength, List.length_pos_iff]
    obtain ⟨hsame', hlength'⟩ := hf a s' hs'
    exact ⟨hsame', hlength'.trans hlength⟩

/-- A level of its own is enough, wherever the step begins. -/
theorem withScope_eq {x : Walk σ α} (h : Enclosed x) (s : WalkState σ) :
    withScope x s.surrounded = ((withScope x s).1, (withScope x s).2.surrounded)
      ∧ (withScope x s).2.scopes.length = s.scopes.length := by
  obtain ⟨hsame, hlength⟩ := h { s with scopes := Scope.empty :: s.scopes } (List.cons_ne_nil _ _)
  unfold BindM.withScope
  -- the new level is put inside of all others, so it does not matter in which order the two are added
  rw [show ({ s.surrounded with scopes := Scope.empty :: s.surrounded.scopes } : WalkState σ)
    = WalkState.surrounded { s with scopes := Scope.empty :: s.scopes } from rfl, hsame]
  generalize x { s with scopes := Scope.empty :: s.scopes } = result at hlength ⊢
  obtain ⟨r, s', params, tables⟩ := result
  -- as many levels are open as before, so the one that is closed is not the outermost
  cases s' with
  | nil => cases hlength
  | cons scope outer =>
    refine ⟨rfl, ?_⟩
    exact Nat.succ_inj.1 hlength

theorem currentScope : Enclosed (BindM.currentScope : Walk σ Scope) := by
  intro s hs
  obtain ⟨scope, outer, hscopes⟩ := List.exists_cons_of_ne_nil hs
  unfold BindM.currentScope WalkState.surrounded
  simp [hscopes]

theorem addBinding (b : Binding) : Enclosed (BindM.addBinding b : Walk σ Unit) := by
  intro s hs
  obtain ⟨scope, outer, hscopes⟩ := List.exists_cons_of_ne_nil hs
  unfold BindM.addBinding WalkState.surrounded
  simp only [hscopes, List.cons_append]
  cases scope.add b with
  | error e => simp [hscopes]
  | ok larger => simp

theorem resolveColumn (table : Option String) (column : String) :
    Enclosed (BindM.resolveColumn table column : Walk σ BoundColumn) := by
  intro s _
  refine ⟨?_, rfl⟩
  unfold BindM.resolveColumn WalkState.surrounded
  dsimp only
  rw [findColumn_surrounded]

end Walk.Enclosed

/-- Every step of an analysis is one of these. -/
def StepRelation.enclosed (σ : Type) [ParamHook σ] (c : Catalog) : StepRelation σ c c where
  Keeping x _ := Walk.Enclosed x
  Adding x _ := Walk.Enclosed x
  adding_of_keeping h := h
  keeping_ofResult r _ := .of_params (fun p n => (r, p, n)) fun _ => rfl
  keeping_bind := .bind
  adding_bind := .bind
  keeping_withScope h := fun s _ => h.withScope_eq s
  keeping_currentScope := .currentScope
  keeping_newTable := .of_params (fun p n => (.ok (n + 1), p, n + 1)) fun _ => rfl
  keeping_resolveColumn := .resolveColumn
  keeping_referParam n := .of_params
    (fun p m => ((ParamHook.refer n p).1, (ParamHook.refer n p).2, m)) fun _ => rfl
  keeping_settleParam n target := .of_params
    (fun p m => ((ParamHook.settle n target p).1, (ParamHook.settle n target p).2, m)) fun _ => rfl
  adding_addBinding := .addBinding
  keeping_table name :=
    .of_params (fun p n => ((c.table name).mapError .catalog, p, n)) fun _ => rfl

/-- **A query is bound in the same way** inside a query level without tables. -/
theorem bindQuery_surrounded [ParamHook σ] (catalog : Catalog) (expected : Option (List SqlType))
    (q : Query) (s : WalkState σ) :
    bindQuery catalog expected q s.surrounded
      = ((bindQuery catalog expected q s).1, (bindQuery catalog expected q s).2.surrounded) := by
  let R := StepRelation.enclosed σ catalog
  obtain ⟨recursive, ctes, body, orderBy, limit, offset, offsetWord, fetch, lock⟩ := q
  unfold bindQuery
  split
  · rfl
  · have hquery : Walk.Enclosed (do
        let output ← bindBody catalog false expected body
        bindOrder catalog output.names orderBy
        bindCount catalog limit
        bindCount catalog offset
        return output : Walk σ BoundQuery) := by
      refine .bind (R.bindBody_related expected body).1 fun output => ?_
      refine .bind (R.bindOrder_related output.names orderBy) fun _ => ?_
      refine .bind (R.bindCount_related limit) fun _ => ?_
      exact .bind (R.bindCount_related offset) fun _ => R.keeping_pure output
    exact (hquery.withScope_eq s).1

end Prepared
