import Prepared.Proofs.Analysis.StepRelation

/-!
# What an analysis leaves alone

Most steps of an analysis change little of the state. A `Frame` says how the states before and after
a step are related, whether or not the step succeeds; what it asks of the few steps that change
something at all is enough for the analysis of every expression, query and statement
(`Frame.stepRelation`).

* `Frame.levels`: the open query levels are the same afterwards. What an expression or a query adds,
  it adds to levels of its own, and tables are added to the innermost level only.
* `Frame.given`: an analysis that does not find types ends with the types that it began with.
-/

namespace Prepared

open Sql BindM

/-! ## Frames -/

/-- How the states before and after a step are related, and more widely so for steps that may add
tables to the innermost query level. -/
structure Frame (σ : Type) [ParamHook σ] where
  Keep : WalkState σ → WalkState σ → Prop
  Add : WalkState σ → WalkState σ → Prop
  add_of_keep : ∀ {s t}, Keep s t → Add s t
  keep_refl : ∀ s, Keep s s
  keep_trans : ∀ s t u, Keep s t → Keep t u → Keep s u
  add_trans : ∀ s t u, Add s t → Add t u → Add s u
  /-- A level that is opened and closed again leaves nothing behind. -/
  keep_closed : ∀ {s t}, Add { s with scopes := Scope.empty :: s.scopes } t →
    Keep s { t with scopes := t.scopes.tail }
  keep_newTable : ∀ s, Keep s { s with tables := s.tables + 1 }
  keep_refer : ∀ s n, Keep s { s with params := (ParamHook.refer n s.params).2 }
  keep_settle : ∀ s n target, Keep s { s with params := (ParamHook.settle n target s.params).2 }
  add_scope : ∀ {s outer} (old new : Scope), s.scopes = old :: outer →
    Add s { s with scopes := new :: outer }

namespace Frame

variable {σ : Type} [ParamHook σ] (F : Frame σ) {α β : Type}

/-- A step is within a relation if it leads from every state to a related one. -/
def Within (R : WalkState σ → WalkState σ → Prop) (x : Walk σ α) : Prop :=
  ∀ s, R s (x s).2

omit [ParamHook σ] in
/-- A failure of the first step ends in a state that the frame has related already. -/
theorem Within.bind {R : WalkState σ → WalkState σ → Prop}
    (htrans : ∀ s t u, R s t → R t u → R s u) {x : Walk σ α} {f : α → Walk σ β}
    (h : Within R x) (hf : ∀ a, Within R (f a)) : Within R (x >>= f) := by
  intro s
  have hx : R s (x s).2 := h s
  rw [Walk.run_bind]
  generalize x s = result at hx ⊢
  obtain ⟨e | a, s'⟩ := result
  · exact hx
  · exact htrans s s' _ hx (hf a s')

theorem within_currentScope : Within F.Keep (currentScope : Walk σ Scope) := by
  intro s
  unfold currentScope
  split
  · exact F.keep_refl s
  · exact F.keep_refl s

/-- Where the table is refused, the state stays. -/
theorem within_addBinding (b : Binding) : Within F.Add (addBinding b : Walk σ Unit) := by
  intro s
  have hsame : F.Add s s := F.add_of_keep (F.keep_refl s)
  unfold addBinding
  split
  · rename_i old outer hscopes
    split
    · exact F.add_scope old _ hscopes
    · exact hsame
  · exact hsame

/-- Every step of an analysis is within the frame. -/
def stepRelation (c : Catalog) : StepRelation σ c c where
  Keeping x _ := Within F.Keep x
  Adding x _ := Within F.Add x
  adding_of_keeping h := fun s => F.add_of_keep (h s)
  keeping_ofResult _ _ := F.keep_refl
  keeping_bind := Within.bind F.keep_trans
  adding_bind := Within.bind F.add_trans
  keeping_withScope h := fun s => F.keep_closed (h { s with scopes := Scope.empty :: s.scopes })
  keeping_currentScope := F.within_currentScope
  keeping_newTable := F.keep_newTable
  keeping_resolveColumn _ _ := F.keep_refl
  keeping_referParam n := fun s => F.keep_refer s n
  keeping_settleParam n target := fun s => F.keep_settle s n target
  adding_addBinding := F.within_addBinding
  keeping_table _ := F.keep_refl

/-- The open query levels stay, but for the tables that are added to the innermost. -/
def levels (σ : Type) [ParamHook σ] : Frame σ where
  Keep s t := t.scopes = s.scopes
  Add s t := t.scopes.tail = s.scopes.tail
  add_of_keep h := congrArg List.tail h
  keep_refl _ := rfl
  keep_trans _ _ _ h h' := h'.trans h
  add_trans _ _ _ h h' := h'.trans h
  keep_closed h := h
  keep_newTable _ := rfl
  keep_refer _ _ := rfl
  keep_settle _ _ _ := rfl
  add_scope _ _ hscopes := by rw [hscopes]; rfl

end Frame

/-! ## Given types -/

namespace ParamTypes

variable {p : ParamTypes} {types : List SqlType}

/-- A refused question changes nothing, so only what comes with an answer counts. -/
theorem answer_eq_declared {r : Except BindError (SqlType × ParamTypes)}
    (h : ∀ t p', r = .ok (t, p') → (p' = .declared types ↔ p = .declared types)) :
    (p.answer r).2 = .declared types ↔ p = .declared types := by
  cases r with
  | error e => exact Iff.rfl
  | ok answer => exact h answer.1 answer.2 rfl

theorem refer_eq_declared (n : Nat) :
    (p.answer (p.refer n)).2 = .declared types ↔ p = .declared types := by
  apply answer_eq_declared
  intro t p' h
  unfold refer at h
  split at h
  · cases h
  · split at h
    · cases h
      exact Iff.rfl
    · cases h
  · -- types that are found stay types that are found
    split at h
    · cases h
    · cases h
      exact iff_of_false nofun nofun

/-- Given types are compared with the wanted one and stay; types that are found stay types that are
found. -/
theorem settle_eq_declared (n : Nat) (target : SqlType) :
    (p.answer (p.settle n target)).2 = .declared types ↔ p = .declared types := by
  apply answer_eq_declared
  intro t p' h
  unfold settle at h
  dsimp only at h
  split at h
  · cases h
  · -- a given type is compared with the wanted one
    split at h
    · split at h
      · cases h
        exact Iff.rfl
      · cases h
    · cases h
  · split at h
    · split at h
      · split at h
        · cases h
          exact Iff.rfl
        · cases h
      · cases h
        exact iff_of_false nofun nofun
    · cases h

end ParamTypes

/-- Types are given afterwards exactly if they were given before, and then they are the same. -/
def Frame.given : Frame ParamTypes where
  Keep s t := ∀ types, t.params = .declared types ↔ s.params = .declared types
  Add s t := ∀ types, t.params = .declared types ↔ s.params = .declared types
  add_of_keep h := h
  keep_refl _ _ := Iff.rfl
  keep_trans _ _ _ h h' types := (h' types).trans (h types)
  add_trans _ _ _ h h' types := (h' types).trans (h types)
  keep_closed h := h
  keep_newTable _ _ := Iff.rfl
  keep_refer _ n _ := ParamTypes.refer_eq_declared n
  keep_settle _ n target _ := ParamTypes.settle_eq_declared n target
  add_scope _ _ _ _ := Iff.rfl

end Prepared
