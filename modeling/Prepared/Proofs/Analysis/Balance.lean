import Prepared.Proofs.Analysis.QueryLevel
import Prepared.Proofs.Analysis.Surrounded

/-!
# Query levels are balanced

An analysis may stop anywhere: inside a query inside a `FROM` inside another query. Whatever has
happened until then, the levels that it has opened are closed again, so that what is analyzed next
finds the state it counts on.

* Expressions, queries and statements leave the open levels as they were (`WalkState.Balanced`).
* A `FROM` adds tables to the innermost level, behind those it has, and at most one for each of its
  factors (`WalkState.Grows`, `bindTableRef_growing`). A failure may leave some of them behind, but
  never any in another level.
* Tables are counted, and the count never goes back (`Frame.count`).
* As a table is added inside a query only, its level is never missing (`Walk.FindsLevel`).

All of it is put together in `levels_balanced`.
-/

namespace Prepared

open Sql BindM Walk

variable {σ : Type} {α β : Type}

/-! ## What stays, and what only grows -/

/-- There are never fewer tables afterwards. -/
def Frame.count (σ : Type) [ParamHook σ] : Frame σ where
  Keep s t := s.tables ≤ t.tables
  Add s t := s.tables ≤ t.tables
  add_of_keep h := h
  keep_refl _ := Nat.le_refl _
  keep_trans _ _ _ := Nat.le_trans
  add_trans _ _ _ := Nat.le_trans
  keep_closed h := h
  keep_newTable _ := Nat.le_succ _
  keep_refer _ _ := Nat.le_refl _
  keep_settle _ _ _ := Nat.le_refl _
  add_scope _ _ _ := Nat.le_refl _

/-- The same query levels are open as before, with the same tables, and no fewer tables have been
counted. -/
structure WalkState.Balanced (s t : WalkState σ) : Prop where
  scopes : t.scopes = s.scopes
  tables : s.tables ≤ t.tables

theorem WalkState.Balanced.refl (s : WalkState σ) : s.Balanced s :=
  ⟨rfl, Nat.le_refl _⟩

/-- The relation between a step and itself that makes it balanced. -/
def StepRelation.balance (σ : Type) [ParamHook σ] (catalog : Catalog) :
    StepRelation σ catalog catalog :=
  ((Frame.levels σ).stepRelation catalog).and ((Frame.count σ).stepRelation catalog)

/-- The two parts of the relation are the two fields of the structure. -/
theorem balanced_of_keeping [ParamHook σ] {catalog : Catalog} {x : Walk σ α}
    (h : (StepRelation.balance σ catalog).Keeping x x) (s : WalkState σ) : s.Balanced (x s).2 :=
  ⟨h.1 s, h.2 s⟩

/-! ## Tables come to the innermost level -/

/-- A table comes behind the others. -/
theorem Scope.bindings_of_add {scope larger : Scope} {b : Binding} (h : scope.add b = .ok larger) :
    larger.bindings = scope.bindings ++ [b] := by
  unfold Scope.add at h
  split at h
  · cases h
  · cases h
    rfl

theorem Scope.add_ne_noQueryLevel (scope : Scope) (b : Binding) :
    scope.add b ≠ .error .noQueryLevel := by
  unfold Scope.add
  split
  · simp
  · simp

/-- At most `n` tables have come to the innermost query level, behind those it had, and all other
levels are the same. -/
def WalkState.Extends (n : Nat) (s t : WalkState σ) : Prop :=
  t.scopes = s.scopes ∨ ∃ scope larger outer added, s.scopes = scope :: outer
    ∧ t.scopes = larger :: outer ∧ larger.bindings = scope.bindings ++ added ∧ added.length ≤ n

namespace WalkState.Extends

variable {m n : Nat} {s t u : WalkState σ}

/-- A bound may be raised. -/
theorem mono (h : s.Extends m t) (hle : m ≤ n) : s.Extends n t := by
  rcases h with hsame | ⟨scope, larger, outer, added, hs, ht, hadded, hlength⟩
  · exact Or.inl hsame
  · exact Or.inr ⟨scope, larger, outer, added, hs, ht, hadded, Nat.le_trans hlength hle⟩

/-- What two steps add, one behind the other. -/
theorem trans (h : s.Extends m t) (h' : t.Extends n u) : s.Extends (m + n) u := by
  rcases h with hsame | ⟨scope, larger, outer, added, hs, ht, hadded, hlength⟩
  · -- the first step adds nothing, so what the second adds is all
    unfold Extends at h' ⊢
    rw [hsame] at h'
    exact mono h' (Nat.le_add_left n m)
  -- both add, to the same level
  · rcases h' with hsame' | ⟨scope', larger', outer', added', ht', hu, hadded', hlength'⟩
    · refine Or.inr ⟨scope, larger, outer, added, hs, hsame'.trans ht, hadded, ?_⟩
      exact Nat.le_trans hlength (Nat.le_add_right m n)
    · obtain ⟨rfl, rfl⟩ := List.cons.inj (ht.symm.trans ht')
      refine Or.inr ⟨scope, larger', outer, added ++ added', hs, hu, ?_, ?_⟩
      · rw [hadded', hadded, List.append_assoc]
      · rw [List.length_append]
        exact Nat.add_le_add hlength hlength'

end WalkState.Extends

/-- Tables are added to the innermost query level, at most `n`, each of them under the next number.
Numbers may be used up without a table that is added. -/
inductive WalkState.Grows : Nat → WalkState σ → WalkState σ → Prop
  | kept {n s t} : s.Balanced t → Grows n s t
  | added {s scope larger outer name columns} : s.scopes = scope :: outer →
    scope.add ⟨name, s.tables + 1, columns⟩ = .ok larger →
    Grows 1 s { s with scopes := larger :: outer, tables := s.tables + 1 }
  | trans {m n s t u} : Grows m s t → Grows n t u → Grows (m + n) s u

theorem WalkState.Grows.extends {n : Nat} {s t : WalkState σ} (h : s.Grows n t) :
    s.Extends n t := by
  induction h with
  | kept hbalanced => exact Or.inl hbalanced.scopes
  | added hscopes hadd =>
    exact Or.inr ⟨_, _, _, [_], hscopes, rfl, Scope.bindings_of_add hadd, Nat.le_refl 1⟩
  | trans _ _ ih ih' => exact ih.trans ih'

/-- The count never goes back. -/
theorem WalkState.Grows.tables_le {n : Nat} {s t : WalkState σ} (h : s.Grows n t) :
    s.tables ≤ t.tables := by
  induction h with
  | kept hbalanced => exact hbalanced.tables
  | added _ _ => exact Nat.le_succ _
  | trans _ _ ih ih' => exact Nat.le_trans ih ih'

/-- The step adds at most `n` tables to the innermost query level, whether it succeeds or fails. -/
def Walk.Growing (n : Nat) (x : Walk σ α) : Prop :=
  ∀ s : WalkState σ, s.Grows n (x s).2

namespace Walk.Growing

variable {m n : Nat} {x : Walk σ α} {f : α → Walk σ β}

theorem throw (e : BindError) : Growing n (throw e : Walk σ α) :=
  fun s => .kept (.refl s)

theorem bind (h : Growing m x) (hf : ∀ a, Growing n (f a)) : Growing (m + n) (x >>= f) := by
  intro s
  have hx : s.Grows m (x s).2 := h s
  rw [Walk.run_bind]
  generalize x s = result at hx ⊢
  obtain ⟨e | a, s'⟩ := result
  · -- what was added before a failure stays
    exact hx.trans (.kept (.refl s'))
  · exact hx.trans (hf a s')

/-- A table is added under the next number, or it is not added and the number is used up. -/
theorem addBinding_newTable (name : String) (columns : List Column) :
    Growing 1 (do addBinding ⟨name, ← newTable, columns⟩ : Walk σ Unit) := by
  intro s
  have hcounted : s.Balanced { s with tables := s.tables + 1 } := ⟨rfl, Nat.le_succ _⟩
  show s.Grows 1
    (BindM.addBinding ⟨name, s.tables + 1, columns⟩ { s with tables := s.tables + 1 }).2
  unfold BindM.addBinding
  split
  · rename_i scope outer hscopes
    cases hadd : scope.add ⟨name, s.tables + 1, columns⟩ with
    | error e => exact .kept hcounted
    | ok larger => exact .added hscopes hadd
  · exact .kept hcounted

variable [ParamHook σ] {catalog : Catalog}

theorem of_keeping (h : (StepRelation.balance σ catalog).Keeping x x) : Growing n x :=
  fun s => .kept (balanced_of_keeping h s)

/-- A step that is balanced, before one that adds tables. -/
theorem after (h : (StepRelation.balance σ catalog).Keeping x x) (hf : ∀ a, Growing n (f a)) :
    Growing n (x >>= f) :=
  Nat.zero_add n ▸ (of_keeping h).bind hf

end Walk.Growing

section

variable [ParamHook σ] (catalog : Catalog)

/-- A table of the catalog is one factor. -/
theorem bindTable_growing (name : ObjectName) (label : Option TableAlias) :
    Growing 1 (bindTable catalog name label : Walk σ Unit) := by
  let R := StepRelation.balance σ catalog
  unfold bindTable
  refine .after (R.keeping_ofResult _ (tableName_ne_noQueryLevel name)) fun plain => ?_
  refine .after (R.keeping_table plain) fun table => ?_
  exact .addBinding_newTable ((label.map (·.name.folded)).getD plain) table.columns

/-- **A table with its joins** adds at most one table for each of its factors. -/
theorem bindTableRef_growing : (t : TableRef) →
    Growing t.factors.length (bindTableRef catalog t : Walk σ Unit)
  | .table name hasArgs args label hints => by
    unfold bindTableRef
    exact bindTable_growing catalog name label
  | .derived lateral query none => by
    unfold bindTableRef
    exact .throw _
  | .derived lateral query (some label) => by
    unfold bindTableRef
    refine .after ((StepRelation.balance σ catalog).bindQuery_related none query) fun q => ?_
    exact .addBinding_newTable label.name.folded (renamed q.names q.types label.columns)
  | .join left kind right rule condition => by
    -- the condition of a join adds nothing, whether it is bound or refused
    have hcondition : Growing 0 (if isSupported kind then bindCondition catalog condition
        else throw (.unsupportedStatement ("join operator "
          ++ (kind.outline rule (outlineOption condition)).render)) : Walk σ Unit) := by
      split
      · exact .of_keeping ((StepRelation.balance σ catalog).bindCondition_related condition)
      · exact .throw _
    have hright := (bindTableRef_growing right).bind fun _ => hcondition
    unfold bindTableRef TableRef.factors
    rw [List.length_append]
    exact (bindTableRef_growing left).bind fun _ => hright
  | .function value label => by
    unfold bindTableRef
    exact .throw _
  | .nested tables label => by
    unfold bindTableRef
    exact .throw _

end

/-! ## The level is never missing -/

/-- A hook that has nothing to say about query levels. -/
structure ParamHook.Levelless (σ : Type) [ParamHook σ] : Prop where
  refer : ∀ (n : Nat) (p : σ), (ParamHook.refer n p).1 ≠ .error .noQueryLevel
  settle : ∀ (n : Nat) (target : SqlType) (p : σ),
    (ParamHook.settle n target p).1 ≠ .error .noQueryLevel
  check : ∀ p : σ, ParamHook.check p ≠ .error .noQueryLevel

/-- Inside some query level the step does not miss one, and it leaves as many open as there were. -/
def Walk.FindsLevel (x : Walk σ α) : Prop :=
  ∀ s, s.scopes ≠ [] → (x s).1 ≠ .error .noQueryLevel ∧ (x s).2.scopes.length = s.scopes.length

/-- The step does not miss a query level, wherever it begins. -/
def Walk.NeedsNoLevel (x : Walk σ α) : Prop :=
  ∀ s, (x s).1 ≠ .error .noQueryLevel

/-- The second step may count on nothing, since nothing is asked of a state. -/
theorem Walk.NeedsNoLevel.bind {x : Walk σ α} {f : α → Walk σ β} (h : NeedsNoLevel x)
    (hf : ∀ a, NeedsNoLevel (f a)) : NeedsNoLevel (x >>= f) := by
  intro s
  have hx : (x s).1 ≠ .error .noQueryLevel := h s
  rw [Walk.run_bind]
  generalize x s = result at hx ⊢
  obtain ⟨e | a, s'⟩ := result
  · exact fun he => hx (congrArg Except.error (Except.error.inj he))
  · exact hf a s'

theorem Walk.NeedsNoLevel.ofResult {r : Except BindError α} (h : r ≠ .error .noQueryLevel) :
    NeedsNoLevel (BindM.ofResult r : Walk σ α) :=
  fun _ => h

namespace Walk.FindsLevel

/-- A step that leaves the query levels alone. -/
theorem of_levels {x : Walk σ α} (h : NeedsNoLevel x) (hsame : ∀ s, (x s).2.scopes = s.scopes) :
    FindsLevel x :=
  fun s _ => ⟨h s, congrArg List.length (hsame s)⟩

theorem bind {x : Walk σ α} {f : α → Walk σ β} (h : FindsLevel x) (hf : ∀ a, FindsLevel (f a)) :
    FindsLevel (x >>= f) := by
  intro s hs
  obtain ⟨hx, hlength⟩ := h s hs
  rw [Walk.run_bind]
  generalize x s = result at hx hlength ⊢
  obtain ⟨e | a, s'⟩ := result
  · exact ⟨fun he => hx (congrArg Except.error (Except.error.inj he)), hlength⟩
  · have hs' : s'.scopes ≠ [] := by
      rwa [← List.length_pos_iff, hlength, List.length_pos_iff]
    exact (hf a s' hs').imp id fun hlength' => hlength'.trans hlength

/-- A level of its own is enough, wherever the step begins. -/
theorem needsNoLevel_withScope {x : Walk σ α} (h : FindsLevel x) : NeedsNoLevel (withScope x) :=
  fun s => (h { s with scopes := Scope.empty :: s.scopes } (List.cons_ne_nil _ _)).1

/-- Inside there is a level in any case, and outside as many as before. -/
theorem withScope {x : Walk σ α} (h : FindsLevel x) : FindsLevel (BindM.withScope x) := by
  intro s _
  refine ⟨h.needsNoLevel_withScope s, ?_⟩
  have hlength := (h { s with scopes := Scope.empty :: s.scopes } (List.cons_ne_nil _ _)).2
  show ((x { s with scopes := Scope.empty :: s.scopes }).2.scopes.tail).length = s.scopes.length
  rw [List.length_tail, hlength]
  rfl

theorem currentScope : FindsLevel (BindM.currentScope : Walk σ Scope) := by
  intro s hs
  obtain ⟨scope, outer, hscopes⟩ := List.exists_cons_of_ne_nil hs
  unfold BindM.currentScope
  rw [hscopes]
  exact ⟨nofun, congrArg List.length hscopes⟩

theorem addBinding (b : Binding) : FindsLevel (BindM.addBinding b : Walk σ Unit) := by
  intro s hs
  obtain ⟨scope, outer, hscopes⟩ := List.exists_cons_of_ne_nil hs
  unfold BindM.addBinding
  simp only [hscopes]
  cases hadd : scope.add b with
  | ok larger => exact ⟨nofun, rfl⟩
  | error e =>
    refine ⟨fun he => ?_, congrArg List.length hscopes⟩
    exact scope.add_ne_noQueryLevel b (hadd.trans (congrArg Except.error (Except.error.inj he)))

end Walk.FindsLevel

/-- A lookup that runs out of levels says that there is no such column or table. -/
theorem findColumn_ne_noQueryLevel (table : Option String) (column : String) (depth : Nat)
    (scopes : List Scope) : findColumn table column depth scopes ≠ .error .noQueryLevel := by
  induction scopes generalizing depth with
  | nil => cases table <;> exact nofun
  | cons scope outer ih =>
    intro h
    unfold findColumn at h
    cases hreferent : scope.referent? table column with
    | error e =>
      -- a name that is ambiguous is refused as such
      rw [hreferent] at h
      cases h
      cases table with
      | some table => cases hreferent
      | none =>
        have hmatching : scope.matching? column = .error .noQueryLevel := hreferent
        unfold Scope.matching? at hmatching
        split at hmatching <;> cases hmatching
    | ok referent =>
      rw [hreferent] at h
      cases referent with
      | none => exact ih (depth + 1) h
      | some b =>
        have hbind : b.bind column depth = .error .noQueryLevel := h
        unfold Binding.bind at hbind
        split at hbind <;> cases hbind

section

variable [ParamHook σ]

/-- Every step of an analysis finds its query level. -/
def StepRelation.findingLevel (h : ParamHook.Levelless σ) (c : Catalog) : StepRelation σ c c where
  Keeping x _ := Walk.FindsLevel x
  Adding x _ := Walk.FindsLevel x
  adding_of_keeping h := h
  keeping_ofResult _ hr := .of_levels (.ofResult hr) fun _ => rfl
  keeping_bind := .bind
  adding_bind := .bind
  keeping_withScope := .withScope
  keeping_currentScope := .currentScope
  keeping_newTable := .of_levels (fun _ => nofun) fun _ => rfl
  keeping_resolveColumn table column := .of_levels
    (fun s => findColumn_ne_noQueryLevel table column 0 s.scopes) fun _ => rfl
  keeping_referParam n := .of_levels (fun s => h.refer n s.params) fun _ => rfl
  keeping_settleParam n target := .of_levels (fun s => h.settle n target s.params) fun _ => rfl
  adding_addBinding := .addBinding
  keeping_table name := .of_levels
    (.ofResult (by cases c.table name <;> exact nofun)) fun _ => rfl

variable {catalog : Catalog} (h : ParamHook.Levelless σ)

include h

/-- A query has a level of its own, and a level without tables around it makes no difference. -/
theorem bindQuery_needsNoLevel (expected : Option (List SqlType)) (q : Query) :
    NeedsNoLevel (bindQuery catalog expected q : Walk σ BoundQuery) := by
  intro s
  -- the run in the surrounded state has the same result, and a level to find
  have hinside := (StepRelation.findingLevel h catalog).bindQuery_related expected q s.surrounded
    (List.append_ne_nil_of_right_ne_nil _ (List.cons_ne_nil _ _))
  rw [bindQuery_surrounded] at hinside
  exact hinside.1

/-- An `INSERT` looks up names, which needs no level, and binds a query, which has its own. -/
theorem bindInsert_needsNoLevel (i : Insert) :
    NeedsNoLevel (bindInsert catalog i : Walk σ Unit) := by
  unfold bindInsert
  refine .bind (.ofResult (tableName_ne_noQueryLevel _)) fun name => ?_
  refine .bind (.ofResult (by cases catalog.table name <;> exact nofun)) fun table => ?_
  refine .bind (.ofResult (insertTypes_ne_noQueryLevel _ _ _)) fun types => ?_
  exact .bind (bindQuery_needsNoLevel h _ _) fun _ _ => nofun

theorem bindUpdate_needsNoLevel (table : TableRef) (assignments : List Assignment)
    (source : Option TableRef) (condition : Option Expr) :
    NeedsNoLevel (bindUpdate catalog table assignments source condition : Walk σ Unit) := by
  let R := StepRelation.findingLevel h catalog
  unfold bindUpdate
  refine FindsLevel.needsNoLevel_withScope ?_
  refine .bind (R.keeping_ofResult _ (updatedName_ne_noQueryLevel _)) fun name => ?_
  refine .bind (R.bindTableRef_related table) fun _ => ?_
  refine .bind (R.bindSource_related source) fun _ => ?_
  refine .bind (R.bindCondition_related condition) fun _ => ?_
  exact .bind (R.keeping_table name) fun target => R.bindAssignments_related target name assignments

theorem bindDelete_needsNoLevel (table : TableRef) (condition : Option Expr) :
    NeedsNoLevel (bindDelete catalog table condition : Walk σ Unit) := by
  let R := StepRelation.findingLevel h catalog
  unfold bindDelete
  refine FindsLevel.needsNoLevel_withScope ?_
  exact .bind (R.bindTableRef_related table) fun _ => R.bindCondition_related condition

theorem bindStatement_needsNoLevel (S : Statement) :
    NeedsNoLevel (bindStatement catalog S : Walk σ Description) := by
  unfold bindStatement
  split
  · exact .bind (bindQuery_needsNoLevel h _ _) fun _ _ => nofun
  · exact .bind (bindInsert_needsNoLevel h _) fun _ _ => nofun
  · exact .bind (bindUpdate_needsNoLevel h _ _ _ _) fun _ _ => nofun
  · exact .bind (bindDelete_needsNoLevel h _ _) fun _ _ => nofun
  · exact fun _ => nofun

/-- **A statement does not miss a query level.** -/
theorem analyzeStatement_needsNoLevel (S : Statement) :
    NeedsNoLevel (analyzeStatement catalog S : Walk σ Description) := by
  unfold analyzeStatement
  refine .bind (bindStatement_needsNoLevel h S) fun description => ?_
  exact .bind (fun s => h.check s.params) fun _ _ => nofun

end

/-! ## The hooks of a statement -/

namespace ParamTypes

variable (p : ParamTypes)

theorem answer_ne_noQueryLevel {r : Except BindError (SqlType × ParamTypes)}
    (h : r ≠ .error .noQueryLevel) : (p.answer r).1 ≠ .error .noQueryLevel := by
  cases r with
  | error e => exact fun he => h (congrArg Except.error (Except.error.inj he))
  | ok answer => exact nofun

theorem refer_ne_noQueryLevel (n : Nat) : p.refer n ≠ .error .noQueryLevel := by
  unfold refer
  split
  · simp
  · split <;> simp
  · split <;> simp

/-- A hook refuses a parameter, never a level. -/
theorem settle_ne_noQueryLevel (n : Nat) (target : SqlType) :
    p.settle n target ≠ .error .noQueryLevel := by
  have hknown (t : SqlType) :
      (if t = target then .ok (t, p) else .error (.inconsistentParameterTypes n t target) :
        Except BindError (SqlType × ParamTypes)) ≠ .error .noQueryLevel := by
    split <;> simp
  unfold settle
  dsimp only
  split
  · simp
  · split
    · exact hknown _
    · simp
  · split
    · split
      · exact hknown _
      · simp
    · simp

/-- Whether types are given, found or absent, no question about parameters is answered with a query
level. -/
theorem levelless : ParamHook.Levelless ParamTypes where
  refer n p := p.answer_ne_noQueryLevel (p.refer_ne_noQueryLevel n)
  settle n target p := p.answer_ne_noQueryLevel (p.settle_ne_noQueryLevel n target)
  check p := by
    show p.check ≠ _
    unfold ParamTypes.check
    split <;> exact nofun

end ParamTypes

/-! ## Balance -/

theorem analyzeStatement_balanced [ParamHook σ] (catalog : Catalog) (S : Statement)
    (s : WalkState σ) : s.Balanced (analyzeStatement catalog S s).2 := by
  let R := StepRelation.balance σ catalog
  have hcheck : R.Keeping checkParams checkParams := ⟨fun _ => rfl, fun _ => Nat.le_refl _⟩
  refine balanced_of_keeping (R.keeping_bind (R.bindStatement_related S) fun _ => ?_) s
  exact R.keeping_bind hcheck fun _ => R.keeping_pure _

/-- What is no join is its only factor. -/
theorem Sql.TableRef.factors_of_not_join {t : TableRef}
    (h : ∀ left kind right rule condition, t ≠ .join left kind right rule condition) :
    t.factors = [t] := by
  cases t with
  | join left kind right rule condition => exact absurd rfl (h left kind right rule condition)
  | table | derived | function | nested => rfl

/-- **Query levels are balanced.** Whatever comes of a statement, a query, a body that is combined
with others or an expression, the same levels are open afterwards as before, with the same tables in
them. Joined tables add to the innermost level at most one table for each of their factors, behind
those it has, and a factor is at most one. Tables are counted, and the count never goes back. No
statement fails because a level is missing, unless the hook that answers for its parameters says so,
which those of a statement never do. -/
theorem levels_balanced (σ : Type) [ParamHook σ] (catalog : Catalog) :
    (∀ s : WalkState σ,
      (∀ S, s.Balanced (bindStatement catalog S s).2 ∧ s.Balanced (analyzeStatement catalog S s).2)
        ∧ (∀ expected q, s.Balanced (bindQuery catalog expected q s).2)
        ∧ (∀ expected body, s.Balanced (bindBody catalog true expected body s).2)
        ∧ (∀ e, s.Balanced (bindExpr catalog e s).2)
        ∧ (∀ t, s.Extends t.factors.length (bindTableRef catalog t s).2
          ∧ s.tables ≤ (bindTableRef catalog t s).2.tables)
        ∧ ∀ t, (∀ left kind right rule condition, t ≠ .join left kind right rule condition) →
          s.Extends 1 (bindTableRef catalog t s).2)
      ∧ (ParamHook.Levelless σ → ∀ (S : Statement) (s : WalkState σ),
        (analyzeStatement catalog S s).1 ≠ .error .noQueryLevel)
      ∧ ∀ (S : Statement) (s : BindState),
        (analyzeStatement catalog S s).1 ≠ .error .noQueryLevel := by
  let R := StepRelation.balance σ catalog
  -- all but the tables of a `FROM` keep the levels; for these the bound comes from their factors
  refine ⟨fun s => ⟨fun S => ⟨?_, ?_⟩, ?_, ?_, ?_, ?_, ?_⟩, ?_, ?_⟩
  · exact balanced_of_keeping (R.bindStatement_related S) s
  · exact analyzeStatement_balanced catalog S s
  · exact fun expected q => balanced_of_keeping (R.bindQuery_related expected q) s
  · exact fun expected body => balanced_of_keeping (R.bindBody_related expected body).2 s
  · exact fun e => balanced_of_keeping (R.bindExpr_related e) s
  · exact fun t =>
      ⟨(bindTableRef_growing catalog t s).extends, (bindTableRef_growing catalog t s).tables_le⟩
  · intro t hfactor
    have hone := (bindTableRef_growing catalog t s).extends
    rwa [TableRef.factors_of_not_join hfactor] at hone
  · exact fun h S s => analyzeStatement_needsNoLevel h S s
  · exact fun S s => analyzeStatement_needsNoLevel ParamTypes.levelless S s

/-- `(SELECT $1) AS x CROSS JOIN (SELECT 1) AS x` -/
def Sql.TableRef.twice : TableRef :=
  .join (named (.literal (.placeholder "$1"))) .cross (named (.literal (.number "1" false))) .none
    none
where
  /-- A query with one column under the name `x`. -/
  named (value : Expr) : TableRef :=
    .derived false (.mk false []
      (.select false [.unnamed value] [] none [] none (.mk none none [] [] [] [] none))
      [] none none .none none none) (some ⟨⟨"x", none⟩, []⟩)

/-- The second table is refused as its name is taken. The first one stays in the level, both are
counted, and a statement that has opened the level closes it again. -/
theorem levels_balanced_twice :
    (∃ s scope, bindTableRef .empty .twice ⟨[.empty], ParamTypes.inferred [] 9, 0⟩
        = (.error (.duplicateTable "x"), s)
      ∧ WalkState.Extends 2 ⟨[.empty], .inferred [] 9, 0⟩ s
      ∧ s.scopes = [scope] ∧ scope.bindings.map (·.name) = ["x"] ∧ s.tables = 2)
    ∧ ParamHook.Levelless ParamTypes
    ∧ (analyzeStatement .empty (.delete .twice none none [])
      (.initial (ParamTypes.inferred [] 9))).1 ≠ .error .noQueryLevel
    ∧ (analyzeStatement .empty (.delete .twice none none [])
      (.initial (ParamTypes.inferred [] 9))).2.scopes = [] := by
  obtain ⟨hbalanced, hlevel, -⟩ := levels_balanced ParamTypes .empty
  have hstatement := (hbalanced (.initial (.inferred [] 9))).1 (.delete .twice none none [])
  have htables := (hbalanced ⟨[.empty], .inferred [] 9, 0⟩).2.2.2.2.1 .twice
  exact ⟨⟨_, _, rfl, htables.1, rfl, rfl, rfl⟩, ParamTypes.levelless,
    hlevel ParamTypes.levelless _ _, hstatement.2.scopes⟩

end Prepared
