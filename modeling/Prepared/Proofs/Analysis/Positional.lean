import Mathlib.Data.List.Forall2
import Prepared.Analysis.Positional
import Prepared.Proofs.Analysis.Aside
import Prepared.Proofs.Analysis.Width
import Prepared.Proofs.Session.Consistency

/-!
# No position lies outside of its list

The analysis by position comes to an end for every statement, and gives what the analysis gives
(`Positional.analyze_eq`).

What keeps the positions within their lists is not said in one place. A table in sight has as many
types as names (`Entry.Sound`), because a query in the place of a table has a name for each of its
columns (`bindQuery_named`), however its columns are renamed; a row of a `VALUES` list is as long as
there are columns when it is spread over them (`bindRow_follows`); and the number of expected types
has been compared with the number of columns before one is looked up (`unifyColumns_follows`).

`State.Shows` says what tables look like to the analysis. A step by position that follows a step of
the analysis (`Follows`) comes to an end in every state, with the same result, and leaves a state
that looks like the one that the analysis leaves. This holds of the steps that look something up,
and is carried through the syntax by one induction.
-/

namespace Prepared.Positional

open Sql

variable {σ : Type} {α β γ δ : Type}

/-! ## Positions of names -/

/-- The position under a name is that of the last column with it. -/
theorem find?_number {names : List String} {types : List SqlType}
    (hlen : types.length = names.length) (positions : NameMap Nat) (count : Nat) (name : String) :
    (number positions count names).find? name
      = match lastColumn? name (List.zipWith Column.mk names types) with
        | some (i, _) => some (count + i)
        | none => positions.find? name := by
  -- the count goes on from column to column, so the induction is for any count and any map
  induction names generalizing types positions count with
  | nil => rfl
  | cons n names ih =>
    cases types with
    | nil => cases hlen
    | cons t types =>
      have hlen' : types.length = names.length := Nat.succ.inj hlen
      unfold number
      rw [ih hlen', List.zipWith_cons_cons, lastColumn?]
      cases hlast : lastColumn? name (List.zipWith Column.mk names types) with
      | some found =>
        obtain ⟨i, c⟩ := found
        show some (count + 1 + i) = some (count + (i + 1))
        rw [Nat.add_assoc, Nat.add_comm 1]
      | none =>
        rw [NameMap.find?_insert]
        by_cases hname : n = name
        · simp [hname]
        · simp [hname]

/-! ## What tables look like -/

/-- The table as the analysis sees it. -/
def Entry.view (e : Entry) : Binding :=
  ⟨e.name, e.index, List.zipWith Column.mk e.names e.types⟩

/-- A table whose columns are kept as they should be. -/
structure Entry.Sound (e : Entry) : Prop where
  length : e.types.length = e.names.length
  positions : e.positions = number .empty 0 e.names

namespace Entry.Sound

variable {e : Entry}

/-- The map of positions finds the last column of a name, as the lookup through the columns does.
-/
theorem find?_positions (h : e.Sound) (name : String) :
    e.positions.find? name = (lastColumn? name e.view.columns).map (·.1) := by
  rw [h.positions, find?_number h.length]
  show _ = (lastColumn? name (List.zipWith Column.mk e.names e.types)).map (·.1)
  cases lastColumn? name (List.zipWith Column.mk e.names e.types) with
  | none => rfl
  | some found => exact congrArg some (Nat.zero_add _)

/-- A name has a position if there is a column with it. -/
theorem contains_positions (h : e.Sound) (name : String) :
    e.positions.contains name = e.view.hasColumn name := by
  unfold NameMap.contains
  rw [h.find?_positions]
  rfl

/-- **A column is found at its position.** -/
theorem bind (h : e.Sound) (name : String) (depth : Nat) (s : State σ) :
    e.bind name depth s = some (e.view.bind name depth, s) := by
  unfold Entry.bind Binding.bind
  rw [h.find?_positions]
  cases hlast : lastColumn? name e.view.columns with
  | none => rfl
  | some found =>
    obtain ⟨i, c⟩ := found
    have hcolumn : e.view.columns[i]? = some c := (lastColumn?_eq_some hlast).1
    -- both lists have an element where their columns have one
    obtain ⟨n, t, hn, ht, hc⟩ := List.getElem?_zipWith_eq_some.1 hcolumn
    have htype : e.types[i]? = some c.type := by
      rw [ht, ← hc]
    show Option.bind ((e.types[i]?).map _) _ = _
    rw [htype]
    rfl

end Entry.Sound

/-- A query level and what the analysis sees of it. -/
structure Level.Shows (l : Level) (scope : Scope) : Prop where
  bindings : scope.bindings = l.order.map Entry.view
  sound : ∀ e ∈ l.order, e.Sound
  /-- The map and the list have the same tables. -/
  entries : ∀ name, l.entries.find? name = l.order.find? (·.name = name)

namespace Level.Shows

variable {l : Level} {scope : Scope}

theorem empty : Level.empty.Shows Scope.empty :=
  ⟨rfl, nofun, fun _ => rfl⟩

theorem find? (h : l.Shows scope) (name : String) :
    scope.find? name = (l.entries.find? name).map Entry.view := by
  unfold Scope.find?
  rw [h.bindings, h.entries, List.find?_map]
  rfl

theorem sound_of_find? (h : l.Shows scope) {name : String} {e : Entry}
    (he : l.entries.find? name = some e) : e.Sound := by
  rw [h.entries] at he
  exact h.sound e (List.mem_of_find?_eq_some he)

/-- The tables with a column of a name, by their maps of positions on one side and by their columns
on the other: none, one, or an ambiguous name on both. -/
theorem matching? (h : l.Shows scope) (name : String) :
    scope.matching? name = (l.matching? name).map (Option.map Entry.view) := by
  have hfilter : scope.bindings.filter (·.hasColumn name)
      = (l.order.filter (·.positions.contains name)).map Entry.view := by
    rw [h.bindings, List.filter_map]
    congr 1
    refine List.filter_congr fun e he => ?_
    exact ((h.sound e he).contains_positions name).symm
  unfold Scope.matching? Level.matching?
  rw [hfilter]
  cases l.order.filter (·.positions.contains name) with
  | nil => rfl
  | cons e es =>
    cases es with
    | nil => rfl
    | cons e' es => rfl

theorem sound_of_matching? (h : l.Shows scope) {name : String} {e : Entry}
    (he : l.matching? name = .ok (some e)) : e.Sound := by
  unfold Level.matching? at he
  split at he
  · cases he
  · rename_i e' hfilter
    cases he
    have hmem : e ∈ l.order.filter (·.positions.contains name) := by
      rw [hfilter]
      exact List.mem_singleton_self e
    exact h.sound e (List.mem_filter.1 hmem).1
  · cases he

/-- The table that a reference means is the same with a table's name and without. -/
theorem referent? (h : l.Shows scope) (table : Option String) (column : String) :
    scope.referent? table column = (l.referent? table column).map (Option.map Entry.view) := by
  cases table with
  | some table => exact congrArg Except.ok (h.find? table)
  | none => exact h.matching? column

theorem sound_of_referent? (h : l.Shows scope) {table : Option String} {column : String} {e : Entry}
    (he : l.referent? table column = .ok (some e)) : e.Sound := by
  cases table with
  | some table => exact h.sound_of_find? (Except.ok.inj he)
  | none => exact h.sound_of_matching? he

/-- A table is added on both sides or refused on both. -/
theorem add (h : l.Shows scope) {e : Entry} (he : e.Sound) :
    (∃ error, l.add e = .error error ∧ scope.add e.view = .error error)
      ∨ ∃ l' scope', l.add e = .ok l' ∧ scope.add e.view = .ok scope' ∧ l'.Shows scope' := by
  have htaken : l.entries.contains e.name = true ↔ e.view.name ∈ scope.bindings.map (·.name) := by
    unfold NameMap.contains
    rw [h.entries, h.bindings, List.find?_isSome]
    simp [Entry.view]
  unfold Level.add Scope.add
  by_cases hname : l.entries.contains e.name = true
  · left
    rw [if_pos hname, dif_pos (htaken.1 hname)]
    exact ⟨_, rfl, rfl⟩
  · right
    rw [if_neg hname, dif_neg fun hmem => hname (htaken.2 hmem)]
    refine ⟨_, _, rfl, rfl, ?_, ?_, fun name => ?_⟩
    · show scope.bindings ++ [e.view] = (l.order ++ [e]).map Entry.view
      rw [h.bindings, List.map_append]
      rfl
    · intro e' he'
      rcases List.mem_append.1 he' with he' | he'
      · exact h.sound e' he'
      · rw [List.mem_singleton.1 he']
        exact he
    · show (l.entries.insert e.name e).find? name = (l.order ++ [e]).find? (·.name = name)
      rw [NameMap.find?_insert, List.find?_append, ← h.entries]
      by_cases hsame : e.name = name
      · -- no other table has the name
        have hnone : l.entries.find? name = none := by
          rw [← hsame]
          simpa [NameMap.contains] using hname
        rw [if_pos hsame, hnone]
        simp [hsame]
      · rw [if_neg hsame]
        simp [hsame]

end Level.Shows

/-- A state and what the analysis sees of it. -/
structure State.Shows (s : State σ) (t : WalkState σ) : Prop where
  levels : List.Forall₂ Level.Shows s.levels t.scopes
  params : s.params = t.params
  tables : s.tables = t.tables

theorem State.Shows.initial (params : σ) : (State.initial params).Shows (.initial params) :=
  ⟨.nil, rfl, rfl⟩

/-! ## Looking up columns -/

/-- **Every reference is found at its position.** -/
theorem findColumn_eq {levels : List Level} {scopes : List Scope}
    (h : List.Forall₂ Level.Shows levels scopes) (table : Option String) (column : String)
    (depth : Nat) (s : State σ) :
    findColumn table column depth levels s
      = some (Prepared.findColumn table column depth scopes, s) := by
  induction h generalizing depth with
  | nil => rfl
  | @cons l scope levels scopes hl _ ih =>
    unfold findColumn Prepared.findColumn
    rw [hl.referent?]
    cases hreferent : l.referent? table column with
    | error e => rfl
    | ok found =>
      cases found with
      | none => exact ih (depth + 1)
      | some e => exact (hl.sound_of_referent? hreferent).bind column depth s

/-! ## Steps that follow the analysis -/

theorem element_eq {l : List α} {i : Nat} {a : α} (h : l[i]? = some a) (s : State σ) :
    element l i s = some (.ok a, s) := by
  unfold element
  rw [h]
  rfl

/-- A check that the proofs have to pass: where it fails the step by position has no result. -/
theorem sameLength_eq {xs : List α} {ys : List β} (h : xs.length = ys.length) (s : State σ) :
    sameLength xs ys s = some (.ok (), s) :=
  if_pos h

/-- Two results that belong together: the same error, or values that are related. -/
inductive Together (R : α → β → Prop) : Except BindError α → Except BindError β → Prop where
  | ok {a : α} {b : β} (h : R a b) : Together R (.ok a) (.ok b)
  | error (e : BindError) : Together R (.error e) (.error e)

/-- The step by position comes to an end and does what the step of the analysis does. -/
def Follows (x : Step σ α) (y : Walk σ β) (R : α → β → Prop) : Prop :=
  ∀ s t, s.Shows t → ∃ r s', x s = some (r, s') ∧ s'.Shows (y t).2 ∧ Together R r (y t).1

/-- A step goes on with what the one before it gave. -/
theorem run_bind (x : Step σ α) (f : α → Step σ β) (s : State σ) :
    (x >>= f) s
      = (x s).bind fun
        | (.ok a, s') => f a s'
        | (.error e, s') => some (.error e, s') := by
  show (ExceptT.bind x f) s = _
  unfold ExceptT.bind ExceptT.mk
  show Option.bind (x s) (fun p => (ExceptT.bindCont f p.1) p.2) = _
  congr 1
  funext ⟨r, s'⟩
  cases r <;> rfl

namespace Follows

variable {x : Step σ α} {y : Walk σ β} {R : α → β → Prop}

theorem mono {R' : α → β → Prop} (h : Follows x y R) (hsub : ∀ a b, R a b → R' a b) :
    Follows x y R' := by
  intro s t hst
  obtain ⟨r, s', hx, hshows, htogether⟩ := h s t hst
  refine ⟨r, s', hx, hshows, ?_⟩
  generalize (y t).1 = r' at htogether ⊢
  cases htogether with
  | ok hab => exact .ok (hsub _ _ hab)
  | error e => exact .error e

/-- What is known of the values of the analysis is known of those by position. -/
theorem yields {P : β → Prop} (h : Follows x y R) (hy : y.Yields P) :
    Follows x y fun a b => R a b ∧ P b := by
  intro s t hst
  obtain ⟨r, s', hx, hshows, htogether⟩ := h s t hst
  refine ⟨r, s', hx, hshows, ?_⟩
  have hpost : ∀ b, (y t).1 = .ok b → P b := fun b hb => hy t b (y t).2 (Prod.ext hb rfl)
  generalize (y t).1 = r' at htogether hpost ⊢
  cases htogether with
  | ok hab => exact .ok ⟨hab, hpost _ rfl⟩
  | error e => exact .error e

theorem pure {a : α} {b : β} (h : R a b) : Follows (pure a : Step σ α) (pure b : Walk σ β) R :=
  fun s _ hst => ⟨.ok a, s, rfl, hst, .ok h⟩

theorem throw (e : BindError) : Follows (throw e : Step σ α) (throw e : Walk σ β) R :=
  fun s _ hst => ⟨.error e, s, rfl, hst, .error e⟩

theorem ofResult (r : Except BindError α) :
    Follows (ofResult r : Step σ α) (BindM.ofResult r) Eq := by
  intro s t hst
  refine ⟨r, s, rfl, hst, ?_⟩
  show Together Eq r r
  cases r with
  | ok a => exact .ok rfl
  | error e => exact .error e

/-- **A step that ignores tables is taken over from the analysis.** By position it is run without
levels, and by `Walk.Aside` these make no difference. -/
theorem ofWalk {y : Walk σ α} (h : y.Aside) : Follows (ofWalk y) y Eq := by
  intro s t hst
  have hrun : (⟨[], s.params, s.tables⟩ : WalkState σ) = ⟨[], t.params, t.tables⟩ := by
    rw [hst.params, hst.tables]
  unfold Positional.ofWalk
  rw [h t, hrun]
  generalize y ⟨[], t.params, t.tables⟩ = result
  obtain ⟨r, t'⟩ := result
  refine ⟨r, _, rfl, ⟨hst.levels, rfl, rfl⟩, ?_⟩
  show Together Eq r r
  cases r with
  | ok a => exact .ok rfl
  | error e => exact .error e

theorem bind {f : α → Step σ γ} {g : β → Walk σ δ} {S : γ → δ → Prop} (h : Follows x y R)
    (hf : ∀ a b, R a b → Follows (f a) (g b) S) : Follows (x >>= f) (y >>= g) S := by
  intro s t hst
  obtain ⟨r, s', hx, hshows, htogether⟩ := h s t hst
  rw [run_bind, Walk.run_bind, hx]
  generalize y t = result at hshows htogether ⊢
  obtain ⟨r', t'⟩ := result
  dsimp only at hshows htogether
  cases htogether with
  | ok hab => exact hf _ _ hab s' t' hshows
  | error e => exact ⟨_, s', rfl, hshows, .error e⟩

/-- A step that only looks something up stands for what it finds. -/
theorem after {x : Step σ α} {a : α} {f : α → Step σ γ} {y : Walk σ δ} {S : γ → δ → Prop}
    (hx : ∀ s, x s = some (.ok a, s)) (h : Follows (f a) y S) : Follows (x >>= f) y S := by
  intro s t hst
  rw [run_bind, hx]
  exact h s t hst

/-- Both sides go on with the same value. -/
theorem seq {y : Walk σ α} {f : α → Step σ γ} {g : α → Walk σ δ} {S : γ → δ → Prop}
    (h : Follows x y Eq) (hf : ∀ a, Follows (f a) (g a) S) : Follows (x >>= f) (y >>= g) S :=
  h.bind fun a _ hab => hab ▸ hf a

theorem map (h : Follows x y R) (f : α → γ) :
    Follows (f <$> x) y fun c b => ∃ a, R a b ∧ c = f a := by
  rw [map_eq_pure_bind, ← bind_pure y]
  exact h.bind fun a b hab => .pure ⟨a, hab, rfl⟩

/-- The analysis makes something of what it gets that is there already by position. -/
theorem giving (h : Follows x y R) (f : β → δ) :
    Follows x (do return f (← y)) fun a d => ∃ b, R a b ∧ d = f b := by
  rw [← bind_pure x]
  exact h.bind fun a b hab => .pure ⟨b, hab, rfl⟩

/-- The new level shows itself as an empty one; in the end both sides drop the innermost. -/
theorem withLevel (h : Follows x y R) : Follows (withLevel x) (BindM.withScope y) R := by
  intro s t hst
  obtain ⟨r, s', hx, hshows, htogether⟩ := h { s with levels := .empty :: s.levels }
    { t with scopes := Scope.empty :: t.scopes } ⟨.cons .empty hst.levels, hst.params, hst.tables⟩
  refine ⟨r, { s' with levels := s'.levels.tail }, ?_, ⟨?_, hshows.params, hshows.tables⟩, htogether⟩
  · unfold Positional.withLevel
    rw [hx]
    rfl
  -- the levels that are left on both sides are shown one by one, so dropping the first of each is
  -- fine
  · have hlevels := hshows.levels
    show List.Forall₂ _ s'.levels.tail
      (y { t with scopes := Scope.empty :: t.scopes }).2.scopes.tail
    generalize s'.levels = levels at hlevels ⊢
    generalize (y { t with scopes := Scope.empty :: t.scopes }).2.scopes = scopes at hlevels ⊢
    cases hlevels with
    | nil => exact .nil
    | cons _ houter => exact houter

/-! ### Steps with tables -/

theorem currentLevel :
    Follows (currentLevel : Step σ Level) BindM.currentScope Level.Shows := by
  intro s t hst
  have hlevels := hst.levels
  unfold Positional.currentLevel BindM.currentScope
  generalize hl : s.levels = levels at hlevels
  generalize ht : t.scopes = scopes at hlevels
  cases hlevels with
  | nil => exact ⟨_, s, rfl, hst, .error _⟩
  | cons hshows _ => exact ⟨_, s, rfl, hst, .ok hshows⟩

theorem addEntry {e : Entry} (he : e.Sound) :
    Follows (addEntry e : Step σ Unit) (BindM.addBinding e.view) Eq := by
  intro s t hst
  have hlevels := hst.levels
  unfold Positional.addEntry BindM.addBinding
  generalize hl : s.levels = levels at hlevels
  generalize ht : t.scopes = scopes at hlevels
  cases hlevels with
  | nil => exact ⟨_, s, rfl, hst, .error _⟩
  | cons hshows houter =>
    rcases hshows.add he with ⟨error, hadd, hadd'⟩ | ⟨l', scope', hadd, hadd', hshows'⟩
    · simp only [hadd, hadd']
      exact ⟨_, s, rfl, hst, .error _⟩
    · simp only [hadd, hadd']
      exact ⟨_, _, rfl, ⟨.cons hshows' houter, hst.params, hst.tables⟩, .ok rfl⟩

/-- **A table with as many types as names** is added to both sides. -/
theorem addTable (name : String) (index : Nat) {types : List SqlType} {names : List String}
    (hlen : types.length = names.length) :
    Follows (addTable name index types names : Step σ Unit)
      (BindM.addBinding ⟨name, index, List.zipWith Column.mk names types⟩) Eq := by
  have hsound : Entry.Sound ⟨name, index, types, names, number .empty 0 names⟩ := ⟨hlen, rfl⟩
  exact after (sameLength_eq hlen) (addEntry hsound)

theorem resolveColumn (table : Option String) (column : String) :
    Follows (resolveColumn table column : Step σ BoundColumn)
      (BindM.resolveColumn table column) Eq := by
  intro s t hst
  unfold Positional.resolveColumn BindM.resolveColumn
  rw [findColumn_eq hst.levels]
  refine ⟨_, s, rfl, hst, ?_⟩
  dsimp only
  cases Prepared.findColumn table column 0 t.scopes with
  | ok c => exact .ok rfl
  | error e => exact .error e

/-- An output with as many names as columns. -/
theorem output {names : List String} {columns : List BoundExpr}
    (hlen : names.length = columns.length) :
    Follows (output names columns : Step σ BoundQuery) (Pure.pure ⟨names, columns⟩) Eq :=
  after (sameLength_eq hlen) (pure rfl)

end Follows

/-! ## Rules with tables -/

section

variable [ParamHook σ]

omit [ParamHook σ] in
theorem bindColumnRef_follows (parts : List Ident) :
    Follows (bindColumnRef parts : Step σ BoundExpr) (Prepared.bindColumnRef parts) Eq := by
  unfold bindColumnRef Prepared.bindColumnRef
  rcases parts.map Ident.folded with _ | ⟨first, _ | ⟨second, _ | ⟨third, rest⟩⟩⟩
  · exact .throw _
  · exact (Follows.resolveColumn none first).seq fun _ => .pure rfl
  · exact (Follows.resolveColumn (some first) second).seq fun _ => .pure rfl
  · exact .throw _

omit [ParamHook σ] in
/-- By induction on the columns, looked up by name again. The types are only there to make columns
of the names. -/
theorem starColumns_follows (table : String) {names : List String} {types : List SqlType}
    (hlen : types.length = names.length) :
    Follows (starColumns table names : Step σ (List BoundExpr))
      (Prepared.starColumns table (List.zipWith Column.mk names types)) Eq := by
  induction names generalizing types with
  | nil => exact .pure rfl
  | cons name names ih =>
    cases types with
    | nil => cases hlen
    | cons t types =>
      have hrest := ih (Nat.succ.inj hlen)
      exact (Follows.resolveColumn _ _).seq fun _ => hrest.seq fun _ => .pure rfl

omit [ParamHook σ] in
/-- By induction on the tables of a level. -/
theorem starEntries_follows {es : List Entry} (h : ∀ e ∈ es, e.Sound) :
    Follows (starEntries es : Step σ (List BoundExpr))
      (Prepared.starBindings (es.map Entry.view)) Eq := by
  induction es with
  | nil => exact .pure rfl
  | cons e es ih =>
    obtain ⟨he, hes⟩ := List.forall_mem_cons.1 h
    exact (starColumns_follows e.name he.length).seq fun _ => (ih hes).seq fun _ => .pure rfl

omit [ParamHook σ] in
/-- Over one table, which is found by its name, or over all tables of the level. -/
theorem bindStar_follows (table : Option ObjectName) :
    Follows (bindStar table : Step σ (List BoundExpr)) (Prepared.bindStar table) Eq := by
  cases table with
  | some table =>
    refine (Follows.ofResult (tableName table)).seq fun name => ?_
    refine Follows.currentLevel.bind fun l scope hshows => ?_
    rw [hshows.find?]
    cases hfind : l.entries.find? name with
    | none => exact .throw _
    | some e =>
      have hsound : ∀ e' ∈ [e], e'.Sound := by
        intro e' he'
        rw [List.mem_singleton.1 he']
        exact hshows.sound_of_find? hfind
      exact starEntries_follows hsound
  | none =>
    refine Follows.currentLevel.bind fun l scope hshows => ?_
    unfold Scope.isEmpty
    rw [hshows.bindings, List.isEmpty_map]
    split
    · exact .throw _
    · exact starEntries_follows hshows.sound

/-- The columns of a table, taken apart and put together again. -/
theorem zipWith_names_types (columns : List Column) :
    List.zipWith Column.mk (columns.map (·.name)) (columns.map (·.type)) = columns := by
  induction columns with
  | nil => rfl
  | cons c columns ih =>
    rw [List.map_cons, List.map_cons, List.zipWith_cons_cons, ih]

omit [ParamHook σ] in
/-- A table of the catalog has as many types as names, since it is made of columns. -/
theorem bindTable_follows (catalog : Catalog) (name : ObjectName) (label : Option TableAlias) :
    Follows (bindTable catalog name label : Step σ Unit) (Prepared.bindTable catalog name label)
      Eq := by
  refine (Follows.ofResult _).seq fun name => (Follows.ofResult _).seq fun table => ?_
  refine (Follows.ofWalk Walk.Aside.newTable).seq fun index => ?_
  have hlen : (table.columns.map (·.type)).length = (table.columns.map (·.name)).length := by
    rw [List.length_map, List.length_map]
  have hadd := Follows.addTable (σ := σ) ((label.map (·.name.folded)).getD name) index hlen
  rw [zipWith_names_types] at hadd
  exact hadd

/-- Renaming replaces names and adds none. -/
theorem length_overwrite (names : List String) (labels : List Ident) :
    (overwrite names labels).length = names.length := by
  induction names generalizing labels with
  | nil => cases labels <;> rfl
  | cons name names ih =>
    cases labels with
    | nil => rfl
    | cons label labels => exact congrArg Nat.succ (ih labels)

/-- Names that are given beyond the last column do not count. -/
theorem renamed_eq {names : List String} {types : List SqlType} (h : names.length = types.length)
    (labels : List Ident) :
    renamed names types labels = List.zipWith Column.mk (overwrite names labels) types := by
  unfold renamed
  induction names generalizing types labels with
  | nil =>
    cases types with
    | nil => simp
    | cons t types => cases h
  | cons name names ih =>
    cases types with
    | nil => cases h
    | cons t types =>
      cases labels with
      | nil => rfl
      | cons label labels => exact congrArg (_ :: ·) (ih (Nat.succ.inj h) labels)

omit [ParamHook σ] in
/-- **A query in the place of a table** has as many types as names, whatever it is renamed to. -/
theorem bindDerived_follows {q : BoundQuery} (hq : q.Named) (label : TableAlias) :
    Follows (bindDerived q label : Step σ Unit) (Prepared.bindDerived q label) Eq := by
  have htypes : q.names.length = q.types.length := hq.trans (List.length_map _).symm
  unfold Prepared.bindDerived
  rw [renamed_eq htypes]
  refine (Follows.ofWalk Walk.Aside.newTable).seq fun index => ?_
  exact Follows.addTable _ index (htypes.symm.trans (length_overwrite _ _).symm)

/-- The output has the names of the left side, which are as many as its columns, and the combined
columns are as many as those. -/
theorem combineQueries_follows {l : BoundQuery} (hl : l.Named) (r : BoundQuery) :
    Follows (combineQueries l r : Step σ BoundQuery) (Prepared.combineQueries l r) Eq := by
  unfold combineQueries Prepared.combineQueries
  split
  · exact .throw _
  · rename_i hwidths
    have hsame : l.columns.length = r.columns.length := Decidable.not_not.1 hwidths
    have hcolumns := (Follows.ofWalk (Walk.Aside.combineColumns (σ := σ) l.columns r.columns)).yields
      (combineColumns_length hsame)
    refine hcolumns.bind fun columns columns' h => ?_
    obtain ⟨rfl, hlen⟩ := h
    exact .output (hl.trans hlen.symm)

/-! ## Lists of values -/

omit [ParamHook σ] in
/-- An expression is put behind the others of its column. -/
theorem push_eq (done rest : List (List α)) (list : List α) (a : α) (s : State σ) :
    push (done ++ list :: rest) done.length a s
      = some (.ok (done ++ (list ++ [a]) :: rest), s) := by
  have hlist : (done ++ list :: rest)[done.length]? = some list := by
    rw [List.getElem?_append_right (Nat.le_refl _), Nat.sub_self]
    rfl
  have hset : (done ++ list :: rest).set done.length (list ++ [a])
      = done ++ (list ++ [a]) :: rest := by
    rw [List.set_append_right _ _ (Nat.le_refl _), Nat.sub_self]
    rfl
  unfold push
  rw [run_bind, element_eq hlist, ← hset]
  rfl

/-- The columns of one more row in front. -/
theorem columnsOf_cons {width : Nat} {row : List BoundExpr} (hrow : row.length = width)
    (rows : List (List BoundExpr)) :
    columnsOf width (row :: rows) = List.zipWith List.cons row (columnsOf width rows) := by
  apply List.ext_getElem
  · rw [length_columnsOf, List.length_zipWith, length_columnsOf, hrow, Nat.min_self]
  · intro i hi hi'
    have hin : i < row.length := by
      rw [hrow, ← length_columnsOf width (row :: rows)]
      exact hi
    simp [columnsOf, hin]

/-- A row is spread over columns, and then the columns of the others are put behind. -/
theorem append_columnsOf_cons {width : Nat} {columns : List (List BoundExpr)}
    {row : List BoundExpr} (hcolumns : columns.length = width) (hrow : row.length = width)
    (rows : List (List BoundExpr)) :
    List.zipWith (· ++ ·) (List.zipWith (fun column b => column ++ [b]) columns row)
        (columnsOf width rows)
      = List.zipWith (· ++ ·) columns (columnsOf width (row :: rows)) := by
  rw [columnsOf_cons hrow]
  apply List.ext_getElem
  · simp [length_columnsOf, hcolumns, hrow]
  · intro i hi hi'
    simp

/-- Without rows there is nothing to put behind the columns. -/
theorem append_columnsOf_nil {width : Nat} {columns : List (List BoundExpr)}
    (h : columns.length = width) :
    List.zipWith (· ++ ·) columns (columnsOf width []) = columns := by
  apply List.ext_getElem
  · rw [List.length_zipWith, length_columnsOf, h, Nat.min_self]
  · intro i hi hi'
    simp [columnsOf]

/-- The columns that are filled row by row are empty in the beginning. -/
theorem append_replicate_nil {width : Nat} {lists : List (List α)} (h : lists.length = width) :
    List.zipWith (· ++ ·) (List.replicate width []) lists = lists := by
  subst h
  induction lists with
  | nil => rfl
  | cons list lists ih => exact congrArg (list :: ·) ih

/-- An expected type is found at the position of its column. -/
theorem coerceColumn_follows {types : List SqlType} {i : Nat} {t : SqlType}
    (h : types[i]? = some t) (es : List BoundExpr) :
    Follows (coerceColumn types i es : Step σ (List BoundExpr)) (BoundExpr.coerceAll t es) Eq := by
  induction es with
  | nil => exact .pure rfl
  | cons e es ih =>
    unfold coerceColumn BoundExpr.coerceAll
    refine .after (element_eq h) ?_
    exact (Follows.ofWalk (.coerce e t)).seq fun _ => ih.seq fun _ => .pure rfl

/-- **Every expected type of a `VALUES` list is there**, as there are as many as columns. -/
theorem unifyColumns_follows (expected : Option (List SqlType)) (i : Nat)
    (columns : List (List BoundExpr))
    (h : ∀ types, expected = some types → types.length = i + columns.length) :
    Follows (unifyColumns expected i columns : Step σ _)
      (Prepared.unifyColumns columns (expected.map (List.drop i)))
      fun q es => q = ((List.range' i columns.length).map fun j => "column" ++ toString (j + 1), es)
      := by
  induction columns generalizing i with
  | nil =>
    unfold unifyColumns Prepared.unifyColumns
    exact .pure rfl
  | cons column columns ih =>
    have hrest : ∀ types, expected = some types → types.length = i + 1 + columns.length := by
      intro types htypes
      rw [h types htypes, List.length_cons]
      omega
    -- what is left after the first column, however that one was brought to a type
    have hgo (first : List BoundExpr) :
        Follows (do
            let q ← unifyColumns expected (i + 1) columns
            return (("column" ++ toString (i + 1)) :: q.1, first ++ q.2) : Step σ _)
          (do return first ++ (← Prepared.unifyColumns columns (expected.map (List.drop (i + 1)))))
          fun q es => q = ((List.range' i (columns.length + 1)).map
            fun j => "column" ++ toString (j + 1), es) := by
      refine (ih (i + 1) hrest).bind fun q es hq => .pure ?_
      subst hq
      rw [List.range'_succ]
      rfl
    cases expected with
    | none =>
      have hfirst : (Prepared.unifyColumns (column :: columns) none : Walk σ _)
          = (do
            let r ← BoundExpr.unify column (some .varchar)
            return r.1.take 1 ++ (← Prepared.unifyColumns columns none)) := by
        show (do return (← firstUnified column) ++ (← Prepared.unifyColumns columns none)) = _
        unfold firstUnified
        rw [bind_assoc]
        rfl
      rw [Option.map_none, hfirst]
      have hunify := (Follows.ofWalk (Walk.Aside.unify (σ := σ) column (some .varchar))).map (·.1)
      refine hunify.bind fun es r h => ?_
      obtain ⟨_, rfl, rfl⟩ := h
      exact hgo _
    | some types =>
      have hlen : i < types.length := by
        rw [h types rfl, List.length_cons]
        omega
      unfold unifyColumns
      rw [Option.map_some, List.drop_eq_getElem_cons hlen, Prepared.unifyColumns]
      refine (coerceColumn_follows (List.getElem?_eq_getElem hlen) column).seq fun column => ?_
      exact hgo (column.take 1)

/-- The output of a `VALUES` list has a name for each column. -/
theorem valueOutput_follows {expected : Option (List SqlType)} {width : Nat}
    {bound : List (List BoundExpr)}
    (hexpected : ∀ types, expected = some types → types.length = width)
    (hcolumns : ∀ column ∈ columnsOf width bound, column ≠ []) :
    Follows (do
        let (names, columns) ← unifyColumns expected 0 (columnsOf width bound)
        output names columns : Step σ BoundQuery)
      (do return ⟨valueNames width, ← Prepared.unifyColumns (columnsOf width bound) expected⟩)
      Eq := by
  have hunify := unifyColumns_follows (σ := σ) expected 0 (columnsOf width bound) fun types htypes => by
    rw [hexpected types htypes, length_columnsOf, Nat.zero_add]
  have hsame : expected.map (List.drop 0) = expected := by
    cases expected with
    | none => rfl
    | some types => rfl
  rw [hsame, length_columnsOf, ← List.range_eq_range'] at hunify
  refine (hunify.yields (unifyColumns_length hcolumns expected)).bind fun q es h => ?_
  obtain ⟨rfl, hlen⟩ := h
  refine .output ?_
  rw [List.length_map, List.length_range, hlen, length_columnsOf]

end

/-! ## Expressions, queries and tables -/

section

variable [ParamHook σ] (catalog : Catalog)

-- On the syntax, all its kinds at once. Only where a list is indexed is more needed than that each part
-- follows: its length, which a `_named`, `_width` or `_length` lemma adds to the part by `yields`.
mutual

theorem bindExpr_follows : (e : Expr) →
    Follows (bindExpr catalog e : Step σ BoundExpr) (Prepared.bindExpr catalog e) Eq
  | .column name => by
    unfold bindExpr Prepared.bindExpr
    exact bindColumnRef_follows _
  | .qualified parts => by
    unfold bindExpr Prepared.bindExpr
    exact bindColumnRef_follows _
  | .literal value => by
    unfold bindExpr Prepared.bindExpr
    exact .ofWalk (.bindLiteral value)
  | .typed type text => by
    unfold bindExpr Prepared.bindExpr
    refine (Follows.ofWalk (.ofType _)).seq fun target => ?_
    exact (Follows.ofWalk (.ofType _)).seq fun value => .pure rfl
  | .cast operand type => by
    unfold bindExpr Prepared.bindExpr
    refine (Follows.ofWalk (.ofType _)).seq fun target => ?_
    exact (bindExpr_follows operand).seq fun e => .ofWalk (.bindCast _ _ _)
  | .nested operand => by
    unfold bindExpr Prepared.bindExpr
    exact bindExpr_follows operand
  | .binary op left right => by
    unfold bindExpr Prepared.bindExpr
    refine (bindExpr_follows left).seq fun l => (bindExpr_follows right).seq fun r => ?_
    exact .ofWalk (.bindBinary _ _ _ _)
  | .unary op operand => by
    unfold bindExpr Prepared.bindExpr
    exact (bindExpr_follows operand).seq fun e => .ofWalk (.bindUnary _ _ _)
  | .isNull operand negated => by
    unfold bindExpr Prepared.bindExpr
    exact (bindExpr_follows operand).seq fun _ => .pure rfl
  | .inList operand items negated => by
    unfold bindExpr Prepared.bindExpr
    refine (bindExpr_follows operand).seq fun e => (bindExprs_follows items).seq fun es => ?_
    exact .ofWalk (.bindComparison _ _)
  | .inQuery operand query negated => by
    unfold bindExpr Prepared.bindExpr
    refine (bindExpr_follows operand).seq fun e => (bindQuery_follows none query).seq fun q => ?_
    exact (Follows.ofWalk (.singleColumn q)).seq fun column => .ofWalk (.bindComparison _ _)
  | .between operand low high negated => by
    unfold bindExpr Prepared.bindExpr
    refine (bindExpr_follows operand).seq fun e => ?_
    refine (bindExpr_follows low).seq fun l => (bindExpr_follows high).seq fun h => ?_
    exact .ofWalk (.bindComparison _ _)
  | .like kind operand pattern escape negated => by
    unfold bindExpr Prepared.bindExpr
    refine (bindExpr_follows operand).seq fun e => (Follows.ofWalk (.coerce e _)).seq fun _ => ?_
    refine (bindExpr_follows pattern).seq fun p => (Follows.ofWalk (.coerce p _)).seq fun _ => ?_
    exact .pure rfl
  | .case none conditions results otherwise => by
    unfold bindExpr Prepared.bindExpr
    refine (bindConditions_follows conditions).seq fun _ => ?_
    refine (bindExprs_follows results).seq fun branches => ?_
    exact (bindOption_follows otherwise).seq fun last => .ofWalk (.bindBranches _ _)
  | .case (some operand) conditions results otherwise => by
    unfold bindExpr Prepared.bindExpr
    refine (bindExpr_follows operand).seq fun e => (bindExprs_follows conditions).seq fun es => ?_
    refine (Follows.ofWalk (.unify (e :: es) _)).seq fun _ => ?_
    refine (bindExprs_follows results).seq fun branches => ?_
    exact (bindOption_follows otherwise).seq fun last => .ofWalk (.bindBranches _ _)
  | .exists query negated => by
    unfold bindExpr Prepared.bindExpr
    exact (bindQuery_follows none query).seq fun _ => .pure rfl
  | .subquery query => by
    unfold bindExpr Prepared.bindExpr
    refine (bindQuery_follows none query).seq fun q => ?_
    exact (Follows.ofWalk (.singleColumn q)).seq fun column => .pure rfl
  | .arrayOf query => by
    unfold bindExpr Prepared.bindExpr
    exact .throw _
  | .form form operands => by
    unfold bindExpr Prepared.bindExpr
    exact .throw _

theorem bindExprs_follows : (es : List Expr) →
    Follows (bindExprs catalog es : Step σ _) (Prepared.bindExprs catalog es) Eq
  | [] => by
    unfold bindExprs Prepared.bindExprs
    exact .pure rfl
  | e :: es => by
    unfold bindExprs Prepared.bindExprs
    exact (bindExpr_follows e).seq fun b => (bindExprs_follows es).seq fun bs => .pure rfl

theorem bindOption_follows : (e : Option Expr) →
    Follows (bindOption catalog e : Step σ _) (Prepared.bindOption catalog e) Eq
  | none => by
    unfold bindOption Prepared.bindOption
    exact .pure rfl
  | some e => by
    unfold bindOption Prepared.bindOption
    rw [map_eq_pure_bind, map_eq_pure_bind]
    exact (bindExpr_follows e).seq fun b => .pure rfl

theorem bindConditions_follows : (es : List Expr) →
    Follows (bindConditions catalog es : Step σ Unit) (Prepared.bindConditions catalog es) Eq
  | [] => by
    unfold bindConditions Prepared.bindConditions
    exact .pure rfl
  | e :: es => by
    unfold bindConditions Prepared.bindConditions
    refine (bindExpr_follows e).seq fun b => (Follows.ofWalk (.coerce b _)).seq fun _ => ?_
    exact bindConditions_follows es

theorem bindCondition_follows : (e : Option Expr) →
    Follows (bindCondition catalog e : Step σ Unit) (Prepared.bindCondition catalog e) Eq
  | none => by
    unfold bindCondition Prepared.bindCondition
    exact .pure rfl
  | some e => by
    unfold bindCondition Prepared.bindCondition
    exact (bindExpr_follows e).seq fun b => (Follows.ofWalk (.coerce b _)).seq fun _ => .pure rfl

theorem bindCount_follows : (e : Option Expr) →
    Follows (bindCount catalog e : Step σ Unit) (Prepared.bindCount catalog e) Eq
  | none => by
    unfold bindCount Prepared.bindCount
    exact .pure rfl
  | some e => by
    unfold bindCount Prepared.bindCount
    exact (bindExpr_follows e).seq fun b => (Follows.ofWalk (.coerce b _)).seq fun _ => .pure rfl

/-- **A row meets as many columns as it is long**: those behind the columns that are done. -/
theorem bindRow_follows : (es : List Expr) → (done rest : List (List BoundExpr)) →
    rest.length = es.length →
    Follows (bindRow catalog (done ++ rest) done.length es : Step σ _)
      (Prepared.bindExprs catalog es)
      fun columns bs => columns = done ++ List.zipWith (fun column b => column ++ [b]) rest bs
  | [], done, rest, hlen => by
    unfold bindRow Prepared.bindExprs
    rw [List.length_eq_zero_iff.1 hlen]
    exact .pure rfl
  | e :: es, done, [], hlen => by
    cases hlen
  | e :: es, done, column :: rest, hlen => by
    unfold bindRow Prepared.bindExprs
    refine (bindExpr_follows e).seq fun b => ?_
    -- the column gets its expression, and is done then
    have hgo := bindRow_follows es (done ++ [column ++ [b]]) rest (Nat.succ.inj hlen)
    rw [List.append_assoc, List.length_append] at hgo
    refine .after (push_eq done rest column b) ?_
    refine (hgo.giving (b :: ·)).mono fun columns bs h => ?_
    obtain ⟨bs, rfl, rfl⟩ := h
    rw [List.append_assoc]
    rfl

/-- **Row by row into columns.** One side collects rows, the other one fills columns from the first
row on. What relates them says that the filled columns are those they started from with the columns
of the rows behind them, so the induction is for any columns to start from. -/
theorem bindRows_follows (width : Nat) : (rows : List (List Expr)) →
    (columns : List (List BoundExpr)) → columns.length = width →
    Follows (bindRows catalog width columns rows : Step σ _)
      (Prepared.bindRows catalog width rows)
      fun columns' bound => columns' = List.zipWith (· ++ ·) columns (columnsOf width bound)
  | [], columns, hlen => by
    unfold bindRows Prepared.bindRows
    exact .pure (append_columnsOf_nil hlen).symm
  | row :: rows, columns, hlen => by
    unfold bindRows Prepared.bindRows
    split
    · exact .throw _
    · rename_i hwidth
      have hrow : row.length = width := Decidable.not_not.1 hwidth
      have hspread := (bindRow_follows row [] columns (hlen.trans hrow.symm)).yields
        (bindExprs_length catalog row)
      refine hspread.bind fun columns' bs h => ?_
      obtain ⟨rfl, hbs⟩ := h
      have hbs : bs.length = width := hbs.trans hrow
      have hlen' : (List.zipWith (fun column b => column ++ [b]) columns bs).length = width := by
        rw [List.length_zipWith, hlen, hbs, Nat.min_self]
      refine ((bindRows_follows width rows _ hlen').giving (bs :: ·)).mono fun columns' bound h => ?_
      -- the columns with this row spread over them are what the other rows are put behind
      obtain ⟨rest, rfl, rfl⟩ := h
      exact append_columnsOf_cons hlen hbs rest

/-- The level that a query opens is dropped on both sides. -/
theorem bindQuery_follows (expected : Option (List SqlType)) : (q : Query) →
    Follows (bindQuery catalog expected q : Step σ _) (Prepared.bindQuery catalog expected q) Eq
  | .mk recursive ctes body orderBy limit offset offsetWord fetch lock => by
    unfold bindQuery Prepared.bindQuery
    split
    · exact .throw _
    · refine .withLevel ((bindBody_follows false expected body).seq fun output => ?_)
      refine (bindOrder_follows output.names orderBy).seq fun _ => ?_
      refine (bindCount_follows limit).seq fun _ => (bindCount_follows offset).seq fun _ => ?_
      exact .pure rfl

/-- Here the widths are needed: of an output that is given names, of the left side of a set
operation, and of the rows of a `VALUES`. -/
theorem bindBody_follows (combined : Bool) (expected : Option (List SqlType)) : (body : Body) →
    Follows (bindBody catalog combined expected body : Step σ _)
      (Prepared.bindBody catalog combined expected body) Eq
  | .select quantity items tables condition groupBy having rest => by
    have hselect : Follows (do
          bindTables catalog tables
          bindCondition catalog condition
          let _ ← bindExprs catalog groupBy
          bindCondition catalog having
          let q ← bindItems catalog items
          let columns ← ofWalk (fitOutput expected q.columns)
          output q.names columns : Step σ BoundQuery)
        (do
          Prepared.bindTables catalog tables
          Prepared.bindCondition catalog condition
          let _ ← Prepared.bindExprs catalog groupBy
          Prepared.bindCondition catalog having
          let q ← Prepared.bindItems catalog items
          return ⟨q.names, ← fitOutput expected q.columns⟩) Eq := by
      refine (bindTables_follows tables).seq fun _ => (bindCondition_follows condition).seq fun _ => ?_
      refine (bindExprs_follows groupBy).seq fun _ => (bindCondition_follows having).seq fun _ => ?_
      refine ((bindItems_follows items).yields (bindItems_named catalog items)).bind fun q q' h => ?_
      obtain ⟨rfl, hnamed⟩ := h
      have hfit := (Follows.ofWalk (.fitOutput expected q.columns)).yields
        (fitOutput_length (σ := σ) expected q.columns)
      refine hfit.bind fun columns columns' h => ?_
      obtain ⟨rfl, hlen⟩ := h
      exact .output (hnamed.trans hlen.symm)
    unfold bindBody Prepared.bindBody
    cases combined with
    | true => exact hselect.withLevel
    | false => exact hselect
  | .query query => by
    unfold bindBody Prepared.bindBody
    exact bindQuery_follows expected query
  | .operation op quantity left right => by
    unfold bindBody Prepared.bindBody
    have hleft := (bindBody_follows true expected left).yields
      (bindBody_named catalog true expected left)
    refine hleft.bind fun l l' h => ?_
    obtain ⟨rfl, hnamed⟩ := h
    exact (bindBody_follows true expected right).seq fun r => combineQueries_follows hnamed r
  | .values explicit rows => by
    unfold bindBody Prepared.bindBody
    have hcheck := (Follows.ofWalk (.checkWidth expected ((rows.head?.map List.length).getD 0))).yields
      (checkWidth_yields (σ := σ) expected _)
    refine hcheck.bind fun _ _ h => ?_
    obtain ⟨-, hexpected⟩ := h
    have hrows := (bindRows_follows _ rows (List.replicate _ []) List.length_replicate).yields
      (bindRows_width catalog ((rows.head?.map List.length).getD 0) rows)
    refine hrows.bind fun columns bound h => ?_
    obtain ⟨rfl, hcount, hwidths⟩ := h
    rw [append_replicate_nil (length_columnsOf _ bound)]
    exact valueOutput_follows hexpected (ne_nil_of_mem_columnsOf hcount hwidths)
  | .other text _ => by
    unfold bindBody Prepared.bindBody
    exact .throw _

theorem bindItems_follows : (items : List SelectItem) →
    Follows (bindItems catalog items : Step σ _) (Prepared.bindItems catalog items) Eq
  | [] => by
    unfold bindItems Prepared.bindItems
    exact .pure rfl
  | .unnamed value :: items => by
    unfold bindItems Prepared.bindItems
    exact (bindExpr_follows value).seq fun e => (bindItems_follows items).seq fun _ => .pure rfl
  | .named value name :: items => by
    unfold bindItems Prepared.bindItems
    exact (bindExpr_follows value).seq fun e => (bindItems_follows items).seq fun _ => .pure rfl
  | .wildcard :: items => by
    unfold bindItems Prepared.bindItems
    exact (bindStar_follows none).seq fun _ => (bindItems_follows items).seq fun _ => .pure rfl
  | .qualifiedWildcard table :: items => by
    unfold bindItems Prepared.bindItems
    exact (bindStar_follows _).seq fun _ => (bindItems_follows items).seq fun _ => .pure rfl

theorem bindOrder_follows (names : List String) : (items : List OrderItem) →
    Follows (bindOrder catalog names items : Step σ Unit) (Prepared.bindOrder catalog names items)
      Eq
  | [] => by
    unfold bindOrder Prepared.bindOrder
    exact .pure rfl
  | .mk value key :: items => by
    unfold bindOrder Prepared.bindOrder
    split
    · exact (bindExpr_follows value).seq fun _ => bindOrder_follows names items
    · exact bindOrder_follows names items

theorem bindTableRef_follows : (t : TableRef) →
    Follows (bindTableRef catalog t : Step σ Unit) (Prepared.bindTableRef catalog t) Eq
  | .table name _ _ label _ => by
    unfold bindTableRef Prepared.bindTableRef
    exact bindTable_follows catalog name label
  | .derived _ query none => by
    unfold bindTableRef Prepared.bindTableRef
    exact .throw _
  | .derived _ query (some label) => by
    unfold bindTableRef Prepared.bindTableRef
    have hquery := (bindQuery_follows none query).yields (bindQuery_named catalog none query)
    refine hquery.bind fun q q' h => ?_
    obtain ⟨rfl, hnamed⟩ := h
    exact bindDerived_follows hnamed label
  | .function value label => by
    unfold bindTableRef Prepared.bindTableRef
    exact .throw _
  | .nested tables label => by
    unfold bindTableRef Prepared.bindTableRef
    exact .throw _
  | .join left kind right rule condition => by
    unfold bindTableRef Prepared.bindTableRef
    refine (bindTableRef_follows left).seq fun _ => (bindTableRef_follows right).seq fun _ => ?_
    split
    · exact bindCondition_follows condition
    · exact .throw _

theorem bindTables_follows : (ts : List TableRef) →
    Follows (bindTables catalog ts : Step σ Unit) (Prepared.bindTables catalog ts) Eq
  | [] => by
    unfold bindTables Prepared.bindTables
    exact .pure rfl
  | t :: ts => by
    unfold bindTables Prepared.bindTables
    exact (bindTableRef_follows t).seq fun _ => bindTables_follows ts

end

/-! ## Statements -/

omit [ParamHook σ] in
/-- **A column of a table is found at its position.** -/
theorem column?_eq {table : Table} (h : table.Indexed) (name : String) (s : State σ) :
    column? table name s = some (.ok (table.column? name), s) := by
  unfold column? Table.column? Table.position?
  cases hposition : table.positions.find? name with
  | none => rfl
  | some i =>
    have hname : (table.columns.map Column.name)[i]? = some name := (h.positions name i).1 hposition
    rw [List.getElem?_map] at hname
    obtain ⟨c, hc, -⟩ := Option.map_eq_some_iff.1 hname
    show (some <$> element table.columns i : Step σ (Option Column)) s
      = some (.ok table.columns[i]?, s)
    rw [map_eq_pure_bind, run_bind, element_eq hc, hc]
    rfl

omit [ParamHook σ] in
/-- By induction on the named columns, each of which is found at its position. -/
theorem namedColumnTypes_follows {table : Table} (h : table.Indexed) (name : String)
    (columns : List Ident) :
    Follows (namedColumnTypes table name columns : Step σ _)
      (BindM.ofResult (Prepared.namedColumnTypes table name columns)) Eq := by
  induction columns with
  | nil => exact .pure rfl
  | cons column columns ih =>
    unfold namedColumnTypes Prepared.namedColumnTypes
    refine .after (column?_eq h column.folded) ?_
    cases table.column? column.folded with
    | none => exact .throw _
    | some c =>
      have hrest := ih.seq (S := Eq) (f := fun types => (pure (c.type :: types) : Step σ _))
        (g := fun types => pure (c.type :: types)) fun types => .pure rfl
      cases htypes : Prepared.namedColumnTypes table name columns with
      | error e => rw [htypes] at hrest; exact hrest
      | ok types => rw [htypes] at hrest; exact hrest

omit [ParamHook σ] in
/-- All columns of the table, if none is named. -/
theorem insertTypes_follows {table : Table} (h : table.Indexed) (name : String)
    (columns : List Ident) :
    Follows (insertTypes table name columns : Step σ _)
      (BindM.ofResult (Prepared.insertTypes table name columns)) Eq := by
  unfold insertTypes Prepared.insertTypes
  split
  · exact .pure rfl
  · exact namedColumnTypes_follows h name columns

/-- Every table of the catalog has its columns where it says. -/
def IndexedCatalog : Prop :=
  ∀ name table, catalog.table name = .ok table → table.Indexed

section

variable {catalog} (hcatalog : IndexedCatalog catalog)
include hcatalog

omit [ParamHook σ] in
/-- A table that is found in the catalog. -/
theorem table_seq {f : Table → Step σ γ} {g : Table → Walk σ δ} {S : γ → δ → Prop} (name : String)
    (h : ∀ table, table.Indexed → Follows (f table) (g table) S) :
    Follows ((ofResult ((catalog.table name).mapError .catalog) : Step σ Table) >>= f)
      ((BindM.ofCatalog (catalog.table name) : Walk σ Table) >>= g) S := by
  unfold BindM.ofCatalog
  cases htable : catalog.table name with
  | error e => exact .throw _
  | ok table => exact h table (hcatalog name table htable)

/-- The table comes from the catalog, so its positions are right. -/
theorem bindInsert_follows (i : Insert) :
    Follows (bindInsert catalog i : Step σ Unit) (Prepared.bindInsert catalog i) Eq := by
  refine (Follows.ofResult (tableName i.table)).seq fun name => ?_
  refine table_seq hcatalog name fun table htable => ?_
  refine (insertTypes_follows htable name i.columns).seq fun types => ?_
  exact (bindQuery_follows catalog (some types) i.source).seq fun _ => .pure rfl

omit hcatalog in
/-- By induction on the assignments. The column is found at its position and gives the type that is
wanted. -/
theorem bindAssignments_follows {table : Table} (htable : table.Indexed) (name : String)
    (as : List Assignment) :
    Follows (bindAssignments catalog table name as : Step σ Unit)
      (Prepared.bindAssignments catalog table name as) Eq := by
  induction as with
  | nil => exact .pure rfl
  | cons a as ih =>
    unfold bindAssignments Prepared.bindAssignments
    cases a.target.getLast? with
    | none => exact .throw _
    | some target =>
      dsimp only
      refine .after (column?_eq htable target.folded) ?_
      cases table.column? target.folded with
      | none => exact .throw _
      | some column =>
        refine (bindExpr_follows catalog a.value).seq fun b => ?_
        exact (Follows.ofWalk (.coerce b _)).seq fun _ => ih

/-- The target is looked up in the catalog once more, after the level is filled. -/
theorem bindUpdate_follows (table : TableRef) (assignments : List Assignment)
    (source : Option TableRef) (condition : Option Expr) :
    Follows (bindUpdate catalog table assignments source condition : Step σ Unit)
      (Prepared.bindUpdate catalog table assignments source condition) Eq := by
  have hsource : Follows (bindSource catalog source : Step σ Unit)
      (Prepared.bindSource catalog source) Eq := by
    cases source with
    | none => exact .pure rfl
    | some t => exact bindTableRef_follows catalog t
  refine .withLevel ((Follows.ofResult (updatedName table)).seq fun name => ?_)
  refine (bindTableRef_follows catalog table).seq fun _ => hsource.seq fun _ => ?_
  refine (bindCondition_follows catalog condition).seq fun _ => ?_
  exact table_seq hcatalog name fun target htarget =>
    bindAssignments_follows htarget name assignments

omit hcatalog in
/-- A `DELETE` looks up nothing by position but references. -/
theorem bindDelete_follows (table : TableRef) (condition : Option Expr) :
    Follows (bindDelete catalog table condition : Step σ Unit)
      (Prepared.bindDelete catalog table condition) Eq :=
  .withLevel ((bindTableRef_follows catalog table).seq fun _ => bindCondition_follows catalog condition)

/-- One case for each statement that is analyzed; all others are refused on both sides. -/
theorem bindStatement_follows (S : Statement) :
    Follows (bindStatement catalog S : Step σ Description) (Prepared.bindStatement catalog S) Eq := by
  cases S with
  | query q => exact (bindQuery_follows catalog none q).seq fun _ => .pure rfl
  | insert i => exact (bindInsert_follows hcatalog i).seq fun _ => .pure rfl
  | update => exact (bindUpdate_follows hcatalog _ _ _ _).seq fun _ => .pure rfl
  | delete => exact (bindDelete_follows _ _).seq fun _ => .pure rfl
  | _ => exact .throw _

/-- **No position lies outside of its list.** The analysis by position comes to an end for every
statement over a catalog whose columns are where they should be, and it gives what the analysis
gives. -/
theorem analyze_eq (params : σ) (S : Statement) :
    analyze catalog params S = some (Prepared.analyze catalog params S) := by
  have hstatement : Follows (analyzeStatement catalog S : Step σ Description)
      (Prepared.analyzeStatement catalog S) Eq :=
    (bindStatement_follows hcatalog S).seq fun d =>
      (Follows.ofWalk .checkParams).seq fun _ => .pure rfl
  obtain ⟨r, s', hrun, hshows, htogether⟩ := hstatement _ _ (State.Shows.initial params)
  unfold analyze Prepared.analyze
  rw [hrun]
  generalize Prepared.analyzeStatement catalog S (.initial params) = result at hshows htogether ⊢
  obtain ⟨r', t'⟩ := result
  have hparams : s'.params = t'.params := hshows.params
  have hresult : r = r' := by
    cases htogether with
    | ok h => rw [h]
    | error e => rfl
  show some (r, s'.params) = some (r', t'.params)
  rw [hresult, hparams]

end

end

/-! ## Hooks -/

/-- **A reference is answered at a position of the list**, which is long enough by then. -/
theorem refer_eq (p : ParamTypes) (n : Nat) : refer p n = some (p.refer n) := by
  cases p with
  | absent => rfl
  | declared types =>
    unfold refer ParamTypes.refer
    dsimp only
    split
    · rename_i hout
      rw [← ParamTypes.slot?, ParamTypes.slot?_of_out hout]
    · rename_i hin
      -- the position has been compared with the length just before
      obtain ⟨t, hposition, hslot⟩ := ParamTypes.slot?_of_within hin
      rw [← ParamTypes.slot?, hposition, hslot]
      rfl
  | inferred types limit =>
    unfold refer ParamTypes.refer
    dsimp only
    split
    · rfl
    · rename_i hin
      -- a list that is long enough need not grow
      have hgrown : (if types.length < n then ParamTypes.grow types n else types)
          = ParamTypes.grow types n := by
        split
        · rfl
        · rename_i hlen
          unfold ParamTypes.grow
          rw [Nat.sub_eq_zero_of_le (by omega), List.replicate_zero, List.append_nil]
      have hlen : n - 1 < (ParamTypes.grow types n).length := by
        rw [ParamTypes.length_grow]
        omega
      rw [hgrown, List.getElem?_eq_getElem hlen]
      rfl

/-- **A wanted type is compared or written at a position of the list.** -/
theorem settle_eq (p : ParamTypes) (n : Nat) (target : SqlType) :
    settle p n target = some (p.settle n target) := by
  cases p with
  | absent => rfl
  | declared types =>
    unfold settle ParamTypes.settle
    dsimp only
    split
    · rename_i hout
      rw [← ParamTypes.slot?, ParamTypes.slot?_of_out hout]
    · rename_i hin
      -- the position has been compared with the length just before
      obtain ⟨t, hposition, hslot⟩ := ParamTypes.slot?_of_within hin
      rw [← ParamTypes.slot?, hposition, hslot]
      rfl
  | inferred types limit =>
    unfold settle ParamTypes.settle
    dsimp only
    split
    · rename_i hout
      rw [← ParamTypes.slot?, ParamTypes.slot?_of_out hout]
    · rename_i hin
      obtain ⟨t, hposition, hslot⟩ := ParamTypes.slot?_of_within hin
      rw [← ParamTypes.slot?, hposition, hslot]
      rfl

end Prepared.Positional
