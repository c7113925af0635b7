import Mathlib.Data.List.Nodup
import Prepared.Proofs.Analysis.QueryLevel
import Prepared.Proofs.Analysis.Surrounded
import Prepared.Proofs.Session.Rendering

/-!
# What a wildcard expands to

A wildcard stands for references to the columns of tables, each by the name of its table and its own
name, and these are looked up like any others. As tables of one query level have distinct names, the
detour leads back to the table (`findColumn_of_mem`); but there it leads to the last column of that
name. So nothing is lost, and every column has its name; its type is that of another column if this
one has the same name and comes later (`Binding.expansion`). Tables of the catalog have no such
columns, queries may have.

* `bindStar_run`, `bindStar_table_run`: what `*` and `t.*` stand for in a query level.
* `analyze_star_eq`: how `SELECT * FROM (q) AS t` is described, which takes that an empty query level
  around `q` makes no difference (`bindQuery_surrounded`).

Both are put together in `wildcards_spec`.
-/

namespace Prepared

open Sql BindM Walk

/-! ## Columns by their names -/

/-- A column has a last one of its name. -/
theorem exists_lastColumn? {cs : List Column} {c : Column} (h : c ∈ cs) :
    ∃ i d, lastColumn? c.name cs = some (i, d) := by
  cases hlast : lastColumn? c.name cs with
  | none => exact absurd rfl (lastColumn?_eq_none_iff.1 hlast c h)
  | some found => exact ⟨found.1, found.2, rfl⟩

/-- Where names are distinct, the last column of a name is the only one. -/
theorem lastColumn?_of_nodup {cs : List Column} (hnodup : (cs.map Column.name).Nodup) {i : Nat}
    {c : Column} (h : cs[i]? = some c) : lastColumn? c.name cs = some (i, c) := by
  obtain ⟨j, d, hlast⟩ := exists_lastColumn? (List.mem_of_getElem? h)
  obtain ⟨hd, hname⟩ := lastColumn?_eq_some hlast
  have hplaces : (cs.map Column.name)[j]? = (cs.map Column.name)[i]? := by
    rw [List.getElem?_map, List.getElem?_map, hd, h, Option.map_some, Option.map_some, hname]
  have hj : j < (cs.map Column.name).length := by
    rw [List.length_map]
    exact (List.getElem?_eq_some_iff.1 hd).1
  obtain rfl : j = i := (List.getElem?_inj hj hnodup).1 hplaces
  obtain rfl : c = d := Option.some.inj (h.symm.trans hd)
  exact hlast

/-- Columns of one name have one type. -/
def Column.Unmixed (cs : List Column) : Prop :=
  ∀ c ∈ cs, ∀ d ∈ cs, c.name = d.name → c.type = d.type

instance (cs : List Column) : Decidable (Column.Unmixed cs) :=
  inferInstanceAs (Decidable (∀ c ∈ cs, ∀ d ∈ cs, c.name = d.name → c.type = d.type))

namespace Binding

variable (b : Binding)

/-- What a column of a table is referred to as: the last column of its name. -/
def refer (c : Column) : BoundColumn :=
  let (position, last) := (lastColumn? c.name b.columns).getD (0, c)
  ⟨c.name, last.type, b.index, position, 0⟩

/-- The columns of a table as a wildcard gives them. -/
def expansion : List BoundExpr :=
  b.columns.map fun c => .column (b.refer c)

variable {b}

theorem bind_eq_refer {c : Column} (h : c ∈ b.columns) : b.bind c.name 0 = .ok (b.refer c) := by
  obtain ⟨i, d, hlast⟩ := exists_lastColumn? h
  unfold Binding.bind refer
  rw [hlast]
  rfl

/-- Every column keeps its name. -/
theorem expansion_names : b.expansion.map BoundExpr.name = b.columns.map Column.name := by
  unfold expansion
  rw [List.map_map]
  rfl

theorem refer_type {c : Column} (h : c ∈ b.columns) :
    ∃ d ∈ b.columns, d.name = c.name ∧ (b.refer c).type = d.type := by
  obtain ⟨i, d, hlast⟩ := exists_lastColumn? h
  obtain ⟨hd, hname⟩ := lastColumn?_eq_some hlast
  refine ⟨d, List.mem_of_getElem? hd, hname, ?_⟩
  unfold refer
  rw [hlast]
  rfl

/-- A column is referred to by nothing but its name. -/
theorem refer_type_congr {c d : Column} (hc : c ∈ b.columns) (hname : c.name = d.name) :
    (b.refer c).type = (b.refer d).type := by
  obtain ⟨i, e, hlast⟩ := exists_lastColumn? hc
  unfold refer
  rw [← hname, hlast]
  rfl

/-- **Types are kept** exactly if columns of one name have one type. -/
theorem expansion_types_iff :
    b.expansion.map BoundExpr.type = b.columns.map Column.type ↔ Column.Unmixed b.columns := by
  unfold expansion
  rw [List.map_map, List.map_inj_left]
  constructor
  · intro h c hc d hd hname
    calc c.type = (b.refer c).type := (h c hc).symm
      _ = (b.refer d).type := refer_type_congr hc hname
      _ = d.type := h d hd
  · intro h c hc
    obtain ⟨d, hd, hname, htype⟩ := refer_type hc
    exact htype.trans (h d hd c hc hname)

/-- Where names are distinct, every column is referred to at its own place. -/
theorem expansion_of_nodup (h : (b.columns.map Column.name).Nodup) :
    b.expansion = b.columns.mapIdx fun i c => .column ⟨c.name, c.type, b.index, i, 0⟩ := by
  unfold expansion
  refine List.ext_getElem (by simp) fun i hi hi' => ?_
  have hin : i < b.columns.length := by simpa using hi
  rw [List.getElem_map, List.getElem_mapIdx]
  unfold refer
  rw [lastColumn?_of_nodup h (List.getElem?_eq_getElem hin)]
  rfl

end Binding

/-! ## References to columns of one table -/

/-- A table is found under its name, as the tables of a level have distinct names. -/
theorem Scope.find?_of_mem {scope : Scope} {b : Binding} (h : b ∈ scope.bindings) :
    scope.find? b.name = some b := by
  unfold Scope.find?
  cases hfound : scope.bindings.find? (·.name = b.name) with
  | none =>
    have hother := List.find?_eq_none.1 hfound b h
    simp at hother
  | some b' =>
    have hname : b'.name = b.name := by simpa using List.find?_some hfound
    rw [List.inj_on_of_nodup_map scope.distinct (List.mem_of_find?_eq_some hfound) h hname]

/-- **The way back**: a column that is referred to by the name of its table is looked up there. -/
theorem findColumn_of_mem {scope : Scope} {b : Binding} (h : b ∈ scope.bindings) (column : String)
    (depth : Nat) (outer : List Scope) :
    findColumn (some b.name) column depth (scope :: outer) = b.bind column depth := by
  unfold findColumn Scope.referent?
  simp only [Scope.find?_of_mem h]
  rfl

section

variable {σ : Type} {scope : Scope} {outer : List Scope} {s : WalkState σ}

theorem starColumns_run (hscopes : s.scopes = scope :: outer) {b : Binding} (hb : b ∈ scope.bindings)
    {cs : List Column} (hcs : cs ⊆ b.columns) :
    starColumns b.name cs s = (.ok (cs.map fun c => .column (b.refer c)), s) := by
  induction cs with
  | nil => rfl
  | cons c cs ih =>
    obtain ⟨hc, hrest⟩ := List.cons_subset.1 hcs
    have hfound : resolveColumn (some b.name) c.name s = (.ok (b.refer c), s) := by
      unfold resolveColumn
      rw [hscopes, findColumn_of_mem hb, Binding.bind_eq_refer hc]
    unfold starColumns
    rw [Walk.run_bind, hfound]
    -- to look a column up changes nothing, so the others are looked up in the same state
    dsimp only
    rw [Walk.run_bind, ih hrest]
    rfl

theorem starBindings_run (hscopes : s.scopes = scope :: outer) {bs : List Binding}
    (hbs : bs ⊆ scope.bindings) :
    starBindings bs s = (.ok (bs.flatMap Binding.expansion), s) := by
  induction bs with
  | nil => rfl
  | cons b bs ih =>
    obtain ⟨hb, hrest⟩ := List.cons_subset.1 hbs
    unfold starBindings
    rw [Walk.run_bind, starColumns_run hscopes hb (List.Subset.refl _)]
    dsimp only
    rw [Walk.run_bind, ih hrest]
    rfl

theorem currentScope_run (hscopes : s.scopes = scope :: outer) : currentScope s = (.ok scope, s) := by
  unfold currentScope
  rw [hscopes]

theorem bindStar_run (hscopes : s.scopes = scope :: outer) (hne : scope.bindings ≠ []) :
    bindStar none s = (.ok (scope.bindings.flatMap Binding.expansion), s) := by
  have htables : scope.isEmpty = false := List.isEmpty_eq_false_iff.2 hne
  unfold bindStar
  simp only [Walk.run_bind, currentScope_run hscopes, htables]
  exact starBindings_run hscopes (List.Subset.refl _)

theorem bindStar_table_run (hscopes : s.scopes = scope :: outer) {b : Binding}
    (hb : b ∈ scope.bindings) {table : ObjectName} (htable : tableName table = .ok b.name) :
    bindStar (some table) s = (.ok b.expansion, s) := by
  have hname : ofResult (tableName table) s = (.ok b.name, s) := by
    unfold ofResult
    rw [htable]
  unfold bindStar
  simp only [Walk.run_bind, hname, currentScope_run hscopes, Scope.find?_of_mem hb]
  rw [starBindings_run hscopes (List.cons_subset.2 ⟨hb, List.nil_subset _⟩), List.flatMap_singleton]

end

/-! ## What is added to an output -/

/-- The columns that an item of the output stands for: they are put in front of those of the items
behind it, under the names of the columns of the tables `bs`. -/
structure Sql.SelectItem.Expands {σ : Type} [ParamHook σ] (catalog : Catalog) (item : SelectItem)
    (s : WalkState σ) (bs : List Binding) (columns : List BoundExpr) : Prop where
  added : ∀ items, bindItems catalog (item :: items) s
    = (do return (underOwnNames columns).append (← bindItems catalog items)) s
  names : columns.map BoundExpr.name = bs.flatMap (·.columns.map Column.name)
  /-- The types are those of the columns exactly if no table mixes types under one name. -/
  types : columns.map BoundExpr.type = bs.flatMap (·.columns.map Column.type)
    ↔ ∀ b ∈ bs, Column.Unmixed b.columns
  /-- Where names are distinct, each column is referred to at its own place. -/
  places : (∀ b ∈ bs, (b.columns.map Column.name).Nodup) →
    columns = bs.flatMap fun b =>
      b.columns.mapIdx fun i c => .column ⟨c.name, c.type, b.index, i, 0⟩

theorem flatMap_inj {α β : Type} {f g : α → List β} (h : ∀ a, (f a).length = (g a).length)
    {l : List α} : l.flatMap f = l.flatMap g ↔ ∀ a ∈ l, f a = g a := by
  induction l with
  | nil => simp
  | cons a l ih =>
    rw [List.flatMap_cons, List.flatMap_cons, List.forall_mem_cons, ← ih]
    constructor
    · exact fun happend => List.append_inj happend (h a)
    · rintro ⟨ha, hl⟩
      rw [ha, hl]

section

variable {σ : Type} [ParamHook σ] {catalog : Catalog} {s : WalkState σ}

/-- What the expansions of tables have in common, whichever item asks for them. -/
theorem expands_of_added {item : SelectItem} {bs : List Binding}
    (h : ∀ items, bindItems catalog (item :: items) s
      = (do
        return (underOwnNames (bs.flatMap Binding.expansion)).append (← bindItems catalog items)) s) :
    item.Expands catalog s bs (bs.flatMap Binding.expansion) where
  added := h
  names := by
    rw [List.map_flatMap]
    exact congrArg bs.flatMap (funext fun b => Binding.expansion_names)
  types := by
    rw [List.map_flatMap, flatMap_inj fun b => by simp [Binding.expansion]]
    exact forall₂_congr fun b _ => Binding.expansion_types_iff
  places hnodup := List.flatMap_congr fun b hb => Binding.expansion_of_nodup (hnodup b hb)

theorem wildcard_expands {scope : Scope} {outer : List Scope} (hscopes : s.scopes = scope :: outer)
    (hne : scope.bindings ≠ []) :
    SelectItem.wildcard.Expands catalog s scope.bindings
      (scope.bindings.flatMap Binding.expansion) := by
  refine expands_of_added fun items => ?_
  rw [bindItems, Walk.run_bind, bindStar_run hscopes hne]

theorem qualifiedWildcard_expands {scope : Scope} {outer : List Scope}
    (hscopes : s.scopes = scope :: outer) {b : Binding} (hb : b ∈ scope.bindings)
    {table : ObjectName} (htable : tableName table = .ok b.name) :
    (SelectItem.qualifiedWildcard table).Expands catalog s [b] ([b].flatMap Binding.expansion) := by
  refine expands_of_added fun items => ?_
  rw [bindItems, Walk.run_bind, bindStar_table_run hscopes hb htable, List.flatMap_singleton]

end

/-! ## Tables with repeated names -/

theorem Binding.From.nodup_or_derived {σ : Type} [ParamHook σ] {catalog : Catalog}
    (hbuilt : catalog.Built) {factor : TableRef} {b : Binding} (h : From σ catalog factor b) :
    (b.columns.map Column.name).Nodup
      ∨ ∃ lateral query label, factor = .derived lateral query label := by
  cases h with
  | table index hname htable => exact Or.inl (hbuilt.indexed _ _ htable).distinct
  | derived index hquery => exact Or.inr ⟨_, _, _, rfl⟩

/-- **Only a query has columns of one name** among the factors of a `FROM`. -/
theorem nodup_or_exists_derived {σ : Type} [ParamHook σ] {catalog : Catalog}
    (hbuilt : catalog.Built) {factors : List TableRef} {bs : List Binding}
    (h : List.Forall₂ (Binding.From σ catalog) factors bs) {b : Binding} (hb : b ∈ bs) :
    (b.columns.map Column.name).Nodup
      ∨ ∃ lateral query label, TableRef.derived lateral query label ∈ factors
        ∧ Binding.From σ catalog (.derived lateral query label) b := by
  induction h with
  | nil => cases hb
  | cons hfirst _ ih =>
    rcases List.mem_cons.1 hb with rfl | hb
    · refine (hfirst.nodup_or_derived hbuilt).imp id ?_
      rintro ⟨lateral, query, label, rfl⟩
      exact ⟨lateral, query, label, List.mem_cons_self, hfirst⟩
    · refine (ih hb).imp id ?_
      rintro ⟨lateral, query, label, hfactor, hfrom⟩
      exact ⟨lateral, query, label, List.mem_cons_of_mem _ hfactor, hfrom⟩

/-! ## All columns of a query -/

/-- `SELECT * FROM (q) AS name` -/
def Sql.Body.star (q : Query) (name : Ident) : Body :=
  .select false [.wildcard] [.derived false q (some ⟨name, []⟩)] none [] none
    (.mk none none [] [] [] [] none)

/-- The same as a query, with nothing that orders or cuts its rows. -/
def Sql.Query.star (q : Query) (name : Ident) : Query :=
  .mk false [] (.star q name) [] none none .none none none

section

variable {σ : Type} [ParamHook σ] {catalog : Catalog} {s s' : WalkState σ} {q : Query} (name : Ident)

theorem bindQuery_star_error {e : BindError}
    (h : bindQuery catalog none q { s with scopes := Scope.empty :: s.scopes } = (.error e, s')) :
    bindQuery catalog none (q.star name) s = (.error e, { s' with scopes := s'.scopes.tail }) := by
  unfold Query.star bindQuery BindM.withScope Body.star bindBody bindTables bindTableRef
  simp [Walk.run_bind, h]

/-- The only table of the query level of `q.star name`. -/
def BoundQuery.asTable (output : BoundQuery) (name : Ident) (index : Nat) : Binding :=
  ⟨name.folded, index, List.zipWith Column.mk output.names output.types⟩

/-- The query level whose only table is `b`. -/
def Scope.only (b : Binding) : Scope :=
  ⟨[b], List.nodup_singleton _⟩

theorem bindTables_derived {outer : List Scope} {output : BoundQuery}
    (hscopes : s.scopes = Scope.empty :: outer)
    (h : bindQuery catalog none q s = (.ok output, s')) :
    bindTables catalog [.derived false q (some ⟨name, []⟩)] s
      = (.ok (), ⟨Scope.only (output.asTable name (s'.tables + 1)) :: outer, s'.params,
        s'.tables + 1⟩) := by
  have hkept : s'.scopes = Scope.empty :: outer := hscopes ▸ scopes_of_keeping
    (((Frame.levels σ).stepRelation catalog).bindQuery_related none q) h
  have hadd (b : Binding) : Scope.empty.add b = .ok (Scope.only b) := rfl
  unfold bindTables bindTableRef
  simp only [Walk.run_bind, h, bindDerived, newTable, addBinding, hkept, hadd]
  unfold bindTables
  rfl

/-- All columns of the only table of a query level. -/
theorem bindBody_wildcard {tables : List TableRef} {extras : SelectExtras} {b : Binding}
    {outer : List Scope} {level : WalkState σ} (hlevel : level.scopes = Scope.only b :: outer)
    (h : bindTables catalog tables s = (.ok (), level)) :
    bindBody catalog false none (.select false [.wildcard] tables none [] none extras) s
      = (.ok (underOwnNames b.expansion), level) := by
  -- nothing but the wildcard says anything about the output once the tables are there
  have hstar : bindStar none level = (.ok b.expansion, level) := by
    rw [bindStar_run hlevel (List.cons_ne_nil _ _)]
    simp only [Scope.only, List.flatMap_singleton]
  have hitems : bindItems catalog [.wildcard] level = (.ok (underOwnNames b.expansion), level) := by
    have hnil : bindItems catalog [] level = (.ok ⟨[], []⟩, level) := by
      unfold bindItems
      rfl
    rw [bindItems, Walk.run_bind, hstar]
    dsimp only
    rw [Walk.run_bind, hnil]
    simp only [BoundQuery.append, underOwnNames, List.append_nil]
    rfl
  have hcondition : bindCondition catalog none level = (.ok (), level) := by
    unfold bindCondition
    rfl
  have hgroups : bindExprs catalog [] level = (.ok [], level) := by
    unfold bindExprs
    rfl
  unfold bindBody
  simp only [Bool.false_eq_true, if_false, id_eq, Walk.run_bind, h, hcondition, hgroups, hitems]
  rfl

theorem bindBody_star {outer : List Scope} {output : BoundQuery}
    (hscopes : s.scopes = Scope.empty :: outer)
    (h : bindQuery catalog none q s = (.ok output, s')) :
    bindBody catalog false none (.star q name) s
      = (.ok (underOwnNames (output.asTable name (s'.tables + 1)).expansion),
        ⟨Scope.only (output.asTable name (s'.tables + 1)) :: outer, s'.params, s'.tables + 1⟩) :=
  bindBody_wildcard rfl (bindTables_derived name hscopes h)

/-- A query with nothing that orders or cuts its rows has the output of its body. -/
theorem bindQuery_of_bindBody {body : Body} {output : BoundQuery} {level : WalkState σ}
    (h : bindBody catalog false none body { s with scopes := Scope.empty :: s.scopes }
      = (.ok output, level)) :
    bindQuery catalog none (.mk false [] body [] none none .none none none) s
      = (.ok output, { level with scopes := level.scopes.tail }) := by
  unfold bindQuery BindM.withScope
  simp [Walk.run_bind, h, bindOrder, bindCount]
  rfl

theorem bindQuery_star {output : BoundQuery}
    (h : bindQuery catalog none q { s with scopes := Scope.empty :: s.scopes } = (.ok output, s')) :
    bindQuery catalog none (q.star name) s
      = (.ok (underOwnNames (output.asTable name (s'.tables + 1)).expansion),
        ⟨s.scopes, s'.params, s'.tables + 1⟩) :=
  bindQuery_of_bindBody (bindBody_star name rfl h)

/-- A query as a statement: its columns, once all parameters have types. -/
theorem analyze_query (p : σ) (q : Query) :
    analyze catalog p (.query q)
      = match bindQuery catalog none q (.initial p) with
        | (.ok output, s) =>
          ((ParamHook.check s.params).map fun _ => ⟨output.names, output.types⟩, s.params)
        | (.error e, s) => (.error e, s.params) := by
  unfold analyze analyzeStatement bindStatement
  simp only [Walk.run_bind]
  rcases bindQuery catalog none q (.initial p) with ⟨e | output, s⟩
  · rfl
  · -- only the check of the parameters is left
    have hpure (d : Description) : (pure d : Walk σ Description) s = (.ok d, s) := rfl
    simp only [hpure, checkParams]
    cases ParamHook.check s.params with
    | error e => rfl
    | ok u => rfl

/-- The columns of a statement. -/
def Description.columns (d : Description) : List Column :=
  List.zipWith Column.mk d.names d.types

theorem BoundQuery.Named.columns_asTable {output : BoundQuery} (h : output.Named)
    (index : Nat) :
    (output.asTable name index).columns.map Column.name = output.names
      ∧ (output.asTable name index).columns.map Column.type = output.types := by
  have hlength : output.names.length = output.types.length := by
    rw [BoundQuery.types, List.length_map]
    exact h
  constructor
  · refine List.ext_getElem (by simp [asTable, hlength]) fun i hi hi' => ?_
    simp [asTable]
  · refine List.ext_getElem (by simp [asTable, hlength]) fun i hi hi' => ?_
    simp [asTable]

/-- **All columns of a query in a `FROM`** are described like the query itself: it fails as the query
does, or there are the same names, and the same types exactly if no name has two of them. -/
theorem analyze_star_eq (p p' : σ) :
    (∀ e, analyze catalog p (.query q) = (.error e, p') →
        analyze catalog p (.query (q.star name)) = (.error e, p'))
      ∧ ∀ d, analyze catalog p (.query q) = (.ok d, p') →
        ∃ types, analyze catalog p (.query (q.star name)) = (.ok ⟨d.names, types⟩, p')
          ∧ (types = d.types ↔ Column.Unmixed d.columns) := by
  -- in the place of a table `q` has the level of the other query around it, which is still empty
  have hsurrounded := bindQuery_surrounded catalog none q (WalkState.initial p)
  rw [analyze_query, analyze_query]
  rcases hrun : bindQuery catalog none q (.initial p) with ⟨e | output, s⟩
  · -- the query fails, and so does the one around it
    rw [hrun] at hsurrounded
    rw [bindQuery_star_error name hsurrounded]
    exact ⟨fun e' h => h, nofun⟩
  · rw [hrun] at hsurrounded
    rw [bindQuery_star name hsurrounded]
    have hnamed : output.Named := bindQuery_named catalog none q _ output s hrun
    obtain ⟨hnames, htypes⟩ := hnamed.columns_asTable name (s.tables + 1)
    dsimp only [WalkState.surrounded]
    cases hcheck : ParamHook.check s.params with
    | error e => exact ⟨fun e' h => h, nofun⟩
    | ok u =>
      refine ⟨nofun, fun d h => ?_⟩
      cases h
      refine ⟨(output.asTable name (s.tables + 1)).expansion.map BoundExpr.type, ?_, ?_⟩
      · exact congrArg
          (fun names => ((Except.ok ⟨names, _⟩ : Except BindError Description), s.params))
          (Binding.expansion_names.trans hnames)
      · have hiff := Binding.expansion_types_iff (b := output.asTable name (s.tables + 1))
        rwa [htypes] at hiff

end

/-- **What wildcards stand for.** The tables of a query level are those of its `FROM`, in order, and
only queries among them have columns of one name. From anywhere in the level, `*` puts the columns of
all of them into the output and `t.*` those of `t`, with all their names, and with all their types
exactly if no table has columns of one name and of different types. In particular the columns of a
query are those of `SELECT *` over it, but for their types if one name has several. -/
theorem wildcards_spec (σ : Type) [ParamHook σ] (catalog : Catalog) :
    (∀ (ts : List TableRef) (s s' : WalkState σ) (outer : List Scope),
        s.scopes = Scope.empty :: outer → bindTables catalog ts s = (.ok (), s') →
        ∃ scope, s'.scopes = scope :: outer
          ∧ List.Forall₂ (Binding.From σ catalog) (ts.flatMap TableRef.factors) scope.bindings
          ∧ (catalog.Built → ∀ b ∈ scope.bindings, (b.columns.map Column.name).Nodup
            ∨ ∃ lateral query label,
              TableRef.derived lateral query label ∈ ts.flatMap TableRef.factors
                ∧ Binding.From σ catalog (.derived lateral query label) b)
          ∧ ∀ t : WalkState σ, t.scopes = s'.scopes →
            (ts ≠ [] → ∃ columns, SelectItem.wildcard.Expands catalog t scope.bindings columns)
              ∧ ∀ b ∈ scope.bindings, ∀ table, tableName table = .ok b.name →
                ∃ columns, (SelectItem.qualifiedWildcard table).Expands catalog t [b] columns)
      ∧ ∀ (q : Query) (name : Ident) (p p' : σ),
        (∀ e, analyze catalog p (.query q) = (.error e, p') →
            analyze catalog p (.query (q.star name)) = (.error e, p'))
          ∧ ∀ d, analyze catalog p (.query q) = (.ok d, p') →
            ∃ types, analyze catalog p (.query (q.star name)) = (.ok ⟨d.names, types⟩, p')
              ∧ (types = d.types ↔ Column.Unmixed d.columns) := by
  refine ⟨fun ts s s' outer hscopes hrun => ?_, fun q name p p' => analyze_star_eq name p p'⟩
  -- everything about the level is read off what `FROM` has put into it
  obtain ⟨scope, hscopes', hfrom⟩ := level_of_bindTables hscopes hrun
  refine ⟨scope, hscopes', hfrom, fun hbuilt b hb => nodup_or_exists_derived hbuilt hfrom hb,
    fun t ht => ⟨fun hne => ?_, ?_⟩⟩
  · have htables : scope.bindings ≠ [] := by
      obtain ⟨first, rest, rfl⟩ := List.exists_cons_of_ne_nil hne
      have hfactors : (first :: rest).flatMap TableRef.factors ≠ [] := by
        rw [List.flatMap_cons]
        exact List.append_ne_nil_of_left_ne_nil first.factors_ne_nil _
      intro hnone
      rw [hnone, List.forall₂_nil_right_iff] at hfrom
      exact hfactors hfrom
    exact ⟨_, wildcard_expands (ht.trans hscopes') htables⟩
  · exact fun b hb table htable => ⟨_, qualifiedWildcard_expands (ht.trans hscopes') hb htable⟩

/-- `SELECT 1 AS a, 'x' AS second` -/
def Sql.Query.selectPair (second : String) : Query :=
  .mk false []
    (.select false
      [.named (.literal (.number "1" false)) ⟨"a", none⟩,
        .named (.literal (.singleQuoted "x")) ⟨second, none⟩]
      [] none [] none (.mk none none [] [] [] [] none))
    [] none none .none none none

/-- `t CROSS JOIN (SELECT 1 AS a, 'x' AS c) AS x` -/
def Sql.TableRef.crossed : TableRef :=
  .join (.table [⟨"t", none⟩] false [] none []) .cross
    (.derived false (.selectPair "c") (some ⟨⟨"x", none⟩, []⟩)) .none none

/-- A table and a query, joined: four columns, two of which have one name and one type. -/
theorem wildcards_spec_crossed :
    ∃ s : BindState, bindTables .withPair [.crossed] ⟨[.empty], .absent, 0⟩ = (.ok (), s)
      ∧ ∃ columns bs, SelectItem.wildcard.Expands .withPair s bs columns
        ∧ columns.map BoundExpr.name = ["a", "b", "a", "c"]
        ∧ columns.map BoundExpr.type = [.int, .varchar, .int, .varchar] := by
  refine ⟨_, rfl, ?_⟩
  obtain ⟨scope, hscopes, -, -, h⟩ :=
    (wildcards_spec ParamTypes .withPair).1 [.crossed] ⟨[.empty], .absent, 0⟩ _ [] rfl rfl
  obtain ⟨columns, hcolumns⟩ := (h _ rfl).1 (List.cons_ne_nil _ _)
  obtain ⟨rfl, -⟩ := List.cons.inj hscopes
  refine ⟨columns, _, hcolumns, hcolumns.names.trans rfl, (hcolumns.types.2 ?_).trans rfl⟩
  decide

/-- A query whose two columns have one name: both are described by the type of the second. -/
theorem analyze_star_selectPair :
    analyze .empty ParamTypes.absent (.query (.selectPair "a"))
        = (.ok ⟨["a", "a"], [.int, .varchar]⟩, .absent)
      ∧ analyze .empty ParamTypes.absent (.query (Query.star (.selectPair "a") ⟨"x", none⟩))
        = (.ok ⟨["a", "a"], [.varchar, .varchar]⟩, .absent)
      ∧ ¬∀ (catalog : Catalog) (p p' : ParamTypes) (q : Query) (name : Ident) (d : Description),
        analyze catalog p (.query q) = (.ok d, p') →
          analyze catalog p (.query (q.star name)) = (.ok d, p') := by
  have hquery : analyze .empty ParamTypes.absent (.query (.selectPair "a"))
      = (.ok ⟨["a", "a"], [.int, .varchar]⟩, .absent) := rfl
  have hstar : analyze .empty ParamTypes.absent
      (.query (Query.star (.selectPair "a") ⟨"x", none⟩))
      = (.ok ⟨["a", "a"], [.varchar, .varchar]⟩, .absent) := rfl
  refine ⟨hquery, hstar, fun hclaim => ?_⟩
  have hsame := hclaim .empty .absent .absent _ ⟨"x", none⟩ _ hquery
  rw [hstar] at hsame
  cases hsame

end Prepared
