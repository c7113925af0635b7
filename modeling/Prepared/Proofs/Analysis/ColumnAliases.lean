import Prepared.Proofs.Analysis.TableNumbers
import Prepared.Proofs.Analysis.Wildcard

/-!
# Names for columns

In a `FROM`, a name for a table may be followed by names for its first columns. Behind a query they
rename the columns (`renamed_names`); behind a table of the catalog they count for nothing. So
`t AS x (c)` and `(SELECT * FROM t) AS x (c)`, which put the same columns in sight under the same
name of a table, do so under the same names of columns only if `c` is what the first column is called
already (`bindTableRef_allOf`).
-/

namespace Prepared

open Sql BindM Walk

/-- `SELECT * FROM name` -/
def Sql.Query.allOf (name : ObjectName) : Query :=
  .mk false []
    (.select false [.wildcard] [.table name false [] none []] none [] none
      (.mk none none [] [] [] [] none))
    [] none none .none none none

/-! ## Renaming -/

section

variable {names : List String} {types : List SqlType} (aliases : List Ident)

/-- All columns are kept, with their types. -/
theorem renamed_types (h : names.length = types.length) :
    (renamed names types aliases).map Column.type = types := by
  refine List.ext_getElem ?_ fun i hi hi' => ?_
  · simp [renamed]
    omega
  · simp [renamed]

/-- The first columns have the new names, and the others have theirs. -/
theorem renamed_names (h : names.length = types.length) :
    (renamed names types aliases).map Column.name
      = (aliases.map Ident.folded).take names.length ++ names.drop aliases.length := by
  have htake : (renamed names types aliases).map Column.name
      = (aliases.map Ident.folded ++ names.drop aliases.length).take types.length := by
    unfold renamed
    generalize aliases.map Ident.folded ++ names.drop aliases.length = all
    refine List.ext_getElem ?_ fun i hi hi' => ?_
    · simp [Nat.min_comm]
    · simp
  have hrest : (names.drop aliases.length).take (names.length - aliases.length)
      = names.drop aliases.length := List.take_of_length_le (by simp)
  rw [htake, ← h, List.take_append, List.length_map, hrest]

/-- Columns are determined by their names and types. -/
theorem columns_ext {columns columns' : List Column}
    (hnames : columns.map Column.name = columns'.map Column.name)
    (htypes : columns.map Column.type = columns'.map Column.type) : columns = columns' := by
  rw [← Positional.zipWith_names_types columns, hnames, htypes, Positional.zipWith_names_types]

/-- **Renaming changes nothing** exactly if the new names are those of the first columns already. -/
theorem renamed_eq_iff (columns : List Column) :
    renamed (columns.map Column.name) (columns.map Column.type) aliases = columns
      ↔ (aliases.map Ident.folded).take columns.length <+: columns.map Column.name := by
  have hlength : (columns.map Column.name).length = (columns.map Column.type).length := by simp
  have hnames := renamed_names aliases hlength
  have htypes := renamed_types aliases hlength
  rw [List.length_map] at hnames
  constructor
  · intro h
    rw [h] at hnames
    exact ⟨_, hnames.symm⟩
  · intro h
    refine columns_ext (hnames.trans ?_) htypes
    rw [List.prefix_iff_eq_take.1 h, List.length_take, List.length_map]
    rcases Nat.le_total aliases.length columns.length with hle | hle
    · rw [Nat.min_eq_right hle, List.take_append_drop]
    · rw [Nat.min_eq_left hle, List.take_of_length_le (by simp), List.drop_eq_nil_of_le (by simpa),
        List.append_nil]

end

/-! ## A table and all of its columns -/

section

variable {σ : Type} [ParamHook σ] {catalog : Catalog} {name : ObjectName} {plain : String}
  {table : Table} (hname : tableName name = .ok plain) (htable : catalog.table plain = .ok table)

include hname htable

omit [ParamHook σ] in
theorem bindTable_run (label : Option TableAlias) (s : WalkState σ) :
    bindTable catalog name label s
      = addBinding ⟨(label.map (·.name.folded)).getD plain, s.tables + 1, table.columns⟩
        { s with tables := s.tables + 1 } := by
  unfold bindTable
  rw [hname, Walk.run_bind]
  dsimp only [ofResult]
  rw [htable]
  rfl

/-- **All columns of a table** of the catalog: their names are distinct, so each of them is found. -/
theorem bindQuery_allOf (hbuilt : catalog.Built) (s : WalkState σ) :
    ∃ q, bindQuery catalog none (.allOf name) s = (.ok q, { s with tables := s.tables + 1 })
      ∧ q.names = table.columns.map Column.name ∧ q.types = table.columns.map Column.type := by
  let b : Binding := ⟨plain, s.tables + 1, table.columns⟩
  let level : WalkState σ := ⟨Scope.only b :: s.scopes, s.params, s.tables + 1⟩
  have htables : bindTables catalog [.table name false [] none []]
      { s with scopes := Scope.empty :: s.scopes } = (.ok (), level) := by
    unfold bindTables bindTableRef
    rw [Walk.run_bind, bindTable_run hname htable]
    unfold bindTables
    rfl
  have hnodup : (b.columns.map Column.name).Nodup := (hbuilt.indexed _ _ htable).distinct
  have hunmixed : Column.Unmixed b.columns := fun c hc d hd hsame =>
    congrArg Column.type (List.inj_on_of_nodup_map hnodup hc hd hsame)
  have hnames : b.expansion.map BoundExpr.name = b.columns.map Column.name := Binding.expansion_names
  have htypes : b.expansion.map BoundExpr.type = b.columns.map Column.type :=
    Binding.expansion_types_iff.2 hunmixed
  exact ⟨_, bindQuery_of_bindBody (bindBody_wildcard rfl htables), hnames, htypes⟩

end

/-- **A table of the catalog, and all of its columns as a query**, both under the name `x` and with
names `c1, .., ck` for columns: `t AS x (c1, .., ck)` and `(SELECT * FROM t) AS x (c1, .., ck)`. Each
adds a table called `x` to the query level, or both are refused because there is one. The types of
the columns are the same. But the query has the names `c1, .., ck` for its first columns, while the
table has its own for all, so the two are the same only if `c1, .., ck` are the names that the first
columns have anyway. -/
theorem bindTableRef_allOf {σ : Type} [ParamHook σ] {catalog : Catalog} (hbuilt : catalog.Built)
    {name : ObjectName} {plain : String} {table : Table} (hname : tableName name = .ok plain)
    (htable : catalog.table plain = .ok table) (label : TableAlias) (hasArgs : Bool)
    (args hints : List Expr) (lateral : Bool) (s : WalkState σ) :
    ∃ columns : List Column,
      bindTableRef catalog (.table name hasArgs args (some label) hints) s
          = addBinding ⟨label.name.folded, s.tables + 1, table.columns⟩
            { s with tables := s.tables + 1 }
        ∧ bindTableRef catalog (.derived lateral (.allOf name) (some label)) s
          = addBinding ⟨label.name.folded, s.tables + 2, columns⟩ { s with tables := s.tables + 2 }
        ∧ (bindTableRef catalog (.table name hasArgs args (some label) hints) s).1
          = (bindTableRef catalog (.derived lateral (.allOf name) (some label)) s).1
        ∧ columns.map Column.type = table.columns.map Column.type
        ∧ columns.map Column.name = (label.columns.map Ident.folded).take table.columns.length
          ++ (table.columns.map Column.name).drop label.columns.length
        ∧ (columns = table.columns ↔ (label.columns.map Ident.folded).take table.columns.length
          <+: table.columns.map Column.name) := by
  obtain ⟨q, hquery, hnames, htypes⟩ := bindQuery_allOf hname htable hbuilt s
  have hlength : (table.columns.map Column.name).length
      = (table.columns.map Column.type).length := by simp
  have htaken := renamed_names label.columns hlength
  rw [List.length_map] at htaken
  have hplain : bindTableRef catalog (.table name hasArgs args (some label) hints) s
      = addBinding ⟨label.name.folded, s.tables + 1, table.columns⟩
        { s with tables := s.tables + 1 } := by
    unfold bindTableRef
    exact bindTable_run hname htable (some label) s
  have hderived : bindTableRef catalog (.derived lateral (.allOf name) (some label)) s
      = addBinding ⟨label.name.folded, s.tables + 2,
          renamed (table.columns.map Column.name) (table.columns.map Column.type) label.columns⟩
        { s with tables := s.tables + 2 } := by
    unfold bindTableRef
    dsimp only
    rw [Walk.run_bind, hquery, ← hnames, ← htypes]
    rfl
  refine ⟨_, hplain, hderived, ?_, renamed_types label.columns hlength, htaken,
    renamed_eq_iff label.columns table.columns⟩
  rw [hplain, hderived]
  unfold addBinding
  cases s.scopes with
  | nil => rfl
  | cons scope outer =>
    -- whether the name is taken is all that can stop either of them
    dsimp only
    unfold Scope.add
    by_cases htaken : label.name.folded ∈ scope.bindings.map (·.name)
    · rw [dif_pos htaken, dif_pos htaken]
    · rw [dif_neg htaken, dif_neg htaken]

/-- `x (c)` -/
def Sql.TableAlias.renaming : TableAlias :=
  ⟨⟨"x", none⟩, [⟨"c", none⟩]⟩

theorem Catalog.withPair_built : Catalog.withPair.Built := by
  intro entry hentry
  rw [List.mem_singleton.1 hentry]
  rfl

/-- `t AS x (c)` has the columns `a` and `b`, and `(SELECT * FROM t) AS x (c)` has `c` and `b`. -/
theorem bindTableRef_allOf_withPair :
    ∃ columns : List Column,
      bindTableRef .withPair (.table [⟨"t", none⟩] false [] (some .renaming) [])
          (⟨[.empty], .absent, 0⟩ : BindState)
        = addBinding ⟨"x", 1, [⟨"a", .int⟩, ⟨"b", .varchar⟩]⟩ ⟨[.empty], .absent, 1⟩
      ∧ bindTableRef .withPair (.derived false (.allOf [⟨"t", none⟩]) (some .renaming))
          (⟨[.empty], .absent, 0⟩ : BindState)
        = addBinding ⟨"x", 2, columns⟩ ⟨[.empty], .absent, 2⟩
      ∧ columns.map Column.name = ["c", "b"] := by
  obtain ⟨columns, hplain, hderived, -, -, hnames, -⟩ := @bindTableRef_allOf ParamTypes _ .withPair
    Catalog.withPair_built [⟨"t", none⟩] "t" _ rfl rfl .renaming false [] [] false
    ⟨[.empty], .absent, 0⟩
  exact ⟨columns, hplain, hderived, hnames⟩

/-- A new name for the first of two columns is in sight behind a query, but not behind a table. -/
theorem not_bindTableRef_alike :
    ¬∀ (catalog : Catalog) (name : ObjectName) (plain : String) (table : Table) (label : TableAlias)
      (s t t' : BindState), catalog.Built → tableName name = .ok plain →
      catalog.table plain = .ok table → (label.columns.map Ident.folded).Nodup →
      label.columns.length ≤ table.columns.length →
      (∀ c ∈ table.columns.drop label.columns.length, c.name ∉ label.columns.map Ident.folded) →
      bindTableRef catalog (.table name false [] (some label) []) s = (.ok (), t) →
      bindTableRef catalog (.derived false (.allOf name) (some label)) s = (.ok (), t') →
      t.Alike t' := by
  intro hclaim
  have halike := hclaim .withPair [⟨"t", none⟩] "t" _ .renaming ⟨[.empty], .absent, 0⟩ _ _
    Catalog.withPair_built rfl rfl (by decide) (by decide) (by decide) rfl rfl
  cases halike.scopes with
  | cons hscope _ =>
    cases hscope with
    | cons hbinding _ => exact absurd hbinding.columns (by decide)

end Prepared
