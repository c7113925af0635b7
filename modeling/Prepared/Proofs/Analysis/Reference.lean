import Prepared.Proofs.Analysis.Described
import Prepared.Proofs.Analysis.Wildcard

/-!
# Which column a reference means

A reference may mean a column of the table that it names, or of any table of a query level
(`Scope.candidates`). It is bound at a level exactly if one of these tables has a column of its name:
if several have, it is refused (`findColumn_of_several`), and if none has, the levels further out are
asked (`depth_lt_of_none`). What is counted are tables, not columns. A table with several columns of
the name counts as one, and the last of them is taken (`Binding.bind`); only a query in a `FROM` can
be such a table.

The main result is `references_spec`.
-/

namespace Prepared

open Sql BindM Walk

/-! ## Tables and columns that a reference may mean -/

/-- The tables of a query level that a reference may mean: the one that it names, or all of them. -/
def Scope.candidates (scope : Scope) : Option String → List Binding
  | some table => (scope.find? table).toList
  | none => scope.bindings

/-- Those of them that have a column called `column`. -/
def Scope.bearing (scope : Scope) (table : Option String) (column : String) : List Binding :=
  (scope.candidates table).filter (·.hasColumn column)

/-- The columns of tables that are called `column`. -/
def bearers (column : String) (bs : List Binding) : List Column :=
  bs.flatMap fun b => b.columns.filter (·.name = column)

namespace Binding

/-- Several columns of the table are called `column`. -/
def Repeats (b : Binding) (column : String) : Prop :=
  2 ≤ (b.columns.filter (·.name = column)).length

instance (b : Binding) (column : String) : Decidable (b.Repeats column) :=
  inferInstanceAs (Decidable (2 ≤ (b.columns.filter (·.name = column)).length))

theorem hasColumn_eq_true_iff {b : Binding} {column : String} :
    b.hasColumn column = true ↔ b.columns.filter (·.name = column) ≠ [] := by
  unfold hasColumn position?
  rw [Option.isSome_map, Option.isSome_iff_ne_none, not_iff_not, lastColumn?_eq_none_iff,
    List.filter_eq_nil_iff]
  simp

/-- A table gives a column if it has one of the name. -/
theorem of_bind_eq_ok {b : Binding} {column : String} {depth : Nat} {found : BoundColumn}
    (h : b.bind column depth = .ok found) : b.hasColumn column = true ∧ found.depth = depth := by
  unfold Binding.bind at h
  unfold hasColumn position?
  cases hlast : lastColumn? column b.columns with
  | none =>
    rw [hlast] at h
    cases h
  | some last =>
    rw [hlast] at h
    cases h
    exact ⟨rfl, rfl⟩

theorem exists_bind {b : Binding} {column : String} (h : b.hasColumn column = true)
    (depth : Nat) : ∃ found, b.bind column depth = .ok found := by
  unfold hasColumn position? at h
  unfold Binding.bind
  cases hlast : lastColumn? column b.columns with
  | none =>
    rw [hlast] at h
    cases h
  | some last => exact ⟨_, rfl⟩

/-- Where names are distinct, no name is repeated. -/
theorem not_repeats_of_nodup {b : Binding} (h : (b.columns.map Column.name).Nodup)
    (column : String) : ¬b.Repeats column := by
  have hcount := List.nodup_iff_count_le_one.1 h column
  rw [List.count, List.countP_map, List.countP_eq_length_filter] at hcount
  exact fun htwo => absurd (Nat.le_trans htwo hcount) (by decide)

end Binding

/-- The columns of a name are those of the tables that have one. -/
theorem bearers_filter (column : String) (bs : List Binding) :
    bearers column (bs.filter (·.hasColumn column)) = bearers column bs := by
  induction bs with
  | nil => rfl
  | cons b bs ih =>
    unfold bearers at *
    by_cases hcolumn : b.hasColumn column = true
    · rw [List.filter_cons, if_pos hcolumn, List.flatMap_cons, List.flatMap_cons, ih]
    · have hnone := not_not.1 (mt Binding.hasColumn_eq_true_iff.2 hcolumn)
      rw [List.filter_cons, if_neg hcolumn, List.flatMap_cons, hnone, List.nil_append, ih]

/-- The columns of a name, if one table has any. -/
theorem bearers_of_one {scope : Scope} {table : Option String} {column : String} {b : Binding}
    (h : scope.bearing table column = [b]) :
    bearers column (scope.candidates table) = b.columns.filter (·.name = column) := by
  unfold Scope.bearing at h
  rw [← bearers_filter, h, bearers, List.flatMap_singleton]

/-- Several columns of a name are those of one table that repeats it, or of several tables. -/
theorem repeats_or_several {scope : Scope} {table : Option String} {column : String}
    (h : 2 ≤ (bearers column (scope.candidates table)).length) :
    (∃ b, scope.bearing table column = [b] ∧ b.Repeats column)
      ∨ 2 ≤ (scope.bearing table column).length := by
  match hbearing : scope.bearing table column with
  | [] =>
    rw [← bearers_filter, show (scope.candidates table).filter _ = [] from hbearing] at h
    cases h
  | [b] =>
    rw [bearers_of_one hbearing] at h
    exact Or.inl ⟨b, rfl, h⟩
  | b :: c :: rest => exact Or.inr (Nat.le_add_left 2 rest.length)

/-! ## Looking a column up -/

section

variable {scope : Scope} {outer : List Scope} {table : Option String} {column : String} {depth : Nat}

theorem mem_candidates_of_referent? {b : Binding}
    (h : scope.referent? table column = .ok (some b)) : b ∈ scope.candidates table := by
  cases table with
  | none => exact mem_of_referent? h
  | some table => exact Option.mem_toList.2 (Except.ok.inj h)

/-- If one table has a column of the name, it is meant. -/
theorem referent?_of_one {b : Binding} (h : scope.bearing table column = [b]) :
    scope.referent? table column = .ok (some b) := by
  cases table with
  | none =>
    have hone : scope.bindings.filter (·.hasColumn column) = [b] := h
    show scope.matching? column = _
    unfold Scope.matching?
    rw [hone]
  | some table =>
    have hmem : b ∈ scope.bearing (some table) column := h ▸ List.mem_singleton_self b
    exact congrArg Except.ok (Option.mem_toList.1 (List.mem_filter.1 hmem).1)

/-- If several tables have a column of the name, none is meant. -/
theorem referent?_of_several (h : 2 ≤ (scope.bearing table column).length) :
    scope.referent? table column = .error (.ambiguousColumn column) := by
  cases table with
  | none =>
    have htwo : 2 ≤ (scope.bindings.filter (·.hasColumn column)).length := h
    show scope.matching? column = _
    unfold Scope.matching?
    split
    · rename_i hnone
      rw [hnone] at htwo
      exact absurd htwo (by decide)
    · rename_i b hone
      rw [hone, List.length_singleton] at htwo
      exact absurd htwo (by decide)
    · rfl
  | some table =>
    -- a name is that of one table at most
    have hle : (scope.candidates (some table)).length ≤ 1 := by
      unfold Scope.candidates
      cases scope.find? table <;> simp
    have := List.length_filter_le (·.hasColumn column) (scope.candidates (some table))
    unfold Scope.bearing at h
    omega

/-- **One table has a column of the name.** -/
theorem findColumn_of_one {b : Binding} (h : scope.bearing table column = [b]) :
    findColumn table column depth (scope :: outer) = b.bind column depth := by
  unfold findColumn
  rw [referent?_of_one h]
  rfl

/-- **Several tables have a column of the name.** -/
theorem findColumn_of_several (h : 2 ≤ (scope.bearing table column).length) :
    findColumn table column depth (scope :: outer) = .error (.ambiguousColumn column) := by
  unfold findColumn
  rw [referent?_of_several h]
  rfl

theorem le_depth {scopes : List Scope} {found : BoundColumn}
    (h : findColumn table column depth scopes = .ok found) : depth ≤ found.depth := by
  induction scopes generalizing depth with
  | nil => cases h
  | cons scope outer ih =>
    rcases findColumn_cons_eq_ok h with ⟨b, -, hbind⟩ | ⟨-, houter⟩
    · exact Nat.le_of_eq (Binding.of_bind_eq_ok hbind).2.symm
    · exact Nat.le_of_succ_le (ih houter)

/-- **No table has a column of the name**: it can only be found further out. -/
theorem depth_lt_of_none (h : scope.bearing table column = []) {found : BoundColumn}
    (hfound : findColumn table column depth (scope :: outer) = .ok found) :
    depth < found.depth := by
  rcases findColumn_cons_eq_ok hfound with ⟨b, hreferent, hbind⟩ | ⟨-, houter⟩
  · have hb : b ∈ scope.bearing table column := List.mem_filter.2
      ⟨mem_candidates_of_referent? hreferent, (Binding.of_bind_eq_ok hbind).1⟩
    rw [h] at hb
    cases hb
  · exact le_depth houter

/-- What is found at a level was not found further in. -/
theorem findColumn_of_depth {inner scopes : List Scope} {found : BoundColumn}
    (h : findColumn table column depth (inner ++ scopes) = .ok found)
    (hdepth : depth + inner.length ≤ found.depth) :
    findColumn table column (depth + inner.length) scopes = .ok found := by
  induction inner generalizing depth with
  | nil => exact h
  | cons scope inner ih =>
    rw [List.length_cons] at hdepth ⊢
    rw [List.cons_append] at h
    rcases findColumn_cons_eq_ok h with ⟨b, -, hbind⟩ | ⟨-, houter⟩
    · have := (Binding.of_bind_eq_ok hbind).2
      omega
    · have hnext := ih houter (by omega)
      rwa [show depth + (inner.length + 1) = depth + 1 + inner.length by omega]

/-- **At which level a column is found**: at one where exactly one table has a column of the name. -/
theorem one_of_findColumn {inner : List Scope} {found : BoundColumn}
    (h : findColumn table column 0 (inner ++ scope :: outer) = .ok found)
    (hdepth : found.depth = inner.length) :
    ∃ b, scope.bearing table column = [b] ∧ b.bind column inner.length = .ok found := by
  have hlevel := findColumn_of_depth h (by omega)
  rw [Nat.zero_add] at hlevel
  match hbearing : scope.bearing table column with
  | [] =>
    have := depth_lt_of_none hbearing hlevel
    omega
  | [b] => exact ⟨b, rfl, (findColumn_of_one hbearing).symm.trans hlevel⟩
  | b :: c :: rest =>
    have hseveral : 2 ≤ (scope.bearing table column).length := by
      rw [hbearing]
      exact Nat.le_add_left 2 rest.length
    rw [findColumn_of_several hseveral] at hlevel
    cases hlevel

/-- If several tables have a column of the name, it is found further in or not at all. -/
theorem depth_lt_of_several {inner : List Scope} {found : BoundColumn}
    (hseveral : 2 ≤ (scope.bearing table column).length)
    (h : findColumn table column 0 (inner ++ scope :: outer) = .ok found) :
    found.depth < inner.length := by
  refine Nat.lt_of_not_le fun hdepth => ?_
  have hlevel := findColumn_of_depth h (by omega)
  rw [findColumn_of_several hseveral] at hlevel
  cases hlevel

end

/-! ## References -/

/-- The expressions that refer to a column: under its name, or behind the name of its table. -/
inductive Sql.Expr.RefersTo : Expr → Option String → String → Prop
  | column (name : Ident) : RefersTo (.column name) none name.folded
  | unqualified (name : Ident) : RefersTo (.qualified [name]) none name.folded
  | qualified (table name : Ident) :
    RefersTo (.qualified [table, name]) (some table.folded) name.folded

section

variable {σ : Type} [ParamHook σ] {catalog : Catalog}

theorem bindExpr_of_refersTo {e : Expr} {table : Option String} {column : String}
    (h : e.RefersTo table column) (s : WalkState σ) :
    bindExpr catalog e s = ((findColumn table column 0 s.scopes).map .column, s) := by
  have hresolve (table : Option String) (column : String) :
      (do return BoundExpr.column (← resolveColumn table column) : Walk σ BoundExpr) s
        = ((findColumn table column 0 s.scopes).map .column, s) := by
    rw [Walk.run_bind, resolveColumn]
    cases findColumn table column 0 s.scopes with
    | error e => rfl
    | ok found => rfl
  cases h with
  | column name =>
    unfold bindExpr
    exact hresolve none name.folded
  | unqualified name =>
    unfold bindExpr
    exact hresolve none name.folded
  | qualified table name =>
    unfold bindExpr
    exact hresolve (some table.folded) name.folded

theorem findColumn_of_bindExpr {e : Expr} {table : Option String} {column : String}
    (h : e.RefersTo table column) {s : WalkState σ} {found : BoundColumn}
    (hrun : (bindExpr catalog e s).1 = .ok (.column found)) :
    findColumn table column 0 s.scopes = .ok found := by
  rw [bindExpr_of_refersTo h] at hrun
  cases hfound : findColumn table column 0 s.scopes with
  | error e =>
    rw [hfound] at hrun
    cases hrun
  | ok column =>
    rw [hfound] at hrun
    cases hrun
    rfl

/-- **Which column a reference means.** The tables of a query level are those of its `FROM`, and only
queries among them can have several columns of one name. Wherever a reference stands inside the level,
it is bound there only if exactly one of the tables that it may mean has a column of the name, and at
the level itself that is enough. This is the only such column, unless the table repeats the name, and
then it is the last. If there are two or more such columns, and it is not one table that repeats the
name, then the reference is refused, unless it is bound further in. -/
theorem references_spec (hbuilt : catalog.Built) {ts : List TableRef} {s s' : WalkState σ}
    {outer : List Scope} (hscopes : s.scopes = Scope.empty :: outer)
    (hrun : bindTables catalog ts s = (.ok (), s')) :
    ∃ scope, s'.scopes = scope :: outer
      ∧ List.Forall₂ (Binding.From σ catalog) (ts.flatMap TableRef.factors) scope.bindings
      ∧ (∀ b ∈ scope.bindings, ∀ column, b.Repeats column →
        ∃ lateral query label, TableRef.derived lateral query label ∈ ts.flatMap TableRef.factors
          ∧ Binding.From σ catalog (.derived lateral query label) b)
      ∧ ∀ (e : Expr) (table : Option String) (column : String), e.RefersTo table column →
        ∀ (inner : List Scope) (t : WalkState σ), t.scopes = inner ++ s'.scopes →
          (∀ found, (bindExpr catalog e t).1 = .ok (.column found) → found.depth = inner.length →
            ∃ b, scope.bearing table column = [b] ∧ b.bind column inner.length = .ok found
              ∧ (b.Repeats column ∨ (bearers column (scope.candidates table)).length = 1))
          ∧ (∀ b, inner = [] → scope.bearing table column = [b] → ∃ found,
            b.bind column 0 = .ok found ∧ bindExpr catalog e t = (.ok (.column found), t))
          ∧ (2 ≤ (bearers column (scope.candidates table)).length →
            (∃ b, scope.bearing table column = [b] ∧ b.Repeats column)
              ∨ (∀ found, (bindExpr catalog e t).1 = .ok (.column found) →
                  found.depth < inner.length)
                ∧ (inner = [] → bindExpr catalog e t = (.error (.ambiguousColumn column), t))) := by
  obtain ⟨scope, hscopes', hfrom⟩ := level_of_bindTables hscopes hrun
  refine ⟨scope, hscopes', hfrom, fun b hb column hrepeats => ?_, ?_⟩
  · refine (nodup_or_exists_derived hbuilt hfrom hb).resolve_left fun hnodup => ?_
    exact Binding.not_repeats_of_nodup hnodup column hrepeats
  · intro e table column hrefers inner t ht
    rw [hscopes'] at ht
    have hfind {found : BoundColumn} (h : (bindExpr catalog e t).1 = .ok (.column found)) :
        findColumn table column 0 (inner ++ scope :: outer) = .ok found :=
      ht ▸ findColumn_of_bindExpr hrefers h
    refine ⟨?_, ?_, ?_⟩
    · intro found h hdepth
      obtain ⟨b, hone, hbind⟩ := one_of_findColumn (hfind h) hdepth
      refine ⟨b, hone, hbind, ?_⟩
      have hpos := List.length_pos_iff.2
        (Binding.hasColumn_eq_true_iff.1 (Binding.of_bind_eq_ok hbind).1)
      -- the table has one such column at least
      rw [bearers_of_one hone]
      unfold Binding.Repeats
      omega
    · rintro b rfl hone
      have hmem : b ∈ scope.bearing table column := hone ▸ List.mem_singleton_self b
      obtain ⟨found, hbind⟩ := Binding.exists_bind (List.mem_filter.1 hmem).2 0
      refine ⟨found, hbind, ?_⟩
      rw [bindExpr_of_refersTo hrefers, ht, List.nil_append, findColumn_of_one hone, hbind]
      rfl
    · intro htwo
      refine (repeats_or_several htwo).imp id fun hseveral => ?_
      refine ⟨fun found h => depth_lt_of_several hseveral (hfind h), fun hinner => ?_⟩
      subst hinner
      rw [bindExpr_of_refersTo hrefers, ht, List.nil_append, findColumn_of_several hseveral]
      rfl

end

/-- The state in which `t CROSS JOIN (SELECT 1 AS a, 'x' AS c) AS x` is in sight. -/
def WalkState.crossed : BindState :=
  (bindTables .withPair [.crossed] ⟨[.empty], .absent, 0⟩).2

/-- Of a table and a query that are joined, both have a column called `a`, and one has `b`. -/
theorem references_spec_crossed :
    Catalog.withPair.Built
      ∧ bindTables .withPair [.crossed] ⟨[.empty], .absent, 0⟩ = (.ok (), WalkState.crossed)
      ∧ bindExpr .withPair (.column ⟨"a", none⟩) .crossed
        = (.error (.ambiguousColumn "a"), WalkState.crossed)
      ∧ ∃ scope found, WalkState.crossed.scopes = [scope]
        ∧ (bindExpr .withPair (.column ⟨"b", none⟩) .crossed).1 = .ok (.column found)
        ∧ (bearers "b" (scope.candidates none)).length = 1 := by
  have hbuilt : Catalog.withPair.Built := by
    intro entry hentry
    rw [List.mem_singleton.1 hentry]
    rfl
  have hrun : bindTables .withPair [.crossed] ⟨[.empty], .absent, 0⟩ = (.ok (), WalkState.crossed) :=
    rfl
  obtain ⟨scope, hscopes, -, -, h⟩ := references_spec hbuilt rfl hrun
  obtain ⟨hlevel, -⟩ := List.cons.inj hscopes
  refine ⟨hbuilt, hrun, ?_, scope, ⟨"b", .varchar, 1, 1, 0⟩, hscopes, rfl, ?_⟩
  · have htwo := (h (.column ⟨"a", none⟩) none "a" (.column _) [] .crossed rfl).2.2
    subst hlevel
    rcases htwo (by decide) with ⟨b, hone, -⟩ | ⟨-, hrefused⟩
    · -- the name is that of a column of both tables
      cases hone
    · exact hrefused rfl
  · obtain ⟨b, hone, -, hrepeats | hcount⟩ :=
      (h (.column ⟨"b", none⟩) none "b" (.column _) [] .crossed rfl).1 _ rfl rfl
    · subst hlevel
      cases hone
      exact absurd hrepeats (by decide)
    · exact hcount

/-- `(SELECT 1 AS a, 'x' AS a) AS x` -/
def Sql.TableRef.repeated : TableRef :=
  .derived false (.selectPair "a") (some ⟨⟨"x", none⟩, []⟩)

/-- The state in which it is in sight. -/
def WalkState.repeated : BindState :=
  (bindTables .empty [.repeated] ⟨[.empty], .absent, 0⟩).2

/-- A query with two columns called `a`: a reference to `a` is bound, with and without the name of the
query in front, and means the second of them. -/
theorem bindExpr_repeated :
    bindTables .empty [.repeated] ⟨[.empty], .absent, 0⟩ = (.ok (), WalkState.repeated)
      ∧ (∃ scope, WalkState.repeated.scopes = [scope]
        ∧ bearers "a" (scope.candidates none) = [⟨"a", .int⟩, ⟨"a", .varchar⟩]
        ∧ bearers "a" (scope.candidates (some "x")) = [⟨"a", .int⟩, ⟨"a", .varchar⟩])
      ∧ bindExpr .empty (.column ⟨"a", none⟩) .repeated
        = (.ok (.column ⟨"a", .varchar, 1, 1, 0⟩), WalkState.repeated)
      ∧ bindExpr .empty (.qualified [⟨"x", none⟩, ⟨"a", none⟩]) .repeated
        = (.ok (.column ⟨"a", .varchar, 1, 1, 0⟩), WalkState.repeated)
      ∧ analyze .empty ParamTypes.absent
          (.query (.selecting [.qualified [⟨"x", none⟩, ⟨"a", none⟩]] [.repeated]))
        = (.ok ⟨["a"], [.varchar]⟩, .absent) :=
  ⟨rfl, ⟨_, rfl, rfl, rfl⟩, rfl, rfl, rfl⟩

end Prepared
