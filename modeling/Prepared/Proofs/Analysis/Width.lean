import Prepared.Proofs.Analysis.OutputTypes

/-!
# The widths of outputs

How many columns a step gives does not depend on how they are bound: bringing expressions to a type
keeps their number, a column of a `VALUES` list becomes one expression, and set operations combine
columns in pairs. So every output has a name for each of its columns (`bindBody_named`), and what a
statement is described by has as many names as types (`bindStatement_named`).
-/

namespace Prepared

open Sql BindM Walk

variable {σ : Type} [ParamHook σ]

/-! ## Expressions that are brought to a type -/

theorem coerceAll_length (target : SqlType) (es : List BoundExpr) :
    Yields (BoundExpr.coerceAll target es : Walk σ _) fun es' => es'.length = es.length := by
  induction es with
  | nil => exact .pure rfl
  | cons e es ih => exact .then_ fun _ => ih.bind fun es' h => .pure (congrArg Nat.succ h)

/-- The shorter list decides how far the walk goes. -/
theorem coerceEach_length (es : List BoundExpr) (ts : List SqlType) :
    Yields (BoundExpr.coerceEach es ts : Walk σ _)
      fun es' => es'.length = min es.length ts.length := by
  induction es generalizing ts with
  | nil => exact .pure (Nat.zero_min _).symm
  | cons e es ih =>
    cases ts with
    | nil => exact .pure rfl
    | cons t ts =>
      refine .then_ fun _ => (ih ts).bind fun es' h => .pure ?_
      rw [List.length_cons, h, List.length_cons, List.length_cons, Nat.succ_min_succ]

theorem unify_length (es : List BoundExpr) (default : Option SqlType) :
    Yields (BoundExpr.unify es default : Walk σ _) fun r => r.1.length = es.length := by
  refine .then_ fun common => ?_
  cases common with
  | none => exact .pure rfl
  | some c => exact (coerceAll_length c es).bind fun es' h => .pure h

/-- Of at least one expression the first one is kept. -/
theorem firstUnified_length {es : List BoundExpr} (h : es ≠ []) :
    Yields (firstUnified es : Walk σ _) fun es' => es'.length = 1 := by
  refine (unify_length es _).bind fun r hr => .pure ?_
  rw [List.length_take, hr]
  exact Nat.min_eq_left (List.length_pos_iff.2 h)

/-! ## Lists of values -/

/-- As many columns as were asked for, also without rows. -/
theorem length_columnsOf (width : Nat) (rows : List (List BoundExpr)) :
    (columnsOf width rows).length = width := by
  simp [columnsOf]

/-- A column of rows that are all long enough has an expression of each of them. -/
theorem length_of_mem_columnsOf {width : Nat} {rows : List (List BoundExpr)}
    (hrows : ∀ row ∈ rows, row.length = width) {column : List BoundExpr}
    (h : column ∈ columnsOf width rows) : column.length = rows.length := by
  obtain ⟨i, hi, rfl⟩ := List.mem_map.1 h
  have hin : i < width := List.mem_range.1 hi
  rw [List.length_filterMap_eq_countP, List.countP_eq_length]
  intro row hrow
  rw [List.getElem?_eq_getElem (by rw [hrows row hrow]; exact hin)]
  rfl

/-- Without rows the width is 0, so there are no columns either. -/
theorem ne_nil_of_mem_columnsOf {rows : List (List Expr)} {bound : List (List BoundExpr)}
    (hcount : bound.length = rows.length)
    (hwidths : ∀ row ∈ bound, row.length = (rows.head?.map List.length).getD 0) :
    ∀ c ∈ columnsOf ((rows.head?.map List.length).getD 0) bound, c ≠ [] := by
  intro c hc hempty
  have hnone : rows = [] := by
    rw [← List.length_eq_zero_iff, ← hcount, ← length_of_mem_columnsOf hwidths hc, hempty]
    rfl
  rw [hnone] at hc
  exact absurd hc List.not_mem_nil

/-- By induction on the columns: each gives one expression, with a wanted type or without. -/
theorem unifyColumns_length {columns : List (List BoundExpr)} (h : ∀ c ∈ columns, c ≠ [])
    (expected : Option (List SqlType)) :
    Yields (unifyColumns columns expected : Walk σ _) fun es => es.length = columns.length := by
  induction columns generalizing expected with
  | nil =>
    unfold unifyColumns
    exact .pure rfl
  | cons column columns ih =>
    obtain ⟨hcolumn, hcolumns⟩ := List.forall_mem_cons.1 h
    have hrest (first : List BoundExpr) (hfirst : first.length = 1)
        (expected : Option (List SqlType)) :
        Yields (do return first ++ (← unifyColumns columns expected) : Walk σ _)
          fun es => es.length = (column :: columns).length := by
      refine (ih hcolumns expected).bind fun rest hrest => .pure ?_
      rw [List.length_append, hfirst, hrest, List.length_cons, Nat.add_comm]
    have hunify (expected : Option (List SqlType)) :
        Yields (do return (← firstUnified column) ++ (← unifyColumns columns expected) : Walk σ _)
          fun es => es.length = (column :: columns).length :=
      (firstUnified_length hcolumn).bind fun first hfirst => hrest first hfirst expected
    rcases expected with _ | _ | ⟨t, ts⟩
    · exact hunify none
    · exact hunify (some [])
    · unfold unifyColumns
      refine (coerceAll_length t column).bind fun column' hsame => hrest _ ?_ (some ts)
      rw [List.length_take, hsame]
      exact Nat.min_eq_left (List.length_pos_iff.2 hcolumn)

section

variable (catalog : Catalog)

theorem bindExprs_length (es : List Expr) :
    Yields (bindExprs catalog es : Walk σ _) fun bs => bs.length = es.length := by
  induction es with
  | nil =>
    unfold bindExprs
    exact .pure rfl
  | cons e es ih =>
    unfold bindExprs
    exact .then_ fun _ => ih.bind fun bs h => .pure (congrArg Nat.succ h)

/-- Rows of another width than the first are refused, so those that are bound all have it. -/
theorem bindRows_width (width : Nat) (rows : List (List Expr)) :
    Yields (bindRows catalog width rows : Walk σ _) fun bound =>
      bound.length = rows.length ∧ ∀ row ∈ bound, row.length = width := by
  induction rows with
  | nil =>
    unfold bindRows
    exact .pure ⟨rfl, nofun⟩
  | cons row rows ih =>
    unfold bindRows
    split
    · exact .throw _
    · rename_i hwidth
      refine (bindExprs_length catalog row).bind fun first hfirst => ih.bind fun rest hrest => .pure ?_
      obtain ⟨hcount, hwidths⟩ := hrest
      exact ⟨congrArg Nat.succ hcount,
        List.forall_mem_cons.2 ⟨hfirst.trans (Decidable.not_not.1 hwidth), hwidths⟩⟩

end

/-! ## Set operations -/

/-- Columns are combined like those of a list of values with a row for each side. -/
theorem combineColumns_eq_unifyColumns (ls rs : List BoundExpr) :
    (combineColumns ls rs : Walk σ (List BoundExpr))
      = unifyColumns (List.zipWith (fun l r => [l, r]) ls rs) none := by
  induction ls generalizing rs with
  | nil => simp [combineColumns, unifyColumns]
  | cons l ls ih =>
    cases rs with
    | nil => simp [combineColumns, unifyColumns]
    | cons r rs => simp [combineColumns, unifyColumns, ih]

/-- A pair has a first expression. -/
theorem ne_nil_of_mem_pairs {ls rs : List BoundExpr} :
    ∀ c ∈ List.zipWith (fun l r => [l, r]) ls rs, c ≠ [] := by
  intro c hc
  obtain ⟨i, hi, rfl⟩ := List.mem_iff_getElem.1 hc
  rw [List.getElem_zipWith]
  exact List.cons_ne_nil _ _

/-- Two sides of one width keep it. -/
theorem combineColumns_length {ls rs : List BoundExpr} (h : ls.length = rs.length) :
    Yields (combineColumns ls rs : Walk σ _) fun es => es.length = ls.length := by
  rw [combineColumns_eq_unifyColumns]
  refine (unifyColumns_length ne_nil_of_mem_pairs none).mono fun es hes => ?_
  rw [hes, List.length_zipWith, ← h, Nat.min_self]

/-- Queries that are combined have one width, which is kept, and so are the names of the first. -/
theorem combineQueries_shape (l r : BoundQuery) :
    Yields (combineQueries l r : Walk σ _) fun q => l.columns.length = r.columns.length
      ∧ q.names = l.names ∧ q.columns.length = l.columns.length := by
  unfold combineQueries
  split
  · exact .throw _
  · rename_i hwidths
    have hsame : l.columns.length = r.columns.length := Decidable.not_not.1 hwidths
    exact (combineColumns_length hsame).bind fun columns h => .pure ⟨hsame, rfl, h⟩

/-! ## Outputs that are brought to the expected types -/

omit [ParamHook σ] in
/-- The check succeeds only on the right number of columns. -/
theorem checkWidth_yields (expected : Option (List SqlType)) (width : Nat) :
    Yields (checkWidth expected width : Walk σ Unit) fun _ =>
      ∀ types, expected = some types → types.length = width := by
  unfold checkWidth
  split
  · split
    · rename_i hwidth
      exact .pure fun _ h => Option.some.inj h ▸ hwidth
    · exact .throw _
  · exact .pure nofun

/-- The wanted types have been counted before the columns are brought to them. -/
theorem fitOutput_length (expected : Option (List SqlType)) (columns : List BoundExpr) :
    Yields (fitOutput expected columns : Walk σ _) fun es => es.length = columns.length := by
  unfold fitOutput
  refine (checkWidth_yields expected columns.length).bind fun _ hwidth => ?_
  cases expected with
  | none => exact .pure rfl
  | some types =>
    refine (coerceEach_length columns types).mono fun es h => ?_
    rw [h, hwidth types rfl, Nat.min_self]

/-! ## Outputs of queries -/

/-- Every column has a name. -/
def BoundQuery.Named (q : BoundQuery) : Prop :=
  q.names.length = q.columns.length

theorem underOwnNames_named (columns : List BoundExpr) : (underOwnNames columns).Named :=
  List.length_map _

theorem BoundQuery.Named.append {q r : BoundQuery} (hq : q.Named) (hr : r.Named) :
    (q.append r).Named := by
  unfold Named BoundQuery.append at *
  rw [List.length_append, List.length_append, hq, hr]

omit [ParamHook σ] in
/-- A query level is closed after the value is there. -/
theorem Walk.Yields.withScope {α : Type} {x : Walk σ α} {P : α → Prop} (h : Yields x P) :
    Yields (withScope x : Walk σ _) P := by
  intro s a s' hrun
  obtain ⟨t, hx, -⟩ := Walk.run_withScope_ok hrun
  exact h _ a t hx

section

variable (catalog : Catalog)

/-- By induction on the items: an expression comes with its name, and a wildcard with the names of
its columns. -/
theorem bindItems_named (items : List SelectItem) :
    Yields (bindItems catalog items : Walk σ _) BoundQuery.Named := by
  have hfront {q : BoundQuery} (hq : q.Named) {items : List SelectItem}
      (h : Yields (bindItems catalog items : Walk σ _) BoundQuery.Named) :
      Yields (do return q.append (← bindItems catalog items) : Walk σ _) BoundQuery.Named :=
    h.bind fun r hr => .pure (hq.append hr)
  induction items with
  | nil =>
    unfold bindItems
    exact .pure rfl
  | cons item items ih =>
    cases item with
    | unnamed | wildcard | qualifiedWildcard =>
      unfold bindItems
      exact .then_ fun _ => hfront (underOwnNames_named _) ih
    | named value name =>
      unfold bindItems
      exact .then_ fun e => hfront (q := ⟨[name.folded], [e]⟩) rfl ih

mutual

/-- Order and limits are bound after the output and do not change it. -/
theorem bindQuery_named (expected : Option (List SqlType)) : (q : Query) →
    Yields (bindQuery catalog expected q : Walk σ _) BoundQuery.Named
  | .mk recursive ctes body orderBy limit offset offsetWord fetch lock => by
    unfold bindQuery
    split
    · exact .throw _
    · refine .withScope ((bindBody_named false expected body).bind fun output h => ?_)
      exact .then_ fun _ => .then_ fun _ => .then_ fun _ => .pure h

/-- **Every column of an output has a name.** -/
theorem bindBody_named (combined : Bool) (expected : Option (List SqlType)) : (body : Body) →
    Yields (bindBody catalog combined expected body : Walk σ _) BoundQuery.Named
  | .select quantity items tables condition groupBy having rest => by
    have hselect : Yields (do
        bindTables catalog tables
        bindCondition catalog condition
        let _ ← bindExprs catalog groupBy
        bindCondition catalog having
        let output ← bindItems catalog items
        return (⟨output.names, ← fitOutput expected output.columns⟩ : BoundQuery) : Walk σ BoundQuery)
        BoundQuery.Named := by
      refine .then_ fun _ => .then_ fun _ => .then_ fun _ => .then_ fun _ => ?_
      refine (bindItems_named catalog items).bind fun output h => ?_
      exact (fitOutput_length expected output.columns).bind fun es hes => .pure (h.trans hes.symm)
    unfold bindBody
    cases combined with
    | true => exact .withScope hselect
    | false => exact hselect
  | .query query => by
    unfold bindBody
    exact bindQuery_named expected query
  | .operation op quantity left right => by
    unfold bindBody
    refine (bindBody_named true expected left).bind fun l hl => .then_ fun r => ?_
    refine (combineQueries_shape l r).mono fun q hq => ?_
    -- names and width are those of the left side
    obtain ⟨-, hnames, hcolumns⟩ := hq
    unfold BoundQuery.Named
    rw [hnames, hcolumns]
    exact hl
  | .values explicit rows => by
    unfold bindBody
    refine .then_ fun _ => (bindRows_width catalog _ rows).bind fun bound hbound => ?_
    obtain ⟨hcount, hwidths⟩ := hbound
    have hcolumns := ne_nil_of_mem_columnsOf hcount hwidths
    refine (unifyColumns_length hcolumns expected).bind fun columns h => .pure ?_
    unfold BoundQuery.Named
    rw [h, length_columnsOf]
    simp [valueNames]
  | .other text _ => by
    unfold bindBody
    exact .throw _

end

/-- **A description has as many names as types.** -/
theorem bindStatement_named (S : Statement) :
    Yields (bindStatement catalog S : Walk σ _) fun d => d.names.length = d.types.length := by
  unfold bindStatement
  split
  · refine (bindQuery_named catalog none _).bind fun q h => .pure ?_
    exact h.trans (List.length_map _).symm
  · exact .then_ fun _ => .pure rfl
  · exact .then_ fun _ => .pure rfl
  · exact .then_ fun _ => .pure rfl
  · exact .throw _

end

end Prepared
