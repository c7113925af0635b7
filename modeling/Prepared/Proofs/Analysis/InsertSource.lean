import Prepared.Proofs.Analysis.Frame
import Prepared.Proofs.Analysis.Inferred
import Prepared.Proofs.Analysis.SetOperation
import Prepared.Proofs.Analysis.Trace
import Prepared.Proofs.Session.Rendering

/-!
# The source of an INSERT

What an `INSERT` takes its rows from is brought to the types of the columns that it fills. These are
handed down through parentheses and set operations, and wanted at every leaf: of the columns of a
`SELECT`, and of every row of a list of values. So each leaf is as wide as the columns that are
filled, and a parameter that stands there without a type gets that of its column
(`bindBody_fills`). What comes of the leaves has one type already when they are combined, so nothing
is left to be decided there (`combineColumns_of_types`).

A parameter that has got a type keeps it until the end (`Frame.settled`).
-/

namespace Prepared

open Sql BindM Walk

/-! ## Parameters with types -/

namespace ParamTypes

variable {p : ParamTypes} {n m : Nat} {t target : SqlType}

theorem slot?_of_answer_refer (ht : t.isResolved = true) (h : slot? p.slots m = some t) :
    slot? (p.answer (p.refer n)).2.slots m = some t := by
  cases p with
  | absent => exact h
  | declared types =>
    unfold refer
    dsimp only
    split
    · exact h
    · exact h
  | inferred types limit =>
    rcases refer_inferred types limit n with hrefused | ⟨types', u, hanswer, hforward, -, -, -⟩
    · rw [hrefused]
      exact h
    · rw [hanswer]
      exact slot?_of_forward hforward h ht

/-- Only a parameter without a type is given one. -/
theorem slot?_of_answer_settle (ht : t.isResolved = true) (h : slot? p.slots m = some t) :
    slot? (p.answer (p.settle n target)).2.slots m = some t := by
  cases hsettle : p.settle n target with
  | error e => exact h
  | ok answer =>
    obtain ⟨u, p'⟩ := answer
    show slot? p'.slots m = some t
    cases p with
    | absent => cases hsettle
    | declared types =>
      unfold settle at hsettle
      dsimp only at hsettle
      split at hsettle
      · split at hsettle
        · cases hsettle
          exact h
        · cases hsettle
      · cases hsettle
    | inferred types limit =>
      unfold settle at hsettle
      dsimp only at hsettle
      split at hsettle
      · rename_i v hslot
        split at hsettle
        · split at hsettle
          · cases hsettle
            exact h
          · cases hsettle
        · rename_i hopen
          cases hsettle
          -- the slot that is written is an open one, and that of `m` is not
          have hn : n ≠ 0 := by
            rintro rfl
            cases hslot
          have hne : m ≠ n := by
            rintro rfl
            have hsame : v = t := Option.some.inj (hslot.symm.trans h)
            exact hopen (hsame ▸ ht)
          exact (slot?_set_ne hn hne).trans h
      · cases hsettle

/-- A type that is granted is what the parameter has then. -/
theorem slot?_of_settle_ok {u : SqlType} {p' : ParamTypes} (ht : target.isResolved = true)
    (h : p.settle n target = .ok (u, p')) : slot? p'.slots n = some target := by
  cases p with
  | absent => cases h
  | declared types =>
    unfold settle at h
    dsimp only at h
    split at h
    · rename_i v hslot
      split at h
      · rename_i hsame
        cases h
        exact hsame ▸ hslot
      · cases h
    · cases h
  | inferred types limit =>
    obtain ⟨types', rfl, -, -, hslot⟩ := settle_inferred_ok ht h
    exact hslot

/-- Every type that has been found is still there. -/
def Keeps (p p' : ParamTypes) : Prop :=
  ∀ n t, t.isResolved = true → slot? p.slots n = some t → slot? p'.slots n = some t

theorem Keeps.refl (p : ParamTypes) : p.Keeps p :=
  fun _ _ _ h => h

theorem Keeps.trans {p p' p'' : ParamTypes} (h : p.Keeps p') (h' : p'.Keeps p'') : p.Keeps p'' :=
  fun n t ht hslot => h' n t ht (h n t ht hslot)

end ParamTypes

open ParamTypes

/-- **A type that is found stays.** -/
def Frame.settled : Frame ParamTypes where
  Keep s s' := s.params.Keeps s'.params
  Add s s' := s.params.Keeps s'.params
  add_of_keep h := h
  keep_refl s := .refl s.params
  keep_trans _ _ _ h h' := h.trans h'
  add_trans _ _ _ h h' := h.trans h'
  keep_closed h := h
  keep_newTable s := .refl s.params
  keep_refer _ _ _ _ ht h := slot?_of_answer_refer ht h
  keep_settle _ _ _ _ _ ht h := slot?_of_answer_settle ht h
  add_scope _ _ _ := .refl _

/-- What every step of the analysis does to the types that have been found. -/
theorem ParamTypes.keeps_of_run {α : Type} {x : BindM α} {catalog : Catalog} {a : α}
    {s s' : BindState} (h : (Frame.settled.stepRelation catalog).Keeping x x)
    (hrun : x s = (.ok a, s')) : s.params.Keeps s'.params := by
  have hkeep : s.params.Keeps (x s).2.params := h s
  rw [hrun] at hkeep
  exact hkeep

/-! ## Expressions for columns -/

namespace BoundExpr

/-- If the expression is a parameter that had no type when it was bound, it has the type `t` by
now. -/
def Settled (p : ParamTypes) (e : BoundExpr) (t : SqlType) : Prop :=
  ∀ name n, e = .parameter name n .unknown → slot? p.slots n = some t

variable {p p' : ParamTypes} {e e' : BoundExpr} {es es' : List BoundExpr} {t : SqlType}
  {ts : List SqlType} {s s' : BindState}

theorem Settled.mono (hkeeps : p.Keeps p') (ht : t.isResolved = true) (h : e.Settled p t) :
    e.Settled p' t :=
  fun name n he => hkeeps n t ht (h name n he)

theorem coerce_settled (ht : t.isResolved = true) (h : e.coerce t s = (.ok e', s')) :
    e.Settled s'.params t := by
  rintro name n rfl
  rw [Sim.coerce_undecided name n ht] at h
  obtain ⟨u, s₁, hsettle, h⟩ := Walk.run_bind_ok h
  cases h
  exact slot?_of_settle_ok ht (Sim.settleParam_ok hsettle)

theorem coerce_type (ht : t.isResolved = true) (h : e.coerce t s = (.ok e', s')) : e'.type = t :=
  (coerce_adapted ParamTypes.grants ht e s e' s' h).type_eq ht

theorem coerceAll_settled (ht : t.isResolved = true) (h : coerceAll t es s = (.ok es', s')) :
    ∀ e ∈ es, e.Settled s'.params t := by
  induction es generalizing s es' with
  | nil => exact fun e he => absurd he List.not_mem_nil
  | cons e es ih =>
    unfold coerceAll at h
    obtain ⟨e', s₁, hfirst, h⟩ := Walk.run_bind_ok h
    obtain ⟨rest, s₂, hrest, h⟩ := Walk.run_bind_ok h
    cases h
    have hkeeps : s₁.params.Keeps s'.params :=
      keeps_of_run ((Frame.settled.stepRelation .empty).keeping_coerceAll t es) hrest
    exact List.forall_mem_cons.2 ⟨(coerce_settled ht hfirst).mono hkeeps ht, ih hrest⟩

theorem coerceEach_settled (hts : ∀ t ∈ ts, t.isResolved = true) (hlength : es.length = ts.length)
    (h : coerceEach es ts s = (.ok es', s')) :
    List.Forall₂ (Settled s'.params) es ts ∧ es'.map type = ts := by
  induction es generalizing ts s es' with
  | nil =>
    obtain rfl : ts = [] := List.length_eq_zero_iff.1 hlength.symm
    cases h
    exact ⟨.nil, rfl⟩
  | cons e es ih =>
    cases ts with
    | nil => cases hlength
    | cons t ts =>
      obtain ⟨ht, hts⟩ := List.forall_mem_cons.1 hts
      unfold coerceEach at h
      obtain ⟨e', s₁, hfirst, h⟩ := Walk.run_bind_ok h
      obtain ⟨rest, s₂, hrest, h⟩ := Walk.run_bind_ok h
      cases h
      have hkeeps : s₁.params.Keeps s'.params :=
        keeps_of_run ((Frame.settled.stepRelation .empty).keeping_coerceEach es ts) hrest
      obtain ⟨hsettled, htypes⟩ := ih hts (Nat.succ.inj hlength) hrest
      refine ⟨.cons ((coerce_settled ht hfirst).mono hkeeps ht) hsettled, ?_⟩
      rw [List.map_cons, coerce_type ht hfirst, htypes]

end BoundExpr

open BoundExpr

/-! ## Lists of values -/

section

variable {types : List SqlType} {p : ParamTypes} {s s' : BindState}

/-- Each column is brought to its type, and then it is as its first expression. -/
theorem unifyColumns_settled {columns : List (List BoundExpr)} {es : List BoundExpr}
    (htypes : ∀ t ∈ types, t.isResolved = true) (hne : ∀ c ∈ columns, c ≠ [])
    (hlength : columns.length = types.length)
    (h : unifyColumns columns (some types) s = (.ok es, s')) :
    List.Forall₂ (fun column t => ∀ e ∈ column, e.Settled s'.params t) columns types
      ∧ es.map BoundExpr.type = types := by
  induction columns generalizing types s es with
  | nil =>
    obtain rfl : types = [] := List.length_eq_zero_iff.1 hlength.symm
    unfold unifyColumns at h
    cases h
    exact ⟨.nil, rfl⟩
  | cons column columns ih =>
    cases types with
    | nil => cases hlength
    | cons t types =>
      obtain ⟨ht, htypes⟩ := List.forall_mem_cons.1 htypes
      obtain ⟨hcolumn, hne⟩ := List.forall_mem_cons.1 hne
      unfold unifyColumns at h
      obtain ⟨column', s₁, hfirst, h⟩ := Walk.run_bind_ok h
      obtain ⟨rest, s₂, hrest, h⟩ := Walk.run_bind_ok h
      cases h
      have hkeeps : s₁.params.Keeps s'.params :=
        keeps_of_run ((Frame.settled.stepRelation .empty).keeping_unifyColumns _ _) hrest
      obtain ⟨hsettled, hrestTypes⟩ := ih htypes hne (Nat.succ.inj hlength) hrest
      refine ⟨.cons (fun e he => (coerceAll_settled ht hfirst e he).mono hkeeps ht) hsettled, ?_⟩
      -- the column is not empty, so it has a first expression, which has the type
      have hadapted := coerceAll_adapted ParamTypes.grants ht column s column' s₁ hfirst
      obtain ⟨e, es, rfl⟩ := List.exists_cons_of_ne_nil hcolumn
      cases hadapted with
      | cons he _ =>
        show BoundExpr.type _ :: rest.map BoundExpr.type = t :: types
        rw [he.type_eq ht, hrestTypes]

/-- What holds of the columns holds of the rows. -/
theorem rows_of_columnsOf {α : Type} {R : BoundExpr → α → Prop} {rows : List (List BoundExpr)}
    {as : List α} (hwidths : ∀ row ∈ rows, row.length = as.length)
    (h : List.Forall₂ (fun column a => ∀ e ∈ column, R e a) (columnsOf as.length rows) as) :
    ∀ row ∈ rows, List.Forall₂ R row as := by
  intro row hrow
  refine List.forall₂_iff_get.2 ⟨hwidths row hrow, fun j hj hj' => ?_⟩
  have hcolumn := (List.forall₂_iff_get.1 h).2 j (by rw [length_columnsOf]; exact hj') hj'
  refine hcolumn _ ?_
  simp only [columnsOf, List.get_eq_getElem, List.getElem_map, List.getElem_range]
  exact List.mem_filterMap.2 ⟨row, hrow, List.getElem?_eq_getElem hj⟩

end

/-! ## Set operations over outputs of the same types -/

/-- Where the sides have the same types already, the first side is left as it is. -/
theorem combineColumns_of_types {σ : Type} [ParamHook σ] {types : List SqlType}
    (htypes : ∀ t ∈ types, t.Counts) {ls rs : List BoundExpr} (hls : ls.map BoundExpr.type = types)
    (hrs : rs.map BoundExpr.type = types) : (combineColumns ls rs : Walk σ _) = pure ls := by
  induction ls generalizing rs types with
  | nil =>
    unfold combineColumns
    rfl
  | cons l ls ih =>
    subst hls
    obtain ⟨ht, htypes⟩ := List.forall_mem_cons.1 htypes
    cases rs with
    | nil => cases hrs
    | cons r rs =>
      obtain ⟨hr, hrs⟩ := List.cons.inj hrs
      have hsame : ∀ e ∈ [l, r], e.type = l.type := by
        simp [hr]
      have hcommon : unifiedType [l, r] (some .varchar) = .ok (some l.type) :=
        unifiedType_of_types hsame (Or.inl ⟨ht, List.cons_ne_nil _ _⟩)
      have hfirst : (firstUnified [l, r] : Walk σ _) = pure [l] := by
        funext s
        unfold firstUnified
        rw [Walk.run_bind, run_unify_of_types hsame hcommon]
        rfl
      unfold combineColumns
      rw [hfirst, ih htypes rfl hrs]
      rfl

theorem combineQueries_of_types {types : List SqlType} (htypes : ∀ t ∈ types, t.Counts)
    {l r : BoundQuery} (hl : l.types = types) (hr : r.types = types) :
    (combineQueries l r : BindM _) = pure l := by
  have hwidths : l.columns.length = r.columns.length := by
    have hsame : (l.columns.map BoundExpr.type).length = (r.columns.map BoundExpr.type).length :=
      congrArg List.length (hl.trans hr.symm)
    simpa using hsame
  unfold combineQueries
  rw [combineColumns_of_types htypes hl hr, if_neg (not_not.2 hwidths)]
  rfl

/-! ## The leaves of a source -/

/-- A place in a source that columns are filled from: a `SELECT` or a list of values, and the state
that it is bound in. -/
structure SourceLeaf where
  body : Body
  /-- Whether it is combined with others. -/
  combined : Bool
  state : BindState

/-- The rows of a list of values, or the output of a `SELECT` as a row, before they are brought to
any types. -/
def SourceLeaf.rows (catalog : Catalog) (leaf : SourceLeaf) :
    Except BindError (List (List BoundExpr)) :=
  match leaf.body with
  | .values _ rows =>
    (bindRows catalog ((rows.head?.map List.length).getD 0) rows leaf.state).1
  | body => (bindBody catalog leaf.combined none body leaf.state).1.map fun q => [q.columns]

/-- The widths of the rows of a list of values as they are written, or of the output of a `SELECT`
that can be bound. -/
def SourceLeaf.widths (catalog : Catalog) (leaf : SourceLeaf) : List Nat :=
  match leaf.body with
  | .values _ rows => rows.map List.length
  | body =>
    match (bindBody catalog leaf.combined none body leaf.state).1 with
    | .ok q => [q.columns.length]
    | .error _ => []

/-- The leaf fills columns of the given types: all its rows are as wide, and each parameter that
stands there without a type has got the type of its column. -/
structure SourceLeaf.Fills (catalog : Catalog) (types : List SqlType) (p : ParamTypes)
    (leaf : SourceLeaf) : Prop where
  width_eq : ∀ width ∈ leaf.widths catalog, width = types.length
  settled : ∃ rows, leaf.rows catalog = .ok rows ∧ ∀ row ∈ rows, List.Forall₂ (Settled p) row types

section

variable (catalog : Catalog) (types : List SqlType)

mutual

/-- The leaves of a query that columns of the given types are filled from. -/
def sourceLeaves : Query → BindState → List SourceLeaf
  | .mk _ _ body _ _ _ _ _ _ => fun s =>
    sourceLeavesOf false body { s with scopes := Scope.empty :: s.scopes }

/-- The leaves of the body of such a query. The right side of a set operation is bound in the state
that the left one leads to. -/
def sourceLeavesOf (combined : Bool) : Body → BindState → List SourceLeaf
  | .query query => sourceLeaves query
  | .operation _ _ left right => fun s =>
    sourceLeavesOf true left s
      ++ sourceLeavesOf true right (bindBody catalog true (some types) left s).2
  | body => fun s => [⟨body, combined, s⟩]

end

end

theorem SourceLeaf.Fills.mono {catalog : Catalog} {types : List SqlType} {p p' : ParamTypes}
    {leaf : SourceLeaf} (htypes : ∀ t ∈ types, t.isResolved = true) (hkeeps : p.Keeps p')
    (h : leaf.Fills catalog types p) : leaf.Fills catalog types p' := by
  obtain ⟨rows, hrows, hsettled⟩ := h.settled
  refine ⟨h.width_eq, rows, hrows, fun row hrow => ?_⟩
  refine List.forall₂_iff_get.2 ⟨(hsettled row hrow).length_eq, fun j hj hj' => ?_⟩
  exact ((List.forall₂_iff_get.1 (hsettled row hrow)).2 j hj hj').mono hkeeps
    (htypes _ (List.get_mem _ _))

/-! ### One leaf -/

section

variable {catalog : Catalog} {types : List SqlType} {s s' : BindState} {q : BoundQuery}

theorem checkWidth_ok {width : Nat} {u : Unit}
    (h : checkWidth (some types) width s = (.ok u, s')) : types.length = width ∧ s = s' :=
  ⟨checkWidth_yields (some types) width s u s' h types rfl, Sim.state_of_checkWidth h⟩

theorem fitOutput_ok {columns es : List BoundExpr}
    (h : fitOutput (some types) columns s = (.ok es, s')) :
    columns.length = types.length ∧ coerceEach columns types s = (.ok es, s') := by
  unfold fitOutput at h
  obtain ⟨_, s₁, hcheck, h⟩ := Walk.run_bind_ok h
  obtain ⟨hwidth, rfl⟩ := checkWidth_ok hcheck
  exact ⟨hwidth.symm, h⟩

/-- The output of a `SELECT`, before it is brought to any types. -/
def bindOutput (catalog : Catalog) (items : List SelectItem) (tables : List TableRef)
    (condition : Option Expr) (groupBy : List Expr) (having : Option Expr) : BindM BoundQuery := do
  bindTables catalog tables
  bindCondition catalog condition
  let _ ← bindExprs catalog groupBy
  bindCondition catalog having
  bindItems catalog items

/-- An output that is brought to the types that are expected. -/
def fitted (expected : Option (List SqlType)) (x : BindM BoundQuery) : BindM BoundQuery := do
  let output ← x
  return ⟨output.names, ← fitOutput expected output.columns⟩

theorem fitted_none (x : BindM BoundQuery) : fitted none x = x :=
  bind_pure x

theorem fitted_ok {x : BindM BoundQuery} (h : fitted (some types) x s = (.ok q, s')) :
    ∃ q₀ s₁, x s = (.ok q₀, s₁) ∧ q₀.columns.length = types.length
      ∧ coerceEach q₀.columns types s₁ = (.ok q.columns, s') := by
  obtain ⟨output, s₁, houtput, h⟩ := Walk.run_bind_ok h
  obtain ⟨columns, s₂, hfit, h⟩ := Walk.run_bind_ok h
  cases h
  exact ⟨output, s₁, houtput, fitOutput_ok hfit⟩

theorem bindBody_select (combined : Bool) (expected : Option (List SqlType)) (quantity : Bool)
    (items : List SelectItem) (tables : List TableRef) (condition : Option Expr)
    (groupBy : List Expr) (having : Option Expr) (rest : SelectExtras) :
    (bindBody catalog combined expected
        (.select quantity items tables condition groupBy having rest) : BindM _)
      = (if combined then withScope else id)
          (fitted expected (bindOutput catalog items tables condition groupBy having)) := by
  unfold bindBody fitted bindOutput
  simp only [bind_assoc]

/-- A `SELECT` that is brought to the types gives what it gives without them, brought to them. -/
theorem bindBody_select_ok {combined quantity : Bool} {items : List SelectItem}
    {tables : List TableRef} {condition having : Option Expr} {groupBy : List Expr}
    {rest : SelectExtras}
    (h : bindBody catalog combined (some types)
      (.select quantity items tables condition groupBy having rest) s = (.ok q, s')) :
    ∃ q₀ s₁ s₂, q₀.columns.length = types.length
      ∧ (bindBody catalog combined none
          (.select quantity items tables condition groupBy having rest) s).1 = .ok q₀
      ∧ coerceEach q₀.columns types s₁ = (.ok q.columns, s₂) ∧ s'.params = s₂.params := by
  rw [bindBody_select] at h
  rw [bindBody_select, fitted_none]
  cases combined with
  | false =>
    obtain ⟨q₀, s₁, hoff, hwidth, hcoerce⟩ := fitted_ok h
    exact ⟨q₀, s₁, s', hwidth, congrArg Prod.fst hoff, hcoerce, rfl⟩
  | true =>
    rw [if_pos rfl] at h ⊢
    -- closing the level leaves the parameters as they are
    obtain ⟨t, hinside, rfl⟩ := Walk.run_withScope_ok h
    obtain ⟨q₀, s₁, hoff, hwidth, hcoerce⟩ := fitted_ok hinside
    exact ⟨q₀, s₁, t, hwidth, congrArg Prod.fst hoff, hcoerce, rfl⟩

/-- **A `SELECT`** is as wide as the columns, and its parameters get their types. -/
theorem bindBody_select_fills (htypes : ∀ t ∈ types, t.isResolved = true) {combined quantity : Bool}
    {items : List SelectItem} {tables : List TableRef} {condition having : Option Expr}
    {groupBy : List Expr} {rest : SelectExtras}
    (h : bindBody catalog combined (some types)
      (.select quantity items tables condition groupBy having rest) s = (.ok q, s')) :
    q.types = types
      ∧ SourceLeaf.Fills catalog types s'.params
          ⟨.select quantity items tables condition groupBy having rest, combined, s⟩ := by
  obtain ⟨q₀, s₁, s₂, hwidth, hoff, hcoerce, hparams⟩ := bindBody_select_ok h
  obtain ⟨hsettled, hq⟩ := coerceEach_settled htypes hwidth hcoerce
  rw [← hparams] at hsettled
  refine ⟨hq, fun width hmem => ?_, [q₀.columns], ?_, List.forall_mem_singleton.2 hsettled⟩
  · unfold SourceLeaf.widths at hmem
    simp only [hoff, List.mem_singleton] at hmem
    exact hmem.trans hwidth
  · unfold SourceLeaf.rows
    simp only [hoff]
    rfl

/-- Rows that are bound are written with the width that they are to have. -/
theorem width_of_bindRows {width : Nat} {rows : List (List Expr)} {bound : List (List BoundExpr)}
    (h : bindRows catalog width rows s = (.ok bound, s')) : ∀ row ∈ rows, row.length = width := by
  induction rows generalizing s s' bound with
  | nil => exact fun row hrow => absurd hrow List.not_mem_nil
  | cons row rows ih =>
    unfold bindRows at h
    split at h
    · cases h
    · rename_i hwidth
      obtain ⟨first, s₁, hfirst, h⟩ := Walk.run_bind_ok h
      obtain ⟨others, s₂, hothers, h⟩ := Walk.run_bind_ok h
      exact List.forall_mem_cons.2 ⟨not_not.1 hwidth, ih hothers⟩

/-- **A list of values**: every row is as wide as the columns, and its parameters get their
types. -/
theorem bindBody_values_fills (htypes : ∀ t ∈ types, t.isResolved = true) {combined explicit : Bool}
    {rows : List (List Expr)}
    (h : bindBody catalog combined (some types) (.values explicit rows) s = (.ok q, s')) :
    q.types = types
      ∧ SourceLeaf.Fills catalog types s'.params ⟨.values explicit rows, combined, s⟩ := by
  unfold bindBody at h
  obtain ⟨_, s₁, hcheck, h⟩ := Walk.run_bind_ok h
  obtain ⟨hwidth, rfl⟩ := checkWidth_ok hcheck
  obtain ⟨bound, s₂, hrows, h⟩ := Walk.run_bind_ok h
  obtain ⟨columns, s₃, hcolumns, h⟩ := Walk.run_bind_ok h
  cases h
  obtain ⟨hcount, hwidths⟩ := bindRows_width catalog _ rows s bound s₂ hrows
  have hne := ne_nil_of_mem_columnsOf hcount hwidths
  obtain ⟨hsettled, hq⟩ := unifyColumns_settled htypes hne
    ((length_columnsOf _ _).trans hwidth.symm) hcolumns
  rw [← hwidth] at hsettled hwidths
  refine ⟨hq, fun width hmem => ?_, bound, ?_, rows_of_columnsOf hwidths hsettled⟩
  · obtain ⟨row, hrow, rfl⟩ := List.mem_map.1 hmem
    exact (width_of_bindRows hrows row hrow).trans hwidth.symm
  · unfold SourceLeaf.rows
    simp only [hrows]

end

/-! ## The whole source -/

section

variable {catalog : Catalog} {types : List SqlType} (hcounts : ∀ t ∈ types, t.Counts)

include hcounts

mutual

theorem bindQuery_fills : (query : Query) → {s s' : BindState} → {q : BoundQuery} →
    bindQuery catalog (some types) query s = (.ok q, s') →
    q.types = types
      ∧ ∀ leaf ∈ sourceLeaves catalog types query s, leaf.Fills catalog types s'.params
  | .mk recursive ctes body orderBy limit offset offsetWord fetch lock, s, s', q, h => by
    unfold bindQuery at h
    split at h
    · cases h
    · obtain ⟨t, hinside, rfl⟩ := Walk.run_withScope_ok h
      obtain ⟨output, s₁, hbody, h⟩ := Walk.run_bind_ok hinside
      obtain ⟨_, s₂, horder, h⟩ := Walk.run_bind_ok h
      obtain ⟨_, s₃, hlimit, h⟩ := Walk.run_bind_ok h
      obtain ⟨_, s₄, hoffset, h⟩ := Walk.run_bind_ok h
      cases h
      obtain ⟨hq, hleaves⟩ := bindBody_fills false body hbody
      -- what is bound behind the body leaves the types that it has found
      have hkeeps : s₁.params.Keeps t.params := by
        let R := Frame.settled.stepRelation catalog
        exact ((keeps_of_run (R.bindOrder_related _ orderBy) horder).trans
          (keeps_of_run (R.bindCount_related limit) hlimit)).trans
            (keeps_of_run (R.bindCount_related offset) hoffset)
      unfold sourceLeaves
      refine ⟨hq, fun leaf hleaf => (hleaves leaf hleaf).mono ?_ hkeeps⟩
      exact fun t ht => (hcounts t ht).1

/-- **Every leaf fills the columns**, and what comes of them has their types. -/
theorem bindBody_fills (combined : Bool) : (body : Body) → {s s' : BindState} → {q : BoundQuery} →
    bindBody catalog combined (some types) body s = (.ok q, s') →
    q.types = types
      ∧ ∀ leaf ∈ sourceLeavesOf catalog types combined body s, leaf.Fills catalog types s'.params
  | .select quantity items tables condition groupBy having rest, s, s', q, h => by
    obtain ⟨hq, hleaf⟩ := bindBody_select_fills (fun t ht => (hcounts t ht).1) h
    unfold sourceLeavesOf
    exact ⟨hq, List.forall_mem_singleton.2 hleaf⟩
  | .query query, s, s', q, h => by
    unfold bindBody at h
    unfold sourceLeavesOf
    exact bindQuery_fills query h
  | .operation op quantity left right, s, s', q, h => by
    unfold bindBody at h
    obtain ⟨l, s₁, hleft, h⟩ := Walk.run_bind_ok h
    obtain ⟨r, s₂, hright, h⟩ := Walk.run_bind_ok h
    obtain ⟨hl, hlefts⟩ := bindBody_fills true left hleft
    obtain ⟨hr, hrights⟩ := bindBody_fills true right hright
    -- both sides have the types, so nothing is left to be done
    rw [combineQueries_of_types hcounts hl hr] at h
    cases h
    have hkeeps : s₁.params.Keeps s'.params :=
      keeps_of_run ((Frame.settled.stepRelation catalog).bindBody_related _ right).2 hright
    unfold sourceLeavesOf
    rw [hleft]
    refine ⟨hl, List.forall_mem_append.2 ⟨fun leaf hleaf => ?_, hrights⟩⟩
    exact (hlefts leaf hleaf).mono (fun t ht => (hcounts t ht).1) hkeeps
  | .values explicit rows, s, s', q, h => by
    obtain ⟨hq, hleaf⟩ := bindBody_values_fills (fun t ht => (hcounts t ht).1) h
    unfold sourceLeavesOf
    exact ⟨hq, List.forall_mem_singleton.2 hleaf⟩
  | .other text outline, s, s', q, h => by
    unfold bindBody at h
    cases h

end

end

/-! ## The columns that are filled -/

/-- The types are those of the columns that an `INSERT` fills, in their order: the columns that it
names, or all columns of its table. -/
def Sql.Insert.Targets (catalog : Catalog) (i : Insert) (types : List SqlType) : Prop :=
  ∃ plain table, tableName i.table = .ok plain ∧ catalog.table plain = .ok table
    ∧ if i.columns = [] then types = table.columns.map Column.type
      else List.Forall₂ (fun name t => ∃ c, table.column? name.folded = some c ∧ c.type = t)
        i.columns types

theorem namedColumnTypes_ok_iff {table : Table} {name : String} {columns : List Ident}
    {types : List SqlType} : namedColumnTypes table name columns = .ok types
      ↔ List.Forall₂ (fun name t => ∃ c, table.column? name.folded = some c ∧ c.type = t)
        columns types := by
  induction columns generalizing types with
  | nil =>
    rw [List.forall₂_nil_left_iff]
    unfold namedColumnTypes
    exact ⟨fun h => (Except.ok.inj h).symm, fun h => congrArg Except.ok h.symm⟩
  | cons column columns ih =>
    unfold namedColumnTypes
    -- the first column is looked up before the rest, and its failure is that of all
    cases hcolumn : table.column? column.folded with
    | none =>
      refine iff_of_false (by simp) fun h => ?_
      obtain ⟨t, rest, ⟨c, hfound, -⟩, -, -⟩ := List.forall₂_cons_left_iff.1 h
      rw [hcolumn] at hfound
      cases hfound
    | some c =>
      cases hrest : namedColumnTypes table name columns with
      | error e =>
        refine iff_of_false (by simp) fun h => ?_
        obtain ⟨t, rest, -, hrest', -⟩ := List.forall₂_cons_left_iff.1 h
        rw [ih.2 hrest'] at hrest
        cases hrest
      | ok rest =>
        rw [List.forall₂_cons_left_iff]
        constructor
        · intro h
          exact ⟨c.type, rest, ⟨c, hcolumn, rfl⟩, ih.1 hrest, (Except.ok.inj h).symm⟩
        · rintro ⟨t, rest', ⟨c', hfound, rfl⟩, hrest', rfl⟩
          obtain rfl : c = c' := Option.some.inj (hcolumn.symm.trans hfound)
          rw [ih.2 hrest'] at hrest
          obtain rfl : rest' = rest := Except.ok.inj hrest
          rfl

theorem Table.mem_of_column? {table : Table} {name : String} {c : Column}
    (h : table.column? name = some c) : c ∈ table.columns := by
  obtain ⟨i, -, hi⟩ := Option.bind_eq_some_iff.1 h
  exact List.mem_of_getElem? hi

section

variable {catalog : Catalog} {i : Insert} {types : List SqlType}

theorem Sql.Insert.targets_iff : i.Targets catalog types
    ↔ ∃ plain table, tableName i.table = .ok plain ∧ catalog.table plain = .ok table
      ∧ insertTypes table plain i.columns = .ok types := by
  refine exists_congr fun plain => exists_congr fun table => and_congr_right fun _ =>
    and_congr_right fun _ => ?_
  unfold insertTypes
  by_cases hall : i.columns = []
  · rw [if_pos hall, if_pos (List.isEmpty_iff.2 hall)]
    exact ⟨fun h => congrArg Except.ok h.symm, fun h => (Except.ok.inj h).symm⟩
  · rw [if_neg hall, if_neg (mt List.isEmpty_iff.1 hall)]
    exact namedColumnTypes_ok_iff.symm

/-- A type that is wanted is that of a column of the table. -/
theorem Sql.Insert.Targets.counts
    (hconcrete : ∀ name table, catalog.table name = .ok table → ∀ c ∈ table.columns, c.type.Counts)
    (h : i.Targets catalog types) : ∀ t ∈ types, t.Counts := by
  obtain ⟨plain, table, -, htable, h⟩ := h
  intro t ht
  split at h
  · subst h
    obtain ⟨c, hc, rfl⟩ := List.mem_map.1 ht
    exact hconcrete plain table htable c hc
  · obtain ⟨j, hj, rfl⟩ := List.mem_iff_getElem.1 ht
    obtain ⟨c, hfound, htype⟩ := (List.forall₂_iff_get.1 h).2 j (by rw [h.length_eq]; exact hj) hj
    have htype : c.type = types[j] := htype
    rw [← htype]
    exact hconcrete plain table htable c (Table.mem_of_column? hfound)

/-- An `INSERT` that is bound has types to fill, and its source has been bound with them. -/
theorem bindInsert_ok {s s' : BindState} (h : bindInsert catalog i s = (.ok (), s')) :
    ∃ types q, i.Targets catalog types
      ∧ bindQuery catalog (some types) i.source s = (.ok q, s') := by
  unfold bindInsert at h
  obtain ⟨plain, s₁, hname, h⟩ := Walk.run_bind_ok h
  obtain ⟨hplain, rfl⟩ := ok_of_ofResult hname
  obtain ⟨table, s₂, hfound, h⟩ := Walk.run_bind_ok h
  obtain ⟨htable, rfl⟩ := ok_of_ofCatalog hfound
  obtain ⟨types, s₃, hwanted, h⟩ := Walk.run_bind_ok h
  obtain ⟨htypes, rfl⟩ := ok_of_ofResult hwanted
  obtain ⟨q, s₄, hquery, h⟩ := Walk.run_bind_ok h
  cases h
  exact ⟨types, q, Insert.targets_iff.2 ⟨plain, table, hplain, htable, htypes⟩, hquery⟩

theorem Sql.Insert.Targets.unique {types' : List SqlType} (h : i.Targets catalog types)
    (h' : i.Targets catalog types') : types = types' := by
  obtain ⟨plain, table, hplain, htable, htypes⟩ := Insert.targets_iff.1 h
  obtain ⟨plain', table', hplain', htable', htypes'⟩ := Insert.targets_iff.1 h'
  obtain rfl : plain = plain' := Except.ok.inj (hplain.symm.trans hplain')
  obtain rfl : table = table' := Except.ok.inj (htable.symm.trans htable')
  exact Except.ok.inj (htypes.symm.trans htypes')

end

/-- **The source of an `INSERT` has the types of the columns that it fills**, where tables have
columns of types that say something. If the statement is bound, its source gives as many columns,
with exactly these types in this order; every leaf of the source, and every row of its lists of
values, is as wide; and each parameter that stands in such a row and had no type when the row was
bound has the type of its column in the end. If one of them is not as wide, the statement fails. -/
theorem bindInsert_fills {catalog : Catalog}
    (hconcrete : ∀ name table, catalog.table name = .ok table → ∀ c ∈ table.columns, c.type.Counts)
    (i : Insert) (s : BindState) :
    (∀ s', bindInsert catalog i s = (.ok (), s') →
      ∃ types q, i.Targets catalog types
        ∧ bindQuery catalog (some types) i.source s = (.ok q, s')
        ∧ q.columns.length = types.length ∧ q.types = types
        ∧ ∀ leaf ∈ sourceLeaves catalog types i.source s, leaf.Fills catalog types s'.params)
      ∧ ∀ types, i.Targets catalog types →
        (∃ leaf ∈ sourceLeaves catalog types i.source s,
          ∃ width ∈ leaf.widths catalog, width ≠ types.length) →
        ∃ e, (bindInsert catalog i s).1 = .error e := by
  constructor
  · intro s' h
    obtain ⟨types, q, htargets, hquery⟩ := bindInsert_ok h
    obtain ⟨hq, hleaves⟩ := bindQuery_fills (htargets.counts hconcrete) i.source hquery
    have hwidth : q.columns.length = types.length := by
      rw [← hq]
      exact (List.length_map _).symm
    exact ⟨types, q, htargets, hquery, hwidth, hq, hleaves⟩
  · rintro types htargets ⟨leaf, hleaf, width, hmem, hne⟩
    rcases hrun : bindInsert catalog i s with ⟨e | u, s'⟩
    · exact ⟨e, rfl⟩
    · -- an `INSERT` that is bound has no such leaf
      obtain ⟨types', q, htargets', hquery⟩ := bindInsert_ok hrun
      obtain rfl : types' = types := htargets'.unique htargets
      obtain ⟨-, hleaves⟩ := bindQuery_fills (htargets.counts hconcrete) i.source hquery
      exact absurd ((hleaves leaf hleaf).width_eq width hmem) hne

/-- `INSERT INTO t (b, a) SELECT $1, $2 UNION (VALUES ('x', '5'), ($3, 7))` -/
def Sql.Insert.crosswise : Insert :=
  ⟨false, true, false, [⟨"t", none⟩], [⟨"b", none⟩, ⟨"a", none⟩], [], [],
    .mk false [] (.union
        (.selecting [.literal (.placeholder "$1"), .literal (.placeholder "$2")])
        (.query (.mk false []
          (.values false [[.literal (.singleQuoted "x"), .literal (.singleQuoted "5")],
            [.literal (.placeholder "$3"), .literal (.number "7" false)]])
          [] none none .none none none)))
      [] none none .none none none, none, []⟩

/-- `INSERT INTO t VALUES (1, 'x'), (2)` -/
def Sql.Insert.ragged : Insert :=
  ⟨false, true, false, [⟨"t", none⟩], [], [], [],
    .mk false [] (.values false [[.literal (.number "1" false), .literal (.singleQuoted "x")],
      [.literal (.number "2" false)]]) [] none none .none none none, none, []⟩

theorem Catalog.withPair_counts (name : String) (table : Table)
    (h : Catalog.withPair.table name = .ok table) : ∀ c ∈ table.columns, c.type.Counts := by
  unfold Catalog.table Catalog.withPair at h
  rw [NameMap.find?_insert] at h
  by_cases hname : "t" = name
  · rw [if_pos hname] at h
    cases h
    decide
  · rw [if_neg hname, NameMap.find?_empty] at h
    cases h

/-- Both leaves of the first source fill the columns, and the three parameters have their types in
the end. The second source has a row that is too short. -/
theorem bindInsert_fills_crosswise :
    (∀ name table, Catalog.withPair.table name = .ok table → ∀ c ∈ table.columns, c.type.Counts)
      ∧ (∃ s' : BindState,
        bindInsert .withPair .crosswise (.initial (.inferred [] 65535)) = (.ok (), s')
          ∧ s'.params = .inferred [.varchar, .int, .varchar] 65535
          ∧ ∃ types q, Insert.crosswise.Targets .withPair types
            ∧ bindQuery .withPair (some types) Insert.crosswise.source
              (.initial (.inferred [] 65535)) = (.ok q, s')
            ∧ q.columns.length = types.length ∧ q.types = types
            ∧ (sourceLeaves .withPair types Insert.crosswise.source
                (.initial (.inferred [] 65535))).length = 2
            ∧ ∀ leaf ∈ sourceLeaves .withPair types Insert.crosswise.source
                (.initial (.inferred [] 65535)), leaf.Fills .withPair types s'.params)
      ∧ Insert.ragged.Targets .withPair [.int, .varchar]
      ∧ ∃ e, (bindInsert .withPair .ragged (.initial ParamTypes.absent)).1 = .error e := by
  have hparams : (bindInsert .withPair .crosswise
      (.initial (ParamTypes.inferred [] 65535))).2.params
        = .inferred [.varchar, .int, .varchar] 65535 := by
    decide +kernel
  have hok : (bindInsert .withPair .crosswise (.initial (ParamTypes.inferred [] 65535))).1.isOk
      = true := by
    decide +kernel
  have hragged : Insert.ragged.Targets .withPair [.int, .varchar] :=
    ⟨"t", _, rfl, rfl, rfl⟩
  have hmisfit := (bindInsert_fills Catalog.withPair_counts .ragged (.initial .absent)).2
    [.int, .varchar] hragged ⟨_, List.mem_cons_self, 1, by decide, by decide⟩
  refine ⟨Catalog.withPair_counts, ?_, hragged, hmisfit⟩
  rcases hrun : bindInsert .withPair .crosswise (.initial (ParamTypes.inferred [] 65535))
    with ⟨e | u, s'⟩
  · rw [hrun] at hok
    cases hok
  · rw [hrun] at hparams
    obtain ⟨types, q, htargets, hquery, hwidth, hq, hleaves⟩ :=
      (bindInsert_fills Catalog.withPair_counts .crosswise (.initial (.inferred [] 65535))).1 s' hrun
    exact ⟨s', rfl, hparams, types, q, htargets, hquery, hwidth, hq, rfl, hleaves⟩

end Prepared
