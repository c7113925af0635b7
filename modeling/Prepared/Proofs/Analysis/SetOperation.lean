import Prepared.Proofs.Analysis.Unification
import Prepared.Proofs.Analysis.Width

/-!
# The types of set operations

A set operation brings each pair of columns to a common type and goes on with the expression of the
first side, which then stands for the whole column. One level up it is brought to the next common
type in place of all the expressions below it. As implicit casts compose, that is sound as long as
it is cast; a literal is converted instead, and says nothing about the other expressions of its
column.

So the expressions at the leaves of a tree of set operations cast to the types of its output
(`bindBody_leaves`), with one exception: text that is in an operand together with a literal that
stands for the column has been adapted to once, and the literal adapts again
(`bindBody_leaves_unionText`).
-/

namespace Prepared

open Sql BindM Walk

/-! ## Bringing expressions to a type -/

theorem exists_getElem?_of_forall₂ {α β : Type} {R : α → β → Prop} {as : List α} {bs : List β}
    (h : List.Forall₂ R as bs) {j : Nat} {a : α} (ha : as[j]? = some a) :
    ∃ b, bs[j]? = some b ∧ R a b := by
  induction h generalizing j with
  | nil => cases ha
  | cons hab _ ih =>
    cases j with
    | zero =>
      cases ha
      exact ⟨_, rfl, hab⟩
    | succ j => exact ih ha

theorem exists_getElem?_of_length_eq {α β : Type} {as : List α} {bs : List β}
    (h : as.length = bs.length) {j : Nat} {a : α} (ha : as[j]? = some a) :
    ∃ b, bs[j]? = some b := by
  have hj : j < bs.length := by
    rw [← h]
    exact (List.getElem?_eq_some_iff.1 ha).1
  exact ⟨_, List.getElem?_eq_getElem hj⟩

namespace BoundExpr

/-- The second expression is the first one, brought to the type `c`: it is converted if it is a
literal, and cast otherwise. -/
structure Brought (c : SqlType) (e e' : BoundExpr) : Prop where
  type_eq : e'.type = c
  casts : e.isUntypedLiteral = true ∨ e.type.implicitlyCasts c = true
  literal : e'.isUntypedLiteral = true → e.isUntypedLiteral = true

variable {c : SqlType}

theorem Adapted.brought (hc : c.isResolved = true) {e e' : BoundExpr} (h : Adapted c e e') :
    Brought c e e' where
  type_eq := h.type_eq hc
  casts := by
    cases hliteral : e.isUntypedLiteral with
    | true => exact Or.inl rfl
    | false => exact Or.inr (h.casts hliteral)
  literal := by
    cases h with
    | kept _ => exact id
    | granted => exact nofun
    -- a literal that is converted to text, or that is null, stays a literal
    | converted hliteral _ => exact fun _ => hliteral
    | cast _ => exact nofun

theorem coerceAll_brought (hc : c.isResolved = true) (es : List BoundExpr) :
    Yields (coerceAll c es : BindM _) (List.Forall₂ (Brought c) es) :=
  (coerceAll_adapted ParamTypes.grants hc es).mono fun _ h => h.imp fun _ _ => Adapted.brought hc

theorem unify_brought (es : List BoundExpr) :
    Yields (unify es (some .varchar) : BindM _) fun r => List.Forall₂ (Brought r.2) es r.1 := by
  unfold unify
  have hcommon : Yields (ofType (unifiedType es (some .varchar)) : BindM _) fun common =>
      unifiedType es (some .varchar) = .ok common := .ofType fun _ h => h
  refine hcommon.bind fun common h => ?_
  cases common with
  | none =>
    -- with text to fall back on there is always a common type
    exact absurd h (unifiedType_ne_none es .varchar)
  | some c =>
    have hc : c.isResolved = true := (counts_unifiedType Sim.counts_varchar h).1
    exact (coerceAll_brought hc es).bind fun es' hes => .pure hes

/-- The expression can take the place of all the others: those that are no literals cast to its
type, and it is a literal itself only if the first of them is one. -/
structure StandsFor (out : BoundExpr) (es : List BoundExpr) : Prop where
  casts : ∀ e ∈ es, e.isUntypedLiteral = true ∨ e.type.implicitlyCasts out.type = true
  literal : out.isUntypedLiteral = true → es.head?.any isUntypedLiteral = true

theorem standsFor_of_brought {e e' : BoundExpr} {es es' : List BoundExpr}
    (h : List.Forall₂ (Brought c) (e :: es) (e' :: es')) : e'.StandsFor (e :: es) := by
  obtain ⟨he, -⟩ := List.forall₂_cons.1 h
  refine ⟨fun f hf => ?_, he.literal⟩
  rw [he.type_eq]
  obtain ⟨j, hj⟩ := List.mem_iff_getElem?.1 hf
  obtain ⟨f', -, hbrought⟩ := exists_getElem?_of_forall₂ h hj
  exact hbrought.casts

end BoundExpr

open BoundExpr

theorem firstUnified_standsFor (e : BoundExpr) (es : List BoundExpr) :
    Yields (firstUnified (e :: es) : BindM _)
      fun r => ∃ out, r = [out] ∧ out.StandsFor (e :: es) := by
  refine (unify_brought (e :: es)).bind fun r hr => .pure ?_
  obtain ⟨es', c⟩ := r
  cases hr with
  | cons he hes => exact ⟨_, rfl, standsFor_of_brought (.cons he hes)⟩

/-- Each expression that is left of a column stands for it. -/
theorem unifyColumns_standsFor {columns : List (List BoundExpr)} (h : ∀ c ∈ columns, c ≠ []) :
    Yields (unifyColumns columns none : BindM _) fun es => List.Forall₂ StandsFor es columns := by
  induction columns with
  | nil =>
    unfold unifyColumns
    exact .pure .nil
  | cons column columns ih =>
    obtain ⟨hcolumn, hcolumns⟩ := List.forall_mem_cons.1 h
    obtain ⟨e, es, rfl⟩ := List.exists_cons_of_ne_nil hcolumn
    unfold unifyColumns
    refine (firstUnified_standsFor e es).bind fun first hfirst => ?_
    obtain ⟨out, rfl, hout⟩ := hfirst
    exact (ih hcolumns).bind fun rest hrest => .pure (.cons hout hrest)

/-! ## The leaves of a tree -/

/-- What is combined at the bottom of a tree of set operations: the output of a `SELECT`, or the
rows of a list of values. -/
structure SetLeaf where
  names : List String
  rows : List (List BoundExpr)
  /-- The first rows of the operands that the leaf is in. What such an operand gives is as its first
  row is, brought to the types of its columns. -/
  leading : List (List BoundExpr)

/-- The first row of the first leaf. -/
def leadingRow (leaves : List SetLeaf) : List BoundExpr :=
  (leaves.head?.bind fun leaf => leaf.rows.head?).getD []

/-- The leaves of an operand of a set operation. -/
def operandLeaves (leaves : List SetLeaf) : List SetLeaf :=
  leaves.map fun leaf => { leaf with leading := leadingRow leaves :: leaf.leading }

section

variable (catalog : Catalog)

mutual

/-- The leaves of a query that is bound from a given state. -/
def queryLeaves : Query → BindState → List SetLeaf
  | .mk _ _ body _ _ _ _ _ _ => fun s =>
    bodyLeaves false body { s with scopes := Scope.empty :: s.scopes }

/-- The leaves of the body of a query that is bound from a given state: what stands on the right of
an operator is bound in the state that its left side leads to. -/
def bodyLeaves (combined : Bool) : Body → BindState → List SetLeaf
  | .operation _ _ left right => fun s =>
    operandLeaves (bodyLeaves true left s)
      ++ operandLeaves (bodyLeaves true right (bindBody catalog true none left s).2)
  | .query query => queryLeaves query
  | .values _ rows => fun s =>
    let width := (rows.head?.map List.length).getD 0
    match (bindRows catalog width rows s).1 with
    | .ok bound => [⟨valueNames width, bound, []⟩]
    | .error _ => []
  | body => fun s =>
    match (bindBody catalog combined none body s).1 with
    | .ok q => [⟨q.names, [q.columns], []⟩]
    | .error _ => []

end

end

namespace SetLeaf

/-- An operand that the leaf is in has a literal for the column, which adapts to any type. -/
def TakenOver (leaf : SetLeaf) (j : Nat) : Prop :=
  ∃ row ∈ leaf.leading, row[j]?.any isUntypedLiteral = true

/-- The leaf has as many columns as the output, and its types cast to those of the output, but for
what is excused. -/
structure Fits (leaf : SetLeaf) (excused : Nat → BoundExpr → Prop) (q : BoundQuery) : Prop where
  names_length : leaf.names.length = q.columns.length
  row_length : ∀ row ∈ leaf.rows, row.length = q.columns.length
  casts : ∀ row ∈ leaf.rows, ∀ j e out, row[j]? = some e → q.columns[j]? = some out →
    excused j e ∨ e.type.implicitlyCasts out.type = true

/-- Literals adapt, and so does text in an operand that has a literal for the column. -/
def Adapts (leaf : SetLeaf) (j : Nat) (e : BoundExpr) : Prop :=
  e.isUntypedLiteral = true ∨ e.type = .varchar ∧ leaf.TakenOver j

end SetLeaf

/-! ## What an output stands for -/

/-- What holds of an output and the leaves below it. An expression of the output that is a literal
comes from a literal in the first row of the first leaf. -/
structure BoundQuery.Unites (q : BoundQuery) (leaves : List SetLeaf) : Prop where
  names : leaves.head?.map SetLeaf.names = some q.names
  fits : ∀ leaf ∈ leaves, leaf.Fits leaf.Adapts q
  literal : ∀ (j : Nat) (out : BoundExpr), q.columns[j]? = some out →
    out.isUntypedLiteral = true → (leadingRow leaves)[j]?.any isUntypedLiteral = true

/-- What casts to the type of a literal is text, or casts to every type. -/
theorem varchar_or_casts {e m : BoundExpr} (hm : m.isUntypedLiteral = true)
    (h : e.type.implicitlyCasts m.type = true) :
    e.type = .varchar ∨ ∀ t, e.type.implicitlyCasts t = true := by
  have hm' : m.type = .varchar ∨ m.type = .null := by
    cases m with
    | constant name value => simpa [isUntypedLiteral, type] using hm
    | column | parameter | computed => cases hm
  have hnothing : e.type = .null ∨ e.type = .unknown → ∀ t, e.type.implicitlyCasts t = true := by
    rintro (hnone | hnone) t <;> simp [hnone, SqlType.implicitlyCasts]
  rcases SqlType.implicitlyCasts_cases h with hsame | hnull | hunknown | ⟨-, hnumeric⟩
  · rcases hm' with hvarchar | hnull
    · exact Or.inl (hsame.trans hvarchar)
    · exact Or.inr (hnothing (Or.inl (hsame.trans hnull)))
  · exact Or.inr (hnothing (Or.inl hnull))
  · exact Or.inr (hnothing (Or.inr hunknown))
  · rcases hm' with hm' | hm' <;> rw [hm'] at hnumeric <;> cases hnumeric

namespace BoundQuery.Unites

variable {l r q : BoundQuery} {ls rs : List SetLeaf}

/-- **One side of a set operation.** Its leaves fit what comes of the operation if its columns do:
they cast to those of the output, or they are literals. -/
theorem operand (h : l.Unites ls) (hwidth : q.columns.length = l.columns.length)
    (hcasts : ∀ (j : Nat) (m out : BoundExpr), l.columns[j]? = some m → q.columns[j]? = some out →
      m.isUntypedLiteral = true ∨ m.type.implicitlyCasts out.type = true) :
    ∀ leaf ∈ operandLeaves ls, leaf.Fits leaf.Adapts q := by
  intro leaf hleaf
  obtain ⟨leaf, hmem, rfl⟩ := List.mem_map.1 hleaf
  obtain ⟨hnames, hrows, hfit⟩ := h.fits leaf hmem
  refine ⟨hnames.trans hwidth.symm, fun row hrow => (hrows row hrow).trans hwidth.symm, ?_⟩
  intro row hrow j e out he hout
  obtain ⟨m, hm⟩ := exists_getElem?_of_length_eq hwidth hout
  -- the leaf adapted below already, or it casts to what stands for its column
  rcases hfit row hrow j e m he hm with (hliteral | ⟨htext, row', hrow', hlead⟩) | hcast
  · exact Or.inl (Or.inl hliteral)
  · exact Or.inl (Or.inr ⟨htext, row', List.mem_cons_of_mem _ hrow', hlead⟩)
  · rcases hcasts j m out hm hout with hliteral | hcast'
    · -- a literal stands for the column: only text does not cast to what it is converted to
      rcases varchar_or_casts hliteral hcast with htext | hall
      · exact Or.inl (Or.inr ⟨htext, _, List.mem_cons_self, h.literal j m hm hliteral⟩)
      · exact Or.inr (hall out.type)
    · exact Or.inr (SqlType.implicitlyCasts_trans hcast hcast')

/-- **A set operation.** What comes of it unites the leaves of both sides. -/
theorem combine (hl : l.Unites ls) (hr : r.Unites rs)
    (hwidths : l.columns.length = r.columns.length) (hnames : q.names = l.names)
    (hpairs : List.Forall₂ StandsFor q.columns
      (List.zipWith (fun m n => [m, n]) l.columns r.columns)) :
    q.Unites (operandLeaves ls ++ operandLeaves rs) := by
  have hwidth : q.columns.length = l.columns.length := by
    rw [hpairs.length_eq, List.length_zipWith, ← hwidths, Nat.min_self]
  have hpair : ∀ (j : Nat) (m n out : BoundExpr), l.columns[j]? = some m → r.columns[j]? = some n →
      q.columns[j]? = some out → out.StandsFor [m, n] := by
    intro j m n out hm hn hout
    obtain ⟨pair, hpair, hout⟩ := exists_getElem?_of_forall₂ hpairs hout
    rw [List.getElem?_zipWith, hm, hn] at hpair
    cases hpair
    exact hout
  have hwidth' : q.columns.length = r.columns.length := hwidth.trans hwidths
  -- the first leaf of the left side is the first of all
  obtain ⟨first, rest, rfl⟩ : ∃ first rest, ls = first :: rest := by
    have hne : ls ≠ [] := by
      rintro rfl
      cases hl.names
    exact List.exists_cons_of_ne_nil hne
  refine ⟨?_, List.forall_mem_append.2 ⟨?_, ?_⟩, ?_⟩
  · rw [hnames]
    exact hl.names
  · refine hl.operand hwidth fun j m out hm hout => ?_
    obtain ⟨n, hn⟩ := exists_getElem?_of_length_eq hwidth' hout
    exact (hpair j m n out hm hn hout).casts m List.mem_cons_self
  · refine hr.operand hwidth' fun j n out hn hout => ?_
    obtain ⟨m, hm⟩ := exists_getElem?_of_length_eq hwidth hout
    exact (hpair j m n out hm hn hout).casts n (List.mem_cons_of_mem _ List.mem_cons_self)
  · intro j out hout hliteral
    obtain ⟨m, hm⟩ := exists_getElem?_of_length_eq hwidth hout
    obtain ⟨n, hn⟩ := exists_getElem?_of_length_eq hwidth' hout
    exact hl.literal j m hm ((hpair j m n out hm hn hout).literal hliteral)

/-- A `SELECT` stands for itself. -/
theorem select (hq : q.Named) : q.Unites [⟨q.names, [q.columns], []⟩] where
  names := rfl
  fits := by
    intro leaf hleaf
    obtain rfl := List.mem_singleton.1 hleaf
    refine ⟨hq, ?_, ?_⟩
    · intro row hrow
      rw [List.mem_singleton.1 hrow]
    · intro row hrow j e out he hout
      rw [List.mem_singleton.1 hrow, hout] at he
      cases he
      exact Or.inr (SqlType.implicitlyCasts_self _)
  literal j out hout hliteral := by
    show q.columns[j]?.any isUntypedLiteral = true
    rw [hout]
    exact hliteral

/-- A list of values: each column of its output stands for the column of its rows. -/
theorem values {width : Nat} {rows : List (List BoundExpr)} {columns : List BoundExpr}
    (hrows : ∀ row ∈ rows, row.length = width)
    (h : List.Forall₂ StandsFor columns (columnsOf width rows)) :
    Unites ⟨valueNames width, columns⟩ [⟨valueNames width, rows, []⟩] := by
  have hwidth : columns.length = width := h.length_eq.trans (length_columnsOf width rows)
  have hcolumn : ∀ (j : Nat) (out : BoundExpr), columns[j]? = some out →
      out.StandsFor (rows.filterMap (·[j]?)) := by
    intro j out hout
    obtain ⟨column, hcolumn, hout⟩ := exists_getElem?_of_forall₂ h hout
    obtain ⟨hj, hj'⟩ := List.getElem?_eq_some_iff.1 hcolumn
    rw [← hj'] at hout
    simpa [columnsOf] using hout
  refine ⟨rfl, ?_, ?_⟩
  · intro leaf hleaf
    obtain rfl := List.mem_singleton.1 hleaf
    refine ⟨?_, fun row hrow => (hrows row hrow).trans hwidth.symm, ?_⟩
    · rw [hwidth]
      simp [valueNames]
    · intro row hrow j e out he hout
      have hmem : e ∈ rows.filterMap (·[j]?) := List.mem_filterMap.2 ⟨row, hrow, he⟩
      exact ((hcolumn j out hout).casts e hmem).imp_left Or.inl
  · intro j out hout hliteral
    have hfirst := (hcolumn j out hout).literal hliteral
    -- the first expression of the column is that of the first row
    cases rows with
    | nil => cases hfirst
    | cons row rows =>
      have hlength : columns.length = row.length :=
        hwidth.trans (hrows row List.mem_cons_self).symm
      obtain ⟨e, he⟩ := exists_getElem?_of_length_eq hlength hout
      simp only [List.filterMap_cons, he] at hfirst
      show row[j]?.any isUntypedLiteral = true
      rw [he]
      exact hfirst

end BoundQuery.Unites

/-! ## Trees of set operations -/

section

variable (catalog : Catalog)

theorem combineQueries_unites {l r : BoundQuery} {ls rs : List SetLeaf} (hl : l.Unites ls)
    (hr : r.Unites rs) : Yields (combineQueries l r : BindM _)
      fun q => q.Unites (operandLeaves ls ++ operandLeaves rs) := by
  unfold combineQueries
  split
  · exact .throw _
  · rename_i hwidths
    have hsame : l.columns.length = r.columns.length := Decidable.not_not.1 hwidths
    rw [combineColumns_eq_unifyColumns]
    have hpairs : ∀ c ∈ List.zipWith (fun m n => [m, n]) l.columns r.columns, c ≠ [] :=
      ne_nil_of_mem_pairs
    refine (unifyColumns_standsFor hpairs).bind fun columns h => .pure ?_
    exact hl.combine hr hsame rfl h

mutual

theorem bindQuery_unites : (query : Query) → (s : BindState) → {q : BoundQuery} →
    {s' : BindState} → bindQuery catalog none query s = (.ok q, s') →
    q.Unites (queryLeaves catalog query s)
  | .mk recursive ctes body orderBy limit offset offsetWord fetch lock, s, q, s', h => by
    unfold bindQuery at h
    split at h
    · cases h
    · obtain ⟨t, h, -⟩ := Walk.run_withScope_ok h
      obtain ⟨output, s₁, hbody, h⟩ := Walk.run_bind_ok h
      -- the order and the limits are bound after the output and leave it as it is
      obtain ⟨-, s₂, -, h⟩ := Walk.run_bind_ok h
      obtain ⟨-, s₃, -, h⟩ := Walk.run_bind_ok h
      obtain ⟨-, s₄, -, h⟩ := Walk.run_bind_ok h
      cases h
      unfold queryLeaves
      exact bindBody_unites false body _ hbody

theorem bindBody_unites (combined : Bool) : (body : Body) → (s : BindState) → {q : BoundQuery} →
    {s' : BindState} → bindBody catalog combined none body s = (.ok q, s') →
    q.Unites (bodyLeaves catalog combined body s)
  | .select quantity items tables condition groupBy having rest, s, q, s', h => by
    have hnamed : q.Named := bindBody_named catalog combined none _ s q s' h
    unfold bodyLeaves
    simp only [h]
    exact .select hnamed
  | .query query, s, q, s', h => by
    unfold bindBody at h
    unfold bodyLeaves
    exact bindQuery_unites query s h
  | .operation op quantity left right, s, q, s', h => by
    unfold bindBody at h
    obtain ⟨l, s₁, hleft, h⟩ := Walk.run_bind_ok h
    obtain ⟨r, s₂, hright, h⟩ := Walk.run_bind_ok h
    -- the right side is bound in the state that the left one leads to
    have hl := bindBody_unites true left s hleft
    have hr := bindBody_unites true right s₁ hright
    unfold bodyLeaves
    rw [hleft]
    exact combineQueries_unites hl hr s₂ q s' h
  | .values explicit rows, s, q, s', h => by
    unfold bindBody at h
    obtain ⟨_, s₁, hcheck, h⟩ := Walk.run_bind_ok h
    -- no width is expected, so nothing has happened yet
    cases hcheck
    obtain ⟨bound, s₂, hrows, h⟩ := Walk.run_bind_ok h
    obtain ⟨columns, s₃, hcolumns, h⟩ := Walk.run_bind_ok h
    cases h
    obtain ⟨hcount, hwidths⟩ := bindRows_width catalog _ rows s bound s₂ hrows
    have hne := ne_nil_of_mem_columnsOf hcount hwidths
    have hstand := unifyColumns_standsFor hne s₂ columns _ hcolumns
    unfold bodyLeaves
    simp only [hrows]
    exact .values hwidths hstand
  | .other text outline, s, q, s', h => by
    unfold bindBody at h
    cases h

end

/-- **The types of set operations.** What a tree of set operations gives that is bound without
expected types has the names of its first leaf and the width of all its leaves, and every expression
of every row of a leaf is a literal, casts to the type of its column, or is text in an operand that
has a literal for the column. -/
theorem bindBody_leaves {combined : Bool} {body : Body} {s s' : BindState} {q : BoundQuery}
    (h : bindBody catalog combined none body s = (.ok q, s')) :
    (bodyLeaves catalog combined body s).head?.map SetLeaf.names = some q.names
      ∧ ∀ leaf ∈ bodyLeaves catalog combined body s, leaf.Fits leaf.Adapts q := by
  have hunites := bindBody_unites catalog combined body s h
  exact ⟨hunites.names, hunites.fits⟩

end

/-- A `SELECT` without tables. -/
def Sql.Body.selecting (items : List Expr) : Body :=
  .select false (items.map .unnamed) [] none [] none (.mk none none [] [] [] [] none)

def Sql.Body.union (left right : Body) : Body :=
  .operation .union .none left right

/-- `SELECT NULL UNION (SELECT 1 UNION VALUES ('2'), (3))` -/
def Sql.Body.unionValues : Body :=
  .union (.selecting [.literal .null])
    (.union (.selecting [.literal (.number "1" false)])
      (.values false [[.literal (.singleQuoted "2")], [.literal (.number "3" false)]]))

/-- The literals take the type of the numbers. -/
theorem bindBody_leaves_unionValues :
    ∃ q s', bindBody .empty true none .unionValues (.initial ParamTypes.absent) = (.ok q, s')
      ∧ q.names = ["NULL"] ∧ q.types = [.int]
      ∧ (bodyLeaves .empty true .unionValues (.initial .absent)).map
          (fun leaf => leaf.rows.map fun row => row.map BoundExpr.type)
        = [[[.null]], [[.int]], [[.varchar], [.int]]]
      ∧ ∀ leaf ∈ bodyLeaves .empty true .unionValues (.initial .absent),
          leaf.Fits leaf.Adapts q := by
  obtain ⟨q, s', hrun, hnames, htypes⟩ :
      ∃ q s', bindBody .empty true none .unionValues (.initial ParamTypes.absent) = (.ok q, s')
        ∧ q.names = ["NULL"] ∧ q.types = [.int] := ⟨_, _, rfl, rfl, rfl⟩
  exact ⟨q, s', hrun, hnames, htypes, rfl, (bindBody_leaves .empty hrun).2⟩

/-- `SELECT '1' UNION SELECT 'a' || 'b' UNION SELECT 2` -/
def Sql.Body.unionText : Body :=
  .union (.union (.selecting [.literal (.singleQuoted "1")])
      (.selecting [.binary .concat (.literal (.singleQuoted "a")) (.literal (.singleQuoted "b"))]))
    (.selecting [.literal (.number "2" false)])

/-- Text that is no literal is found in a column of numbers: the literal next to it stands for both,
and is converted to a number. -/
theorem bindBody_leaves_unionText :
    (bindBody .empty true none .unionText (.initial ParamTypes.absent)).1.map BoundQuery.types
        = .ok [.int]
      ∧ ¬∀ (catalog : Catalog) (combined : Bool) (body : Body) (s s' : BindState) (q : BoundQuery),
        bindBody catalog combined none body s = (.ok q, s') →
          ∀ leaf ∈ bodyLeaves catalog combined body s,
            leaf.Fits (fun _ e => e.isUntypedLiteral = true) q := by
  refine ⟨rfl, fun hclaim => ?_⟩
  -- the leaf in the middle, in an operand that begins with the literal
  let middle : SetLeaf := ⟨["'a' || 'b'"], [[.computed "'a' || 'b'" .varchar]],
    [[.constant "'1'" (.datum (.text "1"))], [.computed "'a' || 'b'" .varchar]]⟩
  have hmem : middle ∈ bodyLeaves .empty true .unionText (.initial .absent) :=
    List.mem_cons_of_mem _ List.mem_cons_self
  have hfits := hclaim .empty true .unionText (.initial .absent) _ _ rfl middle hmem
  rcases hfits.casts _ List.mem_cons_self 0 _ _ rfl rfl with hliteral | hcasts
  · cases hliteral
  · cases hcasts

end Prepared
