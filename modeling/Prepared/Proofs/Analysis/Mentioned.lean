import Prepared.Analysis.Parameters
import Prepared.Proofs.Analysis.Agreement

/-!
# The analysis asks only about parameters that the statement mentions

A hook is asked about a parameter where a placeholder stands. So a hook that refuses references to
all other parameters is as good as the hook itself (`bindStatement_restrict`): the analysis never
comes to see the difference. What holds of the restricted hook, which answers fewer questions, then
holds of the analysis.

`ParamHook.restrict` changes nothing but the answer to a reference. All rules for single forms only
ask for types that are wanted, so they are the same under both hooks; the two part where a literal is
bound, and there the placeholder is one of those that the statement has
(`bindLiteral_restrict`).
-/

namespace Prepared

open Sql BindM

/-- The hook that refuses references to all parameters but the allowed ones. -/
@[reducible]
def ParamHook.restrict {σ : Type} (hook : ParamHook σ) (allowed : Nat → Prop)
    [DecidablePred allowed] : ParamHook σ where
  refer n p := if allowed n then hook.refer n p else (.error (.noSuchParameter n), p)
  settle := hook.settle
  check := hook.check

variable {σ : Type} [hook : ParamHook σ] (allowed : Nat → Prop) [DecidablePred allowed]

/-! ## Rules that refer to nothing -/

/-- The two hooks settle alike, so a coercion is the same by definition; over a list this takes an
induction. -/
theorem coerceAll_restrict (target : SqlType) (es : List BoundExpr) :
    @BoundExpr.coerceAll σ (hook.restrict allowed) target es = BoundExpr.coerceAll target es := by
  induction es with
  | nil => rfl
  | cons e es ih =>
    unfold BoundExpr.coerceAll
    rw [ih]
    rfl

theorem coerceEach_restrict (es : List BoundExpr) (ts : List SqlType) :
    @BoundExpr.coerceEach σ (hook.restrict allowed) es ts = BoundExpr.coerceEach es ts := by
  induction es generalizing ts with
  | nil => rfl
  | cons e es ih =>
    cases ts with
    | nil => rfl
    | cons t ts =>
      unfold BoundExpr.coerceEach
      rw [ih]
      rfl

/-- Only the coercions at the end ask the hook. -/
theorem unify_restrict (es : List BoundExpr) (default : Option SqlType) :
    @BoundExpr.unify σ (hook.restrict allowed) es default = BoundExpr.unify es default := by
  unfold BoundExpr.unify
  simp only [coerceAll_restrict]

theorem firstUnified_restrict (es : List BoundExpr) :
    @firstUnified σ (hook.restrict allowed) es = firstUnified es := by
  unfold firstUnified
  rw [unify_restrict]

/-- Operands are unified, and that is all a comparison asks. -/
theorem bindComparison_restrict (name : String) (es : List BoundExpr) :
    @bindComparison σ (hook.restrict allowed) name es = bindComparison name es := by
  unfold bindComparison
  rw [unify_restrict]

theorem bindBranches_restrict (name : String) (es : List BoundExpr) :
    @bindBranches σ (hook.restrict allowed) name es = bindBranches name es := by
  unfold bindBranches
  rw [unify_restrict]

/-- Connectives and concatenation are the same by definition; the rest unify their operands. -/
theorem bindBinary_restrict (name : String) (op : BinaryOp) (l r : BoundExpr) :
    @bindBinary σ (hook.restrict allowed) name op l r = bindBinary name op l r := by
  unfold bindBinary bindArithmetic
  simp only [bindComparison_restrict, unify_restrict]
  rfl

theorem combineColumns_restrict (ls rs : List BoundExpr) :
    @combineColumns σ (hook.restrict allowed) ls rs = combineColumns ls rs := by
  induction ls generalizing rs with
  | nil => rfl
  | cons l ls ih =>
    cases rs with
    | nil => rfl
    | cons r rs =>
      unfold combineColumns
      rw [firstUnified_restrict, ih]

theorem combineQueries_restrict (l r : BoundQuery) :
    @combineQueries σ (hook.restrict allowed) l r = combineQueries l r := by
  unfold combineQueries
  rw [combineColumns_restrict]

/-- By induction on the columns, with or without a wanted type. -/
theorem unifyColumns_restrict (columns : List (List BoundExpr)) (expected : Option (List SqlType)) :
    @unifyColumns σ (hook.restrict allowed) columns expected = unifyColumns columns expected := by
  induction columns generalizing expected with
  | nil =>
    unfold unifyColumns
    rfl
  | cons column columns ih =>
    rcases expected with _ | _ | ⟨t, ts⟩ <;> unfold unifyColumns
    · rw [firstUnified_restrict, ih]
    · rw [firstUnified_restrict, ih]
    · simp only [coerceAll_restrict, ih]

/-- The width is checked without the hook. -/
theorem fitOutput_restrict (expected : Option (List SqlType)) (columns : List BoundExpr) :
    @fitOutput σ (hook.restrict allowed) expected columns = fitOutput expected columns := by
  unfold fitOutput
  simp only [coerceEach_restrict]

/-! ## Expressions, queries and tables -/

variable {allowed}

/-- **A literal.** The only place where a parameter is referred to. -/
theorem bindLiteral_restrict {l : Literal} (h : ∀ n ∈ l.parameter?.toList, allowed n) :
    @bindLiteral σ (hook.restrict allowed) l = bindLiteral l := by
  cases l with
  | placeholder text =>
    unfold bindLiteral
    cases hnumber : ParamTypes.number? text with
    | none => simp only [hnumber]
    | some n =>
      have hmention : (Literal.placeholder text).parameter? = some n := hnumber
      -- the placeholder is one of the mentioned parameters, so the restricted hook passes it on
      have hallowed : allowed n := h n (by rw [hmention]; exact List.mem_singleton_self n)
      have hrefer : @referParam σ (hook.restrict allowed) n = referParam n := by
        unfold referParam ParamHook.restrict
        simp only [if_pos hallowed]
      simp only [hnumber, hrefer]
  | _ => rfl

variable (catalog : Catalog)

-- On the syntax, all its kinds at once: the parameters of a part are among those of the whole, so what
-- is allowed for the whole is allowed for each part.
mutual

/-- **An expression** whose parameters are all allowed. -/
theorem bindExpr_restrict : (e : Expr) → (∀ n ∈ e.parameters, allowed n) →
    @bindExpr σ (hook.restrict allowed) catalog e = bindExpr catalog e
  | .column _, _ => by
    unfold bindExpr
    rfl
  | .qualified _, _ => by
    unfold bindExpr
    rfl
  | .literal value, h => by
    unfold Expr.parameters at h
    unfold bindExpr
    exact bindLiteral_restrict h
  | .typed _ _, _ => by
    unfold bindExpr
    rfl
  | .cast operand _, h => by
    unfold Expr.parameters at h
    unfold bindExpr
    rw [bindExpr_restrict operand h]
    rfl
  | .nested operand, h => by
    unfold Expr.parameters at h
    unfold bindExpr
    exact bindExpr_restrict operand h
  | .binary op left right, h => by
    unfold Expr.parameters at h
    obtain ⟨hl, hr⟩ := List.forall_mem_append.1 h
    unfold bindExpr
    simp only [bindExpr_restrict left hl, bindExpr_restrict right hr, bindBinary_restrict]
  | .unary op operand, h => by
    unfold Expr.parameters at h
    unfold bindExpr
    rw [bindExpr_restrict operand h]
    rfl
  | .isNull operand negated, h => by
    unfold Expr.parameters at h
    unfold bindExpr
    rw [bindExpr_restrict operand h]
  | .inList operand items negated, h => by
    unfold Expr.parameters at h
    obtain ⟨he, hes⟩ := List.forall_mem_append.1 h
    unfold bindExpr
    simp only [bindExpr_restrict operand he, bindExprs_restrict items hes, bindComparison_restrict]
  | .inQuery operand query negated, h => by
    unfold Expr.parameters at h
    obtain ⟨he, hq⟩ := List.forall_mem_append.1 h
    unfold bindExpr
    simp only [bindExpr_restrict operand he, bindQuery_restrict none query hq,
      bindComparison_restrict]
  | .between operand low high negated, h => by
    unfold Expr.parameters at h
    obtain ⟨hfront, hh⟩ := List.forall_mem_append.1 h
    obtain ⟨he, hl⟩ := List.forall_mem_append.1 hfront
    unfold bindExpr
    simp only [bindExpr_restrict operand he, bindExpr_restrict low hl, bindExpr_restrict high hh,
      bindComparison_restrict]
  | .like kind operand pattern escape negated, h => by
    unfold Expr.parameters at h
    obtain ⟨he, hp⟩ := List.forall_mem_append.1 h
    unfold bindExpr
    rw [bindExpr_restrict operand he, bindExpr_restrict pattern hp]
    rfl
  | .case none conditions results otherwise, h => by
    unfold Expr.parameters at h
    obtain ⟨hfront, ho⟩ := List.forall_mem_append.1 h
    obtain ⟨hfront, hr⟩ := List.forall_mem_append.1 hfront
    obtain ⟨-, hc⟩ := List.forall_mem_append.1 hfront
    unfold bindExpr
    simp only [bindConditions_restrict conditions hc, bindExprs_restrict results hr,
      bindOption_restrict otherwise ho, bindBranches_restrict]
  | .case (some operand) conditions results otherwise, h => by
    unfold Expr.parameters at h
    obtain ⟨hfront, ho⟩ := List.forall_mem_append.1 h
    obtain ⟨hfront, hr⟩ := List.forall_mem_append.1 hfront
    obtain ⟨he, hc⟩ := List.forall_mem_append.1 hfront
    unfold parametersOfOption at he
    unfold bindExpr
    simp only [bindExpr_restrict operand he, bindExprs_restrict conditions hc, unify_restrict,
      bindExprs_restrict results hr, bindOption_restrict otherwise ho, bindBranches_restrict]
  | .exists query negated, h => by
    unfold Expr.parameters at h
    unfold bindExpr
    rw [bindQuery_restrict none query h]
  | .subquery query, h => by
    unfold Expr.parameters at h
    unfold bindExpr
    rw [bindQuery_restrict none query h]
  | .arrayOf _, _ => by
    unfold bindExpr
    rfl
  | .form _ _, _ => by
    unfold bindExpr
    rfl

/-- The parameters of a list are those of its head and those of its tail. -/
theorem bindExprs_restrict : (es : List Expr) → (∀ n ∈ parametersOfAll es, allowed n) →
    @bindExprs σ (hook.restrict allowed) catalog es = bindExprs catalog es
  | [], _ => by
    unfold bindExprs
    rfl
  | e :: es, h => by
    unfold parametersOfAll at h
    obtain ⟨he, hes⟩ := List.forall_mem_append.1 h
    unfold bindExprs
    simp only [bindExpr_restrict e he, bindExprs_restrict es hes]

theorem bindOption_restrict : (e : Option Expr) → (∀ n ∈ parametersOfOption e, allowed n) →
    @bindOption σ (hook.restrict allowed) catalog e = bindOption catalog e
  | none, _ => by
    unfold bindOption
    rfl
  | some e, h => by
    unfold parametersOfOption at h
    unfold bindOption
    rw [bindExpr_restrict e h]

/-- The coercion to a boolean is the same by definition. -/
theorem bindConditions_restrict : (es : List Expr) → (∀ n ∈ parametersOfAll es, allowed n) →
    @bindConditions σ (hook.restrict allowed) catalog es = bindConditions catalog es
  | [], _ => by
    unfold bindConditions
    rfl
  | e :: es, h => by
    unfold parametersOfAll at h
    obtain ⟨he, hes⟩ := List.forall_mem_append.1 h
    unfold bindConditions
    rw [bindExpr_restrict e he, bindConditions_restrict es hes]
    rfl

theorem bindCondition_restrict : (e : Option Expr) → (∀ n ∈ parametersOfOption e, allowed n) →
    @bindCondition σ (hook.restrict allowed) catalog e = bindCondition catalog e
  | none, _ => by
    unfold bindCondition
    rfl
  | some e, h => by
    unfold parametersOfOption at h
    unfold bindCondition
    rw [bindExpr_restrict e h]
    rfl

theorem bindCount_restrict : (e : Option Expr) → (∀ n ∈ parametersOfOption e, allowed n) →
    @bindCount σ (hook.restrict allowed) catalog e = bindCount catalog e
  | none, _ => by
    unfold bindCount
    rfl
  | some e, h => by
    unfold parametersOfOption at h
    unfold bindCount
    rw [bindExpr_restrict e h]
    rfl

/-- The parameters of rows are those of their cells. -/
theorem bindRows_restrict (width : Nat) : (rows : List (List Expr)) →
    (∀ n ∈ parametersOfRows rows, allowed n) →
    @bindRows σ (hook.restrict allowed) catalog width rows = bindRows catalog width rows
  | [], _ => by
    unfold bindRows
    rfl
  | row :: rows, h => by
    unfold parametersOfRows at h
    obtain ⟨hrow, hrows⟩ := List.forall_mem_append.1 h
    unfold bindRows
    simp only [bindExprs_restrict row hrow, bindRows_restrict width rows hrows]

/-- **A query** whose parameters are all allowed. -/
theorem bindQuery_restrict (expected : Option (List SqlType)) : (q : Query) →
    (∀ n ∈ q.parameters, allowed n) →
    @bindQuery σ (hook.restrict allowed) catalog expected q = bindQuery catalog expected q
  | .mk recursive ctes body orderBy limit offset offsetWord fetch lock, h => by
    unfold Query.parameters at h
    obtain ⟨hfront, hoffset⟩ := List.forall_mem_append.1 h
    obtain ⟨hfront, hlimit⟩ := List.forall_mem_append.1 hfront
    obtain ⟨hbody, horder⟩ := List.forall_mem_append.1 hfront
    unfold bindQuery
    simp only [bindBody_restrict false expected body hbody, bindOrder_restrict _ orderBy horder,
      bindCount_restrict limit hlimit, bindCount_restrict offset hoffset]

/-- The clauses of a `SELECT` in the order in which they are bound, which is not the order in which
they are written. -/
theorem bindBody_restrict (combined : Bool) (expected : Option (List SqlType)) : (b : Body) →
    (∀ n ∈ b.parameters, allowed n) →
    @bindBody σ (hook.restrict allowed) catalog combined expected b
      = bindBody catalog combined expected b
  | .select distinct items tables condition groupBy having extras, h => by
    unfold Body.parameters at h
    obtain ⟨hfront, hitems⟩ := List.forall_mem_append.1 h
    obtain ⟨hfront, hhaving⟩ := List.forall_mem_append.1 hfront
    obtain ⟨hfront, hgroup⟩ := List.forall_mem_append.1 hfront
    obtain ⟨htables, hcondition⟩ := List.forall_mem_append.1 hfront
    unfold bindBody
    simp only [bindTables_restrict tables htables, bindCondition_restrict condition hcondition,
      bindExprs_restrict groupBy hgroup, bindCondition_restrict having hhaving,
      bindItems_restrict items hitems, fitOutput_restrict]
  | .query query, h => by
    unfold Body.parameters at h
    unfold bindBody
    exact bindQuery_restrict expected query h
  | .operation op quantifier left right, h => by
    unfold Body.parameters at h
    obtain ⟨hl, hr⟩ := List.forall_mem_append.1 h
    unfold bindBody
    simp only [bindBody_restrict true expected left hl, bindBody_restrict true expected right hr,
      combineQueries_restrict]
  | .values rowWord rows, h => by
    unfold Body.parameters at h
    unfold bindBody
    simp only [bindRows_restrict _ rows h, unifyColumns_restrict]
  | .other _ _, _ => by
    unfold bindBody
    rfl

/-- A wildcard mentions nothing. -/
theorem bindItems_restrict : (items : List SelectItem) →
    (∀ n ∈ parametersOfItems items, allowed n) →
    @bindItems σ (hook.restrict allowed) catalog items = bindItems catalog items
  | [], _ => by
    unfold bindItems
    rfl
  | .unnamed value :: items, h => by
    unfold parametersOfItems at h
    obtain ⟨hvalue, hitems⟩ := List.forall_mem_append.1 h
    unfold bindItems
    simp only [bindExpr_restrict value hvalue, bindItems_restrict items hitems]
  | .named value name :: items, h => by
    unfold parametersOfItems at h
    obtain ⟨hvalue, hitems⟩ := List.forall_mem_append.1 h
    unfold bindItems
    simp only [bindExpr_restrict value hvalue, bindItems_restrict items hitems]
  | .wildcard :: items, h => by
    unfold parametersOfItems at h
    unfold bindItems
    simp only [bindItems_restrict items h]
  | .qualifiedWildcard table :: items, h => by
    unfold parametersOfItems at h
    unfold bindItems
    simp only [bindItems_restrict items h]

/-- An item that is the name of an output is passed over under both hooks. -/
theorem bindOrder_restrict (names : List String) : (items : List OrderItem) →
    (∀ n ∈ parametersOfOrder items, allowed n) →
    @bindOrder σ (hook.restrict allowed) catalog names items = bindOrder catalog names items
  | [], _ => by
    unfold bindOrder
    rfl
  | .mk value direction :: items, h => by
    unfold parametersOfOrder at h
    obtain ⟨hvalue, hitems⟩ := List.forall_mem_append.1 h
    unfold bindOrder
    simp only [bindExpr_restrict value hvalue, bindOrder_restrict names items hitems]

/-- A subquery without a name is refused before it is bound, and its parameters with it. -/
theorem bindTableRef_restrict : (t : TableRef) → (∀ n ∈ t.parameters, allowed n) →
    @bindTableRef σ (hook.restrict allowed) catalog t = bindTableRef catalog t
  | .table _ _ _ _ _, _ => by
    unfold bindTableRef
    rfl
  | .derived _ _ none, _ => by
    unfold bindTableRef
    rfl
  | .derived lateral query (some label), h => by
    unfold TableRef.parameters at h
    unfold bindTableRef
    simp only [bindQuery_restrict none query h]
  | .function _ _, _ => by
    unfold bindTableRef
    rfl
  | .nested _ _, _ => by
    unfold bindTableRef
    rfl
  | .join left kind right rule condition, h => by
    unfold TableRef.parameters at h
    obtain ⟨hfront, hcondition⟩ := List.forall_mem_append.1 h
    obtain ⟨hl, hr⟩ := List.forall_mem_append.1 hfront
    unfold bindTableRef
    simp only [bindTableRef_restrict left hl, bindTableRef_restrict right hr,
      bindCondition_restrict condition hcondition]

theorem bindTables_restrict : (ts : List TableRef) → (∀ n ∈ parametersOfTables ts, allowed n) →
    @bindTables σ (hook.restrict allowed) catalog ts = bindTables catalog ts
  | [], _ => by
    unfold bindTables
    rfl
  | t :: ts, h => by
    unfold parametersOfTables at h
    obtain ⟨ht, hts⟩ := List.forall_mem_append.1 h
    unfold bindTables
    simp only [bindTableRef_restrict t ht, bindTables_restrict ts hts]

end

/-! ## Statements -/

/-- By induction on the assignments; the coercion to the type of the column is the same by
definition. -/
theorem bindAssignments_restrict (table : Table) (name : String) {as : List Assignment}
    (h : ∀ n ∈ as.flatMap fun a => a.value.parameters, allowed n) :
    @bindAssignments σ (hook.restrict allowed) catalog table name as
      = bindAssignments catalog table name as := by
  induction as with
  | nil => rfl
  | cons a as ih =>
    rw [List.flatMap_cons] at h
    obtain ⟨ha, has⟩ := List.forall_mem_append.1 h
    unfold bindAssignments
    rw [bindExpr_restrict catalog a.value ha, ih has]
    rfl

/-- **A statement.** A hook that refuses all parameters but those that the statement refers to is as
good as the hook. -/
theorem bindStatement_restrict {S : Statement} (h : ∀ n ∈ S.parameters, allowed n) :
    @bindStatement σ (hook.restrict allowed) catalog S = bindStatement catalog S := by
  unfold bindStatement
  cases S with
  | query q => simp only [bindQuery_restrict catalog none q h]
  | insert i =>
    unfold bindInsert
    simp only [bindQuery_restrict catalog _ i.source h]
  | update table assignments source condition returning =>
    -- the parameters are listed in the order of binding: table, `FROM`, condition, assignments
    obtain ⟨hfront, hassignments⟩ := List.forall_mem_append.1 h
    obtain ⟨hfront, hcondition⟩ := List.forall_mem_append.1 hfront
    obtain ⟨htable, hsource⟩ := List.forall_mem_append.1 hfront
    have hbindSource : @bindSource σ (hook.restrict allowed) catalog source
        = bindSource catalog source := by
      cases source with
      | none => rfl
      | some t => exact bindTableRef_restrict catalog t hsource
    unfold bindUpdate
    simp only [bindTableRef_restrict catalog table htable, hbindSource,
      bindCondition_restrict catalog condition hcondition,
      bindAssignments_restrict catalog _ _ hassignments]
  | delete table source condition returning =>
    obtain ⟨htable, hcondition⟩ := List.forall_mem_append.1 h
    unfold bindDelete
    simp only [bindTableRef_restrict catalog table htable,
      bindCondition_restrict catalog condition hcondition]
  | _ => rfl

end Prepared
