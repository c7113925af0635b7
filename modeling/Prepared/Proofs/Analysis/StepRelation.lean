import Prepared.Proofs.Analysis.Agreement

/-!
# Relations that an analysis respects

An analysis is put together from few steps: results that are known without looking at the state,
questions to the hook, looks at the query levels, and the opening of a new level. A relation between
steps that holds of these, and is kept when one step follows another, therefore holds of the
analysis of every expression, query and statement. `StepRelation` is what is asked of the relation;
`bindExpr_related` and its companions carry it through the syntax.

The two sides may look into different catalogs. A step of the analysis leaves the query levels as
they are, or it adds tables to the innermost one, which happens in a `FROM` and nowhere else; so a
relation has two parts, the second of which may allow more.
-/

namespace Prepared

open Sql BindM

/-- A relation between steps over the catalog `c` and steps over the catalog `c'` that everything
an analysis is put together from respects. -/
structure StepRelation (σ : Type) [ParamHook σ] (c c' : Catalog) where
  /-- What holds of steps that leave the query levels as they are. -/
  Keeping : {α : Type} → Walk σ α → Walk σ α → Prop
  /-- What holds of steps that may add tables to the innermost query level. -/
  Adding : {α : Type} → Walk σ α → Walk σ α → Prop
  adding_of_keeping : ∀ {α : Type} {x y : Walk σ α}, Keeping x y → Adding x y
  /-- What is known without looking at the state says nothing about the query levels. -/
  keeping_ofResult : ∀ {α : Type} (r : Except BindError α), r ≠ .error .noQueryLevel →
    Keeping (ofResult r) (ofResult r)
  keeping_bind : ∀ {α β : Type} {x y : Walk σ α} {f g : α → Walk σ β},
    Keeping x y → (∀ a, Keeping (f a) (g a)) → Keeping (x >>= f) (y >>= g)
  adding_bind : ∀ {α β : Type} {x y : Walk σ α} {f g : α → Walk σ β},
    Adding x y → (∀ a, Adding (f a) (g a)) → Adding (x >>= f) (y >>= g)
  keeping_withScope : ∀ {α : Type} {x y : Walk σ α},
    Adding x y → Keeping (withScope x) (withScope y)
  keeping_currentScope : Keeping currentScope currentScope
  keeping_newTable : Keeping newTable newTable
  keeping_resolveColumn : ∀ (table : Option String) (column : String),
    Keeping (resolveColumn table column) (resolveColumn table column)
  keeping_referParam : ∀ n : Nat, Keeping (referParam n) (referParam n)
  keeping_settleParam : ∀ (n : Nat) (target : SqlType),
    Keeping (settleParam n target) (settleParam n target)
  adding_addBinding : ∀ b : Binding, Adding (addBinding b) (addBinding b)
  keeping_table : ∀ name : String,
    Keeping (ofCatalog (c.table name)) (ofCatalog (c'.table name))

/-! ## Results that are known beforehand

That a query level is missing is never one of them. -/

/-- A name with too many parts, or none, is an error of its own. -/
theorem tableName_ne_noQueryLevel (name : ObjectName) : tableName name ≠ .error .noQueryLevel := by
  unfold tableName
  dsimp only
  split
  · exact nofun
  · split
    · exact nofun
    · exact nofun
  · exact nofun

/-- By induction on the named columns: the first one that is missing gives the error. -/
theorem namedColumnTypes_ne_noQueryLevel (table : Table) (name : String) (columns : List Ident) :
    namedColumnTypes table name columns ≠ .error .noQueryLevel := by
  induction columns with
  | nil => exact nofun
  | cons column columns ih =>
    unfold namedColumnTypes
    split
    · cases hrest : namedColumnTypes table name columns with
      | error e =>
        intro h
        exact ih (hrest.trans h)
      | ok types => exact nofun
    · exact nofun

/-- Without named columns all are meant, which cannot fail. -/
theorem insertTypes_ne_noQueryLevel (table : Table) (name : String) (columns : List Ident) :
    insertTypes table name columns ≠ .error .noQueryLevel := by
  unfold insertTypes
  split
  · exact nofun
  · exact namedColumnTypes_ne_noQueryLevel table name columns

/-- What is updated has to be a table with a name. -/
theorem updatedName_ne_noQueryLevel (t : TableRef) : updatedName t ≠ .error .noQueryLevel := by
  unfold updatedName
  split
  · exact tableName_ne_noQueryLevel _
  · exact nofun

namespace StepRelation

variable {σ : Type} [ParamHook σ] {c c' : Catalog} (R : StepRelation σ c c') {α β : Type}

/-! ## Steps that do nothing, and two kinds in a row -/

theorem keeping_pure (a : α) : R.Keeping (pure a) (pure a) :=
  R.keeping_ofResult (.ok a) nofun

/-- A rule that refuses its operands does so on both sides, and never for want of a query level. -/
theorem keeping_throw (e : BindError) (h : e ≠ .noQueryLevel) :
    R.Keeping (throw e : Walk σ α) (throw e) :=
  R.keeping_ofResult (.error e) fun he => h (Except.error.inj he)

/-- Errors of values and types are wrapped, so they are not the missing query level. -/
theorem keeping_ofType (x : Except TypeError α) : R.Keeping (ofType x) (ofType x) :=
  R.keeping_ofResult _ (by cases x <;> exact nofun)

theorem adding_pure (a : α) : R.Adding (pure a) (pure a) :=
  R.adding_of_keeping (R.keeping_pure a)

theorem adding_throw (e : BindError) (h : e ≠ .noQueryLevel) :
    R.Adding (throw e : Walk σ α) (throw e) :=
  R.adding_of_keeping (R.keeping_throw e h)

variable {R}

/-- A step that keeps the query levels, and then one that may add tables. -/
theorem Keeping.adding_bind {x y : Walk σ α} {f g : α → Walk σ β} (h : R.Keeping x y)
    (hf : ∀ a, R.Adding (f a) (g a)) : R.Adding (x >>= f) (y >>= g) :=
  R.adding_bind (R.adding_of_keeping h) hf

variable (R)

/-- Two relations at once. -/
def and (R R' : StepRelation σ c c') : StepRelation σ c c' where
  Keeping x y := R.Keeping x y ∧ R'.Keeping x y
  Adding x y := R.Adding x y ∧ R'.Adding x y
  adding_of_keeping h := ⟨R.adding_of_keeping h.1, R'.adding_of_keeping h.2⟩
  keeping_ofResult r h := ⟨R.keeping_ofResult r h, R'.keeping_ofResult r h⟩
  keeping_bind h hf :=
    ⟨R.keeping_bind h.1 fun a => (hf a).1, R'.keeping_bind h.2 fun a => (hf a).2⟩
  adding_bind h hf := ⟨R.adding_bind h.1 fun a => (hf a).1, R'.adding_bind h.2 fun a => (hf a).2⟩
  keeping_withScope h := ⟨R.keeping_withScope h.1, R'.keeping_withScope h.2⟩
  keeping_currentScope := ⟨R.keeping_currentScope, R'.keeping_currentScope⟩
  keeping_newTable := ⟨R.keeping_newTable, R'.keeping_newTable⟩
  keeping_resolveColumn table column :=
    ⟨R.keeping_resolveColumn table column, R'.keeping_resolveColumn table column⟩
  keeping_referParam n := ⟨R.keeping_referParam n, R'.keeping_referParam n⟩
  keeping_settleParam n target := ⟨R.keeping_settleParam n target, R'.keeping_settleParam n target⟩
  adding_addBinding b := ⟨R.adding_addBinding b, R'.adding_addBinding b⟩
  keeping_table name := ⟨R.keeping_table name, R'.keeping_table name⟩

/-! ## Coercion -/

theorem keeping_castImplicitly (e : BoundExpr) (target : SqlType) :
    R.Keeping (e.castImplicitly target) (e.castImplicitly target) := by
  unfold BoundExpr.castImplicitly
  split
  · exact R.keeping_pure _
  · exact R.keeping_throw _ nofun

/-- The questions that a coercion puts are related, and so is what it does without one. -/
theorem keeping_coerce (e : BoundExpr) (target : SqlType) :
    R.Keeping (e.coerce target) (e.coerce target) := by
  unfold BoundExpr.coerce
  split
  · exact R.keeping_pure _
  · split
    · exact R.keeping_bind (R.keeping_settleParam _ _) fun _ => R.keeping_pure _
    · split
      · exact R.keeping_bind (R.keeping_ofType _) fun _ => R.keeping_pure _
      · exact R.keeping_castImplicitly _ _
    · exact R.keeping_castImplicitly _ _

theorem keeping_coerceUnknown (e : BoundExpr) (target : SqlType) :
    R.Keeping (e.coerceUnknown target) (e.coerceUnknown target) := by
  unfold BoundExpr.coerceUnknown
  split
  · exact R.keeping_coerce _ _
  · exact R.keeping_pure _

/-- By induction on the expressions, with two binds a step. -/
theorem keeping_coerceAll (target : SqlType) (es : List BoundExpr) :
    R.Keeping (BoundExpr.coerceAll target es) (BoundExpr.coerceAll target es) := by
  induction es with
  | nil => exact R.keeping_pure _
  | cons e es ih =>
    unfold BoundExpr.coerceAll
    refine R.keeping_bind (R.keeping_coerce _ _) fun _ => ?_
    exact R.keeping_bind ih fun _ => R.keeping_pure _

/-- By induction on the expressions; the walk ends with the shorter list. -/
theorem keeping_coerceEach (es : List BoundExpr) (ts : List SqlType) :
    R.Keeping (BoundExpr.coerceEach es ts) (BoundExpr.coerceEach es ts) := by
  induction es generalizing ts with
  | nil => exact R.keeping_pure _
  | cons e es ih =>
    cases ts with
    | nil => exact R.keeping_pure _
    | cons t ts =>
      unfold BoundExpr.coerceEach
      refine R.keeping_bind (R.keeping_coerce _ _) fun _ => ?_
      exact R.keeping_bind (ih ts) fun _ => R.keeping_pure _

/-- Whether there is a common type does not depend on the state. -/
theorem keeping_unify (es : List BoundExpr) (default : Option SqlType) :
    R.Keeping (BoundExpr.unify es default) (BoundExpr.unify es default) := by
  unfold BoundExpr.unify
  refine R.keeping_bind (R.keeping_ofType _) fun common => ?_
  cases common with
  | none => exact R.keeping_pure _
  | some common => exact R.keeping_bind (R.keeping_coerceAll _ _) fun _ => R.keeping_pure _

/-! ## Rules for single forms -/

/-- The only rule for an expression that looks at the query levels. -/
theorem keeping_bindColumnRef (parts : List Ident) :
    R.Keeping (bindColumnRef parts) (bindColumnRef parts) := by
  unfold bindColumnRef
  split
  · exact R.keeping_bind (R.keeping_resolveColumn _ _) fun _ => R.keeping_pure _
  · exact R.keeping_bind (R.keeping_resolveColumn _ _) fun _ => R.keeping_pure _
  · exact R.keeping_throw _ nofun

/-- The only rule that refers to a parameter. -/
theorem keeping_bindLiteral (l : Literal) : R.Keeping (bindLiteral l) (bindLiteral l) := by
  unfold bindLiteral
  split
  · split
    · exact R.keeping_bind (R.keeping_referParam _) fun _ => R.keeping_pure _
    · exact R.keeping_throw _ nofun
  · exact R.keeping_bind (R.keeping_ofType _) fun _ => R.keeping_pure _

/-- The branches differ in the expression alone, so both sides take the same one. -/
theorem keeping_bindCast (name : String) (target : SqlType) (e : BoundExpr) :
    R.Keeping (bindCast name target e) (bindCast name target e) := by
  unfold bindCast
  split
  · exact R.keeping_coerce _ _
  · split
    · exact R.keeping_pure _
    · split
      · exact R.keeping_bind (R.keeping_ofType _) fun _ => R.keeping_pure _
      · exact R.keeping_pure _

theorem keeping_bindComparison (name : String) (es : List BoundExpr) :
    R.Keeping (bindComparison name es) (bindComparison name es) := by
  unfold bindComparison
  exact R.keeping_bind (R.keeping_unify _ _) fun _ => R.keeping_pure _

theorem keeping_bindBranches (name : String) (es : List BoundExpr) :
    R.Keeping (bindBranches name es) (bindBranches name es) := by
  unfold bindBranches
  exact R.keeping_bind (R.keeping_unify _ _) fun _ => R.keeping_pure _

/-- Which types can be computed with is checked after unification. -/
theorem keeping_bindArithmetic (name : String) (op : BinaryOp) (l r : BoundExpr) :
    R.Keeping (bindArithmetic name op l r) (bindArithmetic name op l r) := by
  unfold bindArithmetic
  refine R.keeping_bind (R.keeping_unify _ _) fun u => ?_
  dsimp only
  split
  · exact R.keeping_throw _ nofun
  · exact R.keeping_pure _

theorem keeping_bindConnective (name : String) (l r : BoundExpr) :
    R.Keeping (bindConnective name l r) (bindConnective name l r) := by
  unfold bindConnective
  refine R.keeping_bind (R.keeping_coerce _ _) fun _ => ?_
  exact R.keeping_bind (R.keeping_coerce _ _) fun _ => R.keeping_pure _

theorem keeping_bindConcat (name : String) (l r : BoundExpr) :
    R.Keeping (bindConcat name l r) (bindConcat name l r) := by
  unfold bindConcat
  refine R.keeping_bind (R.keeping_coerceUnknown _ _) fun _ => ?_
  exact R.keeping_bind (R.keeping_coerceUnknown _ _) fun _ => R.keeping_pure _

/-- One case for each family of operators. -/
theorem keeping_bindBinary (name : String) (op : BinaryOp) (l r : BoundExpr) :
    R.Keeping (bindBinary name op l r) (bindBinary name op l r) := by
  cases op with
  | eq | notEq | lt | ltEq | gt | gtEq => exact R.keeping_bindComparison name [l, r]
  | plus | minus | multiply | divide | modulo => exact R.keeping_bindArithmetic name _ l r
  | and | or => exact R.keeping_bindConnective name l r
  | concat => exact R.keeping_bindConcat name l r
  | other | custom => exact R.keeping_throw _ nofun

theorem keeping_bindNot (name : String) (e : BoundExpr) :
    R.Keeping (bindNot name e) (bindNot name e) := by
  unfold bindNot
  exact R.keeping_bind (R.keeping_coerce _ _) fun _ => R.keeping_pure _

theorem keeping_bindSign (name : String) (op : UnaryOp) (e : BoundExpr) :
    R.Keeping (bindSign name op e) (bindSign name op e) := by
  unfold bindSign
  split
  · exact R.keeping_throw _ nofun
  · exact R.keeping_pure _

/-- One case for `NOT`, one for the two signs and one for what is refused. -/
theorem keeping_bindUnary (name : String) (op : UnaryOp) (e : BoundExpr) :
    R.Keeping (bindUnary name op e) (bindUnary name op e) := by
  cases op with
  | not => exact R.keeping_bindNot name e
  | plus | minus => exact R.keeping_bindSign name _ e
  | factorial | other => exact R.keeping_throw _ nofun

/-! ## Outputs of queries -/

theorem keeping_singleColumn (q : BoundQuery) :
    R.Keeping (singleColumn q) (singleColumn q) := by
  unfold singleColumn
  split
  · exact R.keeping_pure _
  · exact R.keeping_throw _ nofun

theorem keeping_firstUnified (es : List BoundExpr) :
    R.Keeping (firstUnified es) (firstUnified es) := by
  unfold firstUnified
  exact R.keeping_bind (R.keeping_unify _ _) fun _ => R.keeping_pure _

/-- By induction on the columns of the left side, as far as the right side goes. -/
theorem keeping_combineColumns (ls rs : List BoundExpr) :
    R.Keeping (combineColumns ls rs) (combineColumns ls rs) := by
  induction ls generalizing rs with
  | nil => exact R.keeping_pure _
  | cons l ls ih =>
    cases rs with
    | nil => exact R.keeping_pure _
    | cons r rs =>
      unfold combineColumns
      refine R.keeping_bind (R.keeping_firstUnified _) fun _ => ?_
      exact R.keeping_bind (ih rs) fun _ => R.keeping_pure _

/-- Queries of different widths are refused on both sides. -/
theorem keeping_combineQueries (l r : BoundQuery) :
    R.Keeping (combineQueries l r) (combineQueries l r) := by
  unfold combineQueries
  split
  · exact R.keeping_throw _ nofun
  · exact R.keeping_bind (R.keeping_combineColumns _ _) fun _ => R.keeping_pure _

/-- By induction on the columns. A column with a wanted type is coerced to it, every other one is
unified. -/
theorem keeping_unifyColumns (columns : List (List BoundExpr))
    (expected : Option (List SqlType)) :
    R.Keeping (unifyColumns columns expected) (unifyColumns columns expected) := by
  induction columns generalizing expected with
  | nil =>
    unfold unifyColumns
    exact R.keeping_pure _
  | cons column columns ih =>
    have hunify (expected : Option (List SqlType)) :
        R.Keeping (do return (← firstUnified column) ++ (← unifyColumns columns expected))
          (do return (← firstUnified column) ++ (← unifyColumns columns expected)) := by
      refine R.keeping_bind (R.keeping_firstUnified _) fun _ => ?_
      exact R.keeping_bind (ih expected) fun _ => R.keeping_pure _
    rcases expected with _ | _ | ⟨t, ts⟩
    · exact hunify none
    · exact hunify (some [])
    · unfold unifyColumns
      refine R.keeping_bind (R.keeping_coerceAll _ _) fun _ => ?_
      exact R.keeping_bind (ih (some ts)) fun _ => R.keeping_pure _

/-- Both sides want the same types and count the same columns. -/
theorem keeping_checkWidth (expected : Option (List SqlType)) (width : Nat) :
    R.Keeping (checkWidth expected width) (checkWidth expected width) := by
  unfold checkWidth
  split
  · split
    · exact R.keeping_pure _
    · exact R.keeping_throw _ nofun
  · exact R.keeping_pure _

/-- First the width and then, if types are wanted, one coercion for each column. -/
theorem keeping_fitOutput (expected : Option (List SqlType)) (columns : List BoundExpr) :
    R.Keeping (fitOutput expected columns) (fitOutput expected columns) := by
  unfold fitOutput
  refine R.keeping_bind (R.keeping_checkWidth _ _) fun _ => ?_
  cases expected with
  | none => exact R.keeping_pure _
  | some types => exact R.keeping_coerceEach columns types

/-- A wildcard looks every column up again, by its name. -/
theorem keeping_starColumns (table : String) (columns : List Column) :
    R.Keeping (starColumns table columns) (starColumns table columns) := by
  induction columns with
  | nil => exact R.keeping_pure _
  | cons c cs ih =>
    unfold starColumns
    refine R.keeping_bind (R.keeping_resolveColumn _ _) fun _ => ?_
    exact R.keeping_bind ih fun _ => R.keeping_pure _

theorem keeping_starBindings (bindings : List Binding) :
    R.Keeping (starBindings bindings) (starBindings bindings) := by
  induction bindings with
  | nil => exact R.keeping_pure _
  | cons b bs ih =>
    unfold starBindings
    refine R.keeping_bind (R.keeping_starColumns _ _) fun _ => ?_
    exact R.keeping_bind ih fun _ => R.keeping_pure _

/-- The innermost level is read before the columns are looked up in all of them. -/
theorem keeping_bindStar (table : Option ObjectName) :
    R.Keeping (bindStar table) (bindStar table) := by
  unfold bindStar
  cases table with
  | none =>
    refine R.keeping_bind R.keeping_currentScope fun scope => ?_
    split
    · exact R.keeping_throw _ nofun
    · exact R.keeping_starBindings _
  | some table =>
    refine R.keeping_bind (R.keeping_ofResult _ (tableName_ne_noQueryLevel _)) fun name => ?_
    refine R.keeping_bind R.keeping_currentScope fun scope => ?_
    split
    · exact R.keeping_starBindings _
    · exact R.keeping_throw _ nofun

/-- One of the two places where a table is added. -/
theorem adding_bindDerived (q : BoundQuery) (label : TableAlias) :
    R.Adding (bindDerived q label) (bindDerived q label) := by
  unfold bindDerived
  exact Keeping.adding_bind R.keeping_newTable fun _ => R.adding_addBinding _

/-! ## Expressions, queries and tables -/

/-- The other one. This is where the two catalogs come in. -/
theorem adding_bindTable (name : ObjectName) (label : Option TableAlias) :
    R.Adding (bindTable c name label) (bindTable c' name label) := by
  unfold bindTable
  refine Keeping.adding_bind (R.keeping_ofResult _ (tableName_ne_noQueryLevel _)) fun name => ?_
  refine Keeping.adding_bind (R.keeping_table name) fun table => ?_
  exact Keeping.adding_bind R.keeping_newTable fun _ => R.adding_addBinding _

-- On the syntax, all its kinds at once. Only a `FROM` adds tables. What comes behind it in its
-- query keeps them, and may follow it by `Keeping.adding_bind`.
mutual

/-- **An expression in two analyses.** -/
theorem bindExpr_related : (e : Expr) → R.Keeping (bindExpr c e) (bindExpr c' e)
  | .column name => by
    unfold bindExpr
    exact R.keeping_bindColumnRef _
  | .qualified parts => by
    unfold bindExpr
    exact R.keeping_bindColumnRef _
  | .literal value => by
    unfold bindExpr
    exact R.keeping_bindLiteral _
  | .typed type text => by
    unfold bindExpr
    refine R.keeping_bind (R.keeping_ofType _) fun target => ?_
    exact R.keeping_bind (R.keeping_ofType _) fun value => R.keeping_pure _
  | .cast operand type => by
    unfold bindExpr
    refine R.keeping_bind (R.keeping_ofType _) fun target => ?_
    exact R.keeping_bind (bindExpr_related operand) fun e => R.keeping_bindCast _ _ _
  | .nested operand => by
    unfold bindExpr
    exact bindExpr_related operand
  | .binary op left right => by
    unfold bindExpr
    refine R.keeping_bind (bindExpr_related left) fun l => ?_
    exact R.keeping_bind (bindExpr_related right) fun r => R.keeping_bindBinary _ _ _ _
  | .unary op operand => by
    unfold bindExpr
    exact R.keeping_bind (bindExpr_related operand) fun e => R.keeping_bindUnary _ _ _
  | .isNull operand negated => by
    unfold bindExpr
    exact R.keeping_bind (bindExpr_related operand) fun e => R.keeping_pure _
  | .inList operand items negated => by
    unfold bindExpr
    refine R.keeping_bind (bindExpr_related operand) fun e => ?_
    exact R.keeping_bind (bindExprs_related items) fun es => R.keeping_bindComparison _ _
  | .inQuery operand query negated => by
    unfold bindExpr
    refine R.keeping_bind (bindExpr_related operand) fun e => ?_
    refine R.keeping_bind (bindQuery_related none query) fun q => ?_
    exact R.keeping_bind (R.keeping_singleColumn q) fun column => R.keeping_bindComparison _ _
  | .between operand low high negated => by
    unfold bindExpr
    refine R.keeping_bind (bindExpr_related operand) fun e => ?_
    refine R.keeping_bind (bindExpr_related low) fun l => ?_
    exact R.keeping_bind (bindExpr_related high) fun h => R.keeping_bindComparison _ _
  | .like kind operand pattern escape negated => by
    unfold bindExpr
    refine R.keeping_bind (bindExpr_related operand) fun e => ?_
    refine R.keeping_bind (R.keeping_coerce _ _) fun _ => ?_
    refine R.keeping_bind (bindExpr_related pattern) fun f => ?_
    exact R.keeping_bind (R.keeping_coerce _ _) fun _ => R.keeping_pure _
  | .case none conditions results otherwise => by
    unfold bindExpr
    refine R.keeping_bind (bindConditions_related conditions) fun _ => ?_
    refine R.keeping_bind (bindExprs_related results) fun branches => ?_
    exact R.keeping_bind (bindOption_related otherwise) fun last => R.keeping_bindBranches _ _
  | .case (some operand) conditions results otherwise => by
    unfold bindExpr
    refine R.keeping_bind (bindExpr_related operand) fun e => ?_
    refine R.keeping_bind (bindExprs_related conditions) fun es => ?_
    refine R.keeping_bind (R.keeping_unify _ _) fun _ => ?_
    refine R.keeping_bind (bindExprs_related results) fun branches => ?_
    exact R.keeping_bind (bindOption_related otherwise) fun last => R.keeping_bindBranches _ _
  | .exists query negated => by
    unfold bindExpr
    exact R.keeping_bind (bindQuery_related none query) fun q => R.keeping_pure _
  | .subquery query => by
    unfold bindExpr
    refine R.keeping_bind (bindQuery_related none query) fun q => ?_
    exact R.keeping_bind (R.keeping_singleColumn q) fun column => R.keeping_pure _
  | .arrayOf query => by
    unfold bindExpr
    exact R.keeping_throw _ nofun
  | .form form operands => by
    unfold bindExpr
    exact R.keeping_throw _ nofun

theorem bindExprs_related : (es : List Expr) → R.Keeping (bindExprs c es) (bindExprs c' es)
  | [] => by
    unfold bindExprs
    exact R.keeping_pure _
  | e :: es => by
    unfold bindExprs
    refine R.keeping_bind (bindExpr_related e) fun b => ?_
    exact R.keeping_bind (bindExprs_related es) fun bs => R.keeping_pure _

/-- The binding maps over the option, which is a bind with a return. -/
theorem bindOption_related : (e : Option Expr) →
    R.Keeping (bindOption c e) (bindOption c' e)
  | none => by
    unfold bindOption
    exact R.keeping_pure _
  | some e => by
    unfold bindOption
    rw [← bind_pure_comp, ← bind_pure_comp]
    exact R.keeping_bind (bindExpr_related e) fun b => R.keeping_pure _

/-- Each condition is coerced to a boolean after it is bound. -/
theorem bindConditions_related : (es : List Expr) →
    R.Keeping (bindConditions c es) (bindConditions c' es)
  | [] => by
    unfold bindConditions
    exact R.keeping_pure _
  | e :: es => by
    unfold bindConditions
    refine R.keeping_bind (bindExpr_related e) fun b => ?_
    exact R.keeping_bind (R.keeping_coerce _ _) fun _ => bindConditions_related es

theorem bindCondition_related : (e : Option Expr) →
    R.Keeping (bindCondition c e) (bindCondition c' e)
  | none => by
    unfold bindCondition
    exact R.keeping_pure _
  | some e => by
    unfold bindCondition
    refine R.keeping_bind (bindExpr_related e) fun b => ?_
    exact R.keeping_bind (R.keeping_coerce _ _) fun _ => R.keeping_pure _

theorem bindCount_related : (e : Option Expr) → R.Keeping (bindCount c e) (bindCount c' e)
  | none => by
    unfold bindCount
    exact R.keeping_pure _
  | some e => by
    unfold bindCount
    refine R.keeping_bind (bindExpr_related e) fun b => ?_
    exact R.keeping_bind (R.keeping_coerce _ _) fun _ => R.keeping_pure _

/-- A row of another width ends the walk on both sides. -/
theorem bindRows_related (width : Nat) : (rows : List (List Expr)) →
    R.Keeping (bindRows c width rows) (bindRows c' width rows)
  | [] => by
    unfold bindRows
    exact R.keeping_pure _
  | row :: rows => by
    unfold bindRows
    split
    · exact R.keeping_throw _ nofun
    · refine R.keeping_bind (bindExprs_related row) fun es => ?_
      exact R.keeping_bind (bindRows_related width rows) fun bound => R.keeping_pure _

/-- **A query in two analyses.** -/
theorem bindQuery_related (expected : Option (List SqlType)) : (q : Query) →
    R.Keeping (bindQuery c expected q) (bindQuery c' expected q)
  | .mk recursive ctes body orderBy limit offset offsetWord fetch lock => by
    unfold bindQuery
    split
    · exact R.keeping_throw _ nofun
    · refine R.keeping_withScope ?_
      refine R.adding_bind (bindBody_related expected body).1 fun output => ?_
      refine Keeping.adding_bind (bindOrder_related output.names orderBy) fun _ => ?_
      refine Keeping.adding_bind (bindCount_related limit) fun _ => ?_
      exact Keeping.adding_bind (bindCount_related offset) fun _ => R.adding_pure _

/-- The body of a query adds its tables to the query level, unless it is combined with others. -/
theorem bindBody_related (expected : Option (List SqlType)) : (b : Body) →
    R.Adding (bindBody c false expected b) (bindBody c' false expected b)
      ∧ R.Keeping (bindBody c true expected b) (bindBody c' true expected b)
  | .select distinct items tables condition groupBy having extras => by
    have hselect : R.Adding
        (do
          bindTables c tables
          bindCondition c condition
          let _ ← bindExprs c groupBy
          bindCondition c having
          let output ← bindItems c items
          return ⟨output.names, ← fitOutput expected output.columns⟩ : Walk σ BoundQuery)
        (do
          bindTables c' tables
          bindCondition c' condition
          let _ ← bindExprs c' groupBy
          bindCondition c' having
          let output ← bindItems c' items
          return ⟨output.names, ← fitOutput expected output.columns⟩) := by
      refine R.adding_bind (bindTables_related tables) fun _ => ?_
      refine Keeping.adding_bind (bindCondition_related condition) fun _ => ?_
      refine Keeping.adding_bind (bindExprs_related groupBy) fun _ => ?_
      refine Keeping.adding_bind (bindCondition_related having) fun _ => ?_
      refine Keeping.adding_bind (bindItems_related items) fun output => ?_
      exact Keeping.adding_bind (R.keeping_fitOutput _ _) fun _ => R.adding_pure _
    unfold bindBody
    exact ⟨hselect, R.keeping_withScope hselect⟩
  | .query query => by
    unfold bindBody
    have hquery := bindQuery_related expected query
    exact ⟨R.adding_of_keeping hquery, hquery⟩
  | .operation op quantifier left right => by
    -- both sides of a set operation open their own levels, so it adds nothing to the one around it
    have hoperation : R.Keeping
        (do
          let l ← bindBody c true expected left
          let r ← bindBody c true expected right
          combineQueries l r : Walk σ BoundQuery)
        (do
          let l ← bindBody c' true expected left
          let r ← bindBody c' true expected right
          combineQueries l r) := by
      refine R.keeping_bind (bindBody_related expected left).2 fun l => ?_
      exact R.keeping_bind (bindBody_related expected right).2 fun r =>
        R.keeping_combineQueries l r
    unfold bindBody
    exact ⟨R.adding_of_keeping hoperation, hoperation⟩
  | .values rowWord rows => by
    have hvalues : R.Keeping (bindBody c true expected (.values rowWord rows))
        (bindBody c' true expected (.values rowWord rows)) := by
      unfold bindBody
      refine R.keeping_bind (R.keeping_checkWidth _ _) fun _ => ?_
      refine R.keeping_bind (bindRows_related _ rows) fun bound => ?_
      exact R.keeping_bind (R.keeping_unifyColumns _ _) fun _ => R.keeping_pure _
    -- the rows of a `VALUES` get no level of their own, combined or not
    have hsame (catalog : Catalog) : (bindBody catalog false expected (.values rowWord rows)
        : Walk σ BoundQuery) = bindBody catalog true expected (.values rowWord rows) := by
      unfold bindBody
      rfl
    rw [hsame, hsame]
    exact ⟨R.adding_of_keeping hvalues, hvalues⟩
  | .other text outline => by
    unfold bindBody
    exact ⟨R.adding_throw _ nofun, R.keeping_throw _ nofun⟩

/-- Expressions and wildcards keep the levels as they are. -/
theorem bindItems_related : (items : List SelectItem) →
    R.Keeping (bindItems c items) (bindItems c' items)
  | [] => by
    unfold bindItems
    exact R.keeping_pure _
  | .unnamed value :: items => by
    unfold bindItems
    refine R.keeping_bind (bindExpr_related value) fun e => ?_
    exact R.keeping_bind (bindItems_related items) fun q => R.keeping_pure _
  | .named value name :: items => by
    unfold bindItems
    refine R.keeping_bind (bindExpr_related value) fun e => ?_
    exact R.keeping_bind (bindItems_related items) fun q => R.keeping_pure _
  | .wildcard :: items => by
    unfold bindItems
    refine R.keeping_bind (R.keeping_bindStar _) fun columns => ?_
    exact R.keeping_bind (bindItems_related items) fun q => R.keeping_pure _
  | .qualifiedWildcard table :: items => by
    unfold bindItems
    refine R.keeping_bind (R.keeping_bindStar _) fun columns => ?_
    exact R.keeping_bind (bindItems_related items) fun q => R.keeping_pure _

/-- An item that is the name of an output is passed over. -/
theorem bindOrder_related (names : List String) : (items : List OrderItem) →
    R.Keeping (bindOrder c names items) (bindOrder c' names items)
  | [] => by
    unfold bindOrder
    exact R.keeping_pure _
  | .mk value direction :: items => by
    unfold bindOrder
    split
    · exact R.keeping_bind (bindExpr_related value) fun _ => bindOrder_related names items
    · exact bindOrder_related names items

/-- A `FROM` is where tables are added; a join adds those of both sides before it binds its
condition. -/
theorem bindTableRef_related : (t : TableRef) →
    R.Adding (bindTableRef c t) (bindTableRef c' t)
  | .table name hasArgs args label hints => by
    unfold bindTableRef
    exact R.adding_bindTable name label
  | .derived lateral query none => by
    unfold bindTableRef
    exact R.adding_throw _ nofun
  | .derived lateral query (some label) => by
    unfold bindTableRef
    exact Keeping.adding_bind (bindQuery_related none query) fun q => R.adding_bindDerived q label
  | .function value label => by
    unfold bindTableRef
    exact R.adding_throw _ nofun
  | .nested tables label => by
    unfold bindTableRef
    exact R.adding_throw _ nofun
  | .join left kind right rule condition => by
    unfold bindTableRef
    refine R.adding_bind (bindTableRef_related left) fun _ => ?_
    refine R.adding_bind (bindTableRef_related right) fun _ => ?_
    split
    · exact R.adding_of_keeping (bindCondition_related condition)
    · exact R.adding_throw _ nofun

theorem bindTables_related : (ts : List TableRef) → R.Adding (bindTables c ts) (bindTables c' ts)
  | [] => by
    unfold bindTables
    exact R.adding_pure _
  | t :: ts => by
    unfold bindTables
    exact R.adding_bind (bindTableRef_related t) fun _ => bindTables_related ts

end

/-! ## Statements -/

/-- An `INSERT` opens no level of its own: its source is a query and does. -/
theorem bindInsert_related (i : Insert) : R.Keeping (bindInsert c i) (bindInsert c' i) := by
  unfold bindInsert
  refine R.keeping_bind (R.keeping_ofResult _ (tableName_ne_noQueryLevel _)) fun name => ?_
  refine R.keeping_bind (R.keeping_table name) fun table => ?_
  refine R.keeping_bind (R.keeping_ofResult _ (insertTypes_ne_noQueryLevel _ _ _)) fun types => ?_
  exact R.keeping_bind (R.bindQuery_related _ _) fun _ => R.keeping_pure _

/-- By induction on the assignments, which add no tables. -/
theorem bindAssignments_related (table : Table) (name : String) (as : List Assignment) :
    R.Keeping (bindAssignments c table name as) (bindAssignments c' table name as) := by
  induction as with
  | nil => exact R.keeping_pure _
  | cons a as ih =>
    unfold bindAssignments
    split
    · exact R.keeping_throw _ (by simp)
    · split
      · exact R.keeping_throw _ (by simp)
      · refine R.keeping_bind (R.bindExpr_related a.value) fun e => ?_
        exact R.keeping_bind (R.keeping_coerce _ _) fun _ => ih

theorem bindSource_related (source : Option TableRef) :
    R.Adding (bindSource c source) (bindSource c' source) := by
  cases source with
  | none => exact R.adding_pure _
  | some t => exact R.bindTableRef_related t

/-- The level of an `UPDATE` holds the updated table and those of its `FROM`. -/
theorem bindUpdate_related (table : TableRef) (assignments : List Assignment)
    (source : Option TableRef) (condition : Option Expr) :
    R.Keeping (bindUpdate c table assignments source condition)
      (bindUpdate c' table assignments source condition) := by
  unfold bindUpdate
  -- The body may add tables. What follows it keeps them, and the level is closed around both.
  refine R.keeping_withScope ?_
  -- what stands before the tables keeps the levels as well, and may stand before any step
  refine Keeping.adding_bind (R.keeping_ofResult _ (updatedName_ne_noQueryLevel _)) fun name => ?_
  refine R.adding_bind (R.bindTableRef_related table) fun _ => ?_
  refine R.adding_bind (R.bindSource_related source) fun _ => ?_
  refine Keeping.adding_bind (R.bindCondition_related condition) fun _ => ?_
  refine Keeping.adding_bind (R.keeping_table name) fun target => ?_
  exact R.adding_of_keeping (R.bindAssignments_related target name assignments)

/-- The level of a `DELETE` holds the table that is deleted from. -/
theorem bindDelete_related (table : TableRef) (condition : Option Expr) :
    R.Keeping (bindDelete c table condition) (bindDelete c' table condition) := by
  unfold bindDelete
  refine R.keeping_withScope ?_
  refine R.adding_bind (R.bindTableRef_related table) fun _ => ?_
  exact R.adding_of_keeping (R.bindCondition_related condition)

/-- **A statement in two analyses.** -/
theorem bindStatement_related (S : Statement) :
    R.Keeping (bindStatement c S) (bindStatement c' S) := by
  unfold bindStatement
  split
  · exact R.keeping_bind (R.bindQuery_related _ _) fun _ => R.keeping_pure _
  · exact R.keeping_bind (R.bindInsert_related _) fun _ => R.keeping_pure _
  · exact R.keeping_bind (R.bindUpdate_related _ _ _ _) fun _ => R.keeping_pure _
  · exact R.keeping_bind (R.bindDelete_related _ _) fun _ => R.keeping_pure _
  · exact R.keeping_throw _ nofun

end StepRelation

end Prepared
