import Prepared.Analysis.Statement
import Prepared.Proofs.Param.Forward
import Prepared.Proofs.SqlType.CommonType

/-!
# Undecided parameters

A parameter keeps, in an expression, the type that was known when it was referred to. If this was
undecided, it may be decided later, and `BoundExpr.decidedBy` is what the expression would have been
with the types that are known in the end.

Some forms take over the type of an operand: a sign, an arithmetic operation, a query in the place
of a value and one in the place of a table. Taken over from an undecided parameter, the type stays
undecided for good, and nothing compares it with the type that the parameter gets. `confinedExpr`
and its companions say that the walk from a given state does not do this: every undecided type stays
with its parameter.
-/

namespace Prepared

open Sql BindM

/-! ## Undecided parameters -/

namespace BoundExpr

/-- Whether the expression is a parameter without a type. -/
def isUndecided : BoundExpr → Bool
  | parameter _ _ .unknown => true
  | _ => false

/-- The expression with the given types of parameters in the place of undecided ones. -/
def decidedBy (types : List SqlType) : BoundExpr → BoundExpr
  | parameter name n .unknown => parameter name n ((ParamTypes.slot? types n).getD .unknown)
  | e => e

theorem isUndecided_iff {e : BoundExpr} :
    e.isUndecided = true ↔ ∃ name n, e = parameter name n .unknown := by
  unfold isUndecided
  split
  · exact ⟨fun _ => ⟨_, _, rfl⟩, fun _ => rfl⟩
  · rename_i h
    refine ⟨fun h => (by cases h), ?_⟩
    rintro ⟨name, n, rfl⟩
    exact absurd rfl (h name n)

theorem decidedBy_undecided (types : List SqlType) (name : String) (n : Nat) :
    (parameter name n .unknown).decidedBy types
      = parameter name n ((ParamTypes.slot? types n).getD .unknown) :=
  rfl

/-- Only undecided parameters are changed. -/
theorem decidedBy_of_not_isUndecided {types : List SqlType} {e : BoundExpr}
    (h : e.isUndecided = false) : e.decidedBy types = e := by
  unfold decidedBy
  split
  · cases h
  · rfl

/-- Deciding a type leaves the name. -/
theorem name_decidedBy (types : List SqlType) (e : BoundExpr) :
    (e.decidedBy types).name = e.name := by
  unfold decidedBy
  split <;> rfl

theorem isUntypedLiteral_decidedBy (types : List SqlType) (e : BoundExpr) :
    (e.decidedBy types).isUntypedLiteral = e.isUntypedLiteral := by
  unfold decidedBy
  split <;> rfl

theorem type_of_isUndecided {e : BoundExpr} (h : e.isUndecided = true) : e.type = .unknown := by
  obtain ⟨name, n, rfl⟩ := isUndecided_iff.1 h
  rfl

end BoundExpr

/-- An output with the given types of parameters in the place of undecided ones. -/
def BoundQuery.decidedBy (types : List SqlType) (q : BoundQuery) : BoundQuery :=
  ⟨q.names, q.columns.map (·.decidedBy types)⟩

/-! ## Common types of decided parameters -/

/-- Expressions whose undecided parameters all become of type `c`. -/
def DecidedAs (types : List SqlType) (c : SqlType) (es : List BoundExpr) : Prop :=
  ∀ e ∈ es, e.isUndecided = true → (e.decidedBy types).type = c

/-- An expression keeps its type, or it had none and takes the common one. -/
theorem DecidedAs.types {types : List SqlType} {c : SqlType} {es : List BoundExpr}
    (h : DecidedAs types c es) : ∀ e ∈ es, (e.decidedBy types).type = e.type
      ∨ e.type = .unknown ∧ (e.decidedBy types).type = c := by
  intro e he
  cases hu : e.isUndecided with
  | false => exact Or.inl (by rw [BoundExpr.decidedBy_of_not_isUndecided hu])
  | true => exact Or.inr ⟨BoundExpr.type_of_isUndecided hu, h e he hu⟩

/-- Taking the common type over changes nothing about it. -/
theorem commonType_decided {types : List SqlType} {c : SqlType} {es : List BoundExpr}
    (hc : c.Counts) (hes : DecidedAs types c es) (h : commonType es = .ok c) :
    commonType (es.map (·.decidedBy types)) = .ok c := by
  unfold commonType at h ⊢
  rw [List.map_map]
  exact commonTypeFrom_decided hc hes.types h

/-- Undecided parameters are no literals, before and after. -/
theorem filter_decidedBy (types : List SqlType) (es : List BoundExpr) :
    (es.map (·.decidedBy types)).filter (fun e => !e.isUntypedLiteral)
      = (es.filter fun e => !e.isUntypedLiteral).map (·.decidedBy types) := by
  rw [List.filter_map]
  congr 1
  refine List.filter_congr fun e _ => ?_
  simp only [Function.comp_apply, BoundExpr.isUntypedLiteral_decidedBy]

/-- Where nothing has a type but a parameter that becomes of type `c`, this is the common type. -/
theorem commonType_decided_of_unknown {types : List SqlType} {c : SqlType} {es : List BoundExpr}
    (hc : c.Counts) (hes : DecidedAs types c es) {e : BoundExpr} (he : e ∈ es)
    (hu : e.isUndecided = true) (h : commonType es = .ok .unknown) :
    commonType (es.map (·.decidedBy types)) = .ok c := by
  have hnone : ∀ e ∈ es, ¬e.type.Counts := by
    rcases counts_commonTypeFrom h with ⟨-, hnone⟩ | hcounts
    · exact fun e he => hnone e.type (List.mem_map_of_mem he)
    · exact absurd hcounts.1 (by decide)
  unfold commonType
  rw [List.map_map]
  refine commonTypeFrom_of_mem hc (List.mem_map.2 ⟨e, he, hes e he hu⟩) fun t ht => ?_
  obtain ⟨e', he', rfl⟩ := List.mem_map.1 ht
  rcases hes.types e' he' with hsame | ⟨-, hsame⟩
  · right
    show ¬(e'.decidedBy types).type.Counts
    rw [hsame]
    exact hnone e' he'
  · exact Or.inl hsame

theorem DecidedAs.filter {types : List SqlType} {c : SqlType} {es : List BoundExpr}
    (h : DecidedAs types c es) (p : BoundExpr → Bool) : DecidedAs types c (es.filter p) :=
  fun e he => h e (List.mem_filter.1 he).1

/-- The common type of expressions that are no literals is what all are brought to. -/
theorem unifiedType_of_typed {es : List BoundExpr} (default : Option SqlType) {c : SqlType}
    (hc : c ≠ .unknown) (h : commonType (es.filter fun e => !e.isUntypedLiteral) = .ok c) :
    unifiedType es default = .ok (some c) := by
  unfold unifiedType
  rw [h]
  simp only [bind, pure, Except.bind, Except.pure, hc, if_false]

/-- What expressions are brought to is the common type of those that are no literals, or, if these
have none, of all, or else the type to fall back on. -/
theorem unifiedType_cases {es : List BoundExpr} {default result : Option SqlType}
    (h : unifiedType es default = .ok result) :
    ∃ t, commonType (es.filter fun e => !e.isUntypedLiteral) = .ok t
      ∧ (t ≠ .unknown ∧ result = some t
        ∨ t = .unknown ∧ ∃ u, commonType es = .ok u
          ∧ (u ≠ .unknown ∧ result = some u ∨ u = .unknown ∧ result = default)) := by
  unfold unifiedType at h
  cases htyped : commonType (es.filter fun e => !e.isUntypedLiteral) with
  | error x =>
    rw [htyped] at h
    cases h
  | ok t =>
    rw [htyped] at h
    refine ⟨t, rfl, ?_⟩
    simp only [bind, pure, Except.bind, Except.pure] at h
    split at h
    · rename_i ht
      cases hall : commonType es with
      | error x =>
        rw [hall] at h
        cases h
      | ok u =>
        rw [hall] at h
        simp only [Except.ok.injEq] at h
        refine Or.inr ⟨ht, u, rfl, ?_⟩
        split at h
        · exact Or.inr ⟨‹_›, h.symm⟩
        · exact Or.inl ⟨‹_›, h.symm⟩
    · exact Or.inl ⟨‹_›, (Except.ok.inj h).symm⟩

/-- With a type to fall back on, expressions are always brought to one. -/
theorem unifiedType_ne_none (es : List BoundExpr) (default : SqlType) :
    unifiedType es (some default) ≠ .ok none := by
  intro h
  obtain ⟨t, -, ⟨-, hnone⟩ | ⟨-, u, -, ⟨-, hnone⟩ | ⟨-, hnone⟩⟩⟩ := unifiedType_cases h
  · cases hnone
  · cases hnone
  · cases hnone

theorem eq_unknown_or_counts {es : List BoundExpr} {c : SqlType} (h : commonType es = .ok c) :
    c = .unknown ∨ c.Counts :=
  (counts_commonTypeFrom h).imp_left And.left

/-- What expressions are brought to is a type that values have. -/
theorem counts_unifiedType {es : List BoundExpr} {default : Option SqlType} {c : SqlType}
    (hdefault : ∀ d, default = some d → d.Counts) (h : unifiedType es default = .ok (some c)) :
    c.Counts := by
  obtain ⟨t, htyped, ⟨ht, hc⟩ | ⟨-, u, hall, ⟨hu, hc⟩ | ⟨-, hc⟩⟩⟩ := unifiedType_cases h
  · cases hc
    exact (eq_unknown_or_counts htyped).resolve_left ht
  · cases hc
    exact (eq_unknown_or_counts hall).resolve_left hu
  · exact hdefault c hc.symm

/-- **What expressions are brought to.** With the types that undecided parameters get in the end,
expressions are brought to the same type. -/
theorem unifiedType_decided {types : List SqlType} {c : SqlType} {es : List BoundExpr}
    {default : Option SqlType} (hc : c.Counts) (hes : DecidedAs types c es)
    (h : unifiedType es default = .ok (some c)) :
    unifiedType (es.map (·.decidedBy types)) default = .ok (some c) := by
  have hne : c ≠ .unknown := by
    rintro rfl
    exact absurd hc.1 (by decide)
  by_cases hall : ∀ e ∈ es, e.isUndecided = false
  · rw [List.map_congr_left fun e he => BoundExpr.decidedBy_of_not_isUndecided (hall e he),
      List.map_id'']
    · exact h
    · exact fun _ => rfl
  · obtain ⟨e, hall⟩ := Classical.not_forall.1 hall
    obtain ⟨he, hu⟩ := Classical.not_imp.1 hall
    rw [Bool.not_eq_false] at hu
    -- an undecided parameter is no literal, so it says what all are brought to
    have hfilter : e ∈ es.filter fun e => !e.isUntypedLiteral := by
      obtain ⟨name, n, rfl⟩ := BoundExpr.isUndecided_iff.1 hu
      exact List.mem_filter.2 ⟨he, rfl⟩
    refine unifiedType_of_typed default hne ?_
    rw [filter_decidedBy]
    obtain ⟨t, htyped, ⟨-, hsome⟩ | ⟨rfl, -⟩⟩ := unifiedType_cases h
    · cases hsome
      exact commonType_decided hc (hes.filter _) htyped
    · exact commonType_decided_of_unknown hc (hes.filter _) hfilter hu htyped

/-! ## Walks that take over no undecided type -/

/-- What is asked of a state from which a walk starts. -/
abbrev Guard := BindState → Prop

/-- What is asked of what a step gives and of the state after it, if it succeeds. -/
def After {α : Type} (x : BindM α) (g : α → Guard) : Guard :=
  fun s => ∀ a s', x s = (.ok a, s') → g a s'

theorem After.of_run {α : Type} {x : BindM α} {g : α → Guard} {s s' : BindState} {a : α}
    (hrun : x s = (.ok a, s')) (h : g a s') : After x g s := by
  intro b s'' hrun'
  rw [hrun] at hrun'
  cases hrun'
  exact h

/-- One guard for a step, and another for what follows it. -/
def Guard.andThen {α : Type} (g : Guard) (x : BindM α) (h : α → Guard) : Guard :=
  fun s => g s ∧ After x h s

/-- What is asked of a state in which a new query level is opened. -/
def Guard.inScope (g : Guard) : Guard :=
  fun s => g { s with scopes := Scope.empty :: s.scopes }

/-- No column of an output is an undecided parameter. -/
def BoundQuery.IsDecided (q : BoundQuery) : Prop :=
  ∀ e ∈ q.columns, e.isUndecided = false

/-- Whether an operator gives the type of its operands. -/
def Sql.BinaryOp.isArithmetic : BinaryOp → Bool
  | .plus | .minus | .multiply | .divide | .modulo => true
  | _ => false

/-- Whether an operator is a sign, which gives the type of its operand. -/
def Sql.UnaryOp.isSign : UnaryOp → Bool
  | .plus | .minus => true
  | _ => false

section

variable (catalog : Catalog)

mutual

/-- No undecided type is taken over while the expression is bound. -/
def confinedExpr : Expr → Guard
  | .cast operand _ => confinedExpr operand
  | .nested operand => confinedExpr operand
  | .binary op left right =>
    (confinedExpr left).andThen (bindExpr catalog left) fun l =>
      (confinedExpr right).andThen (bindExpr catalog right) fun r _ =>
        op.isArithmetic = true → unifiedType [l, r] none = .ok none →
          l.isUndecided = false ∧ r.isUndecided = false
  | .unary op operand =>
    (confinedExpr operand).andThen (bindExpr catalog operand) fun e _ =>
      op.isSign = true → e.isUndecided = false
  | .isNull operand _ => confinedExpr operand
  | .inList operand items _ =>
    (confinedExpr operand).andThen (bindExpr catalog operand) fun _ => confinedExprs items
  | .inQuery operand query _ =>
    (confinedExpr operand).andThen (bindExpr catalog operand) fun _ => confinedQuery none query
  | .between operand low high _ =>
    (confinedExpr operand).andThen (bindExpr catalog operand) fun _ =>
      (confinedExpr low).andThen (bindExpr catalog low) fun _ => confinedExpr high
  | .like _ operand pattern _ _ =>
    (confinedExpr operand).andThen (bindExpr catalog operand) fun e =>
      After (e.coerce .varchar) fun _ => confinedExpr pattern
  | .case none conditions results otherwise =>
    (confinedConditions conditions).andThen (bindConditions catalog conditions) fun _ =>
      (confinedExprs results).andThen (bindExprs catalog results) fun _ => confinedOption otherwise
  | .case (some operand) conditions results otherwise =>
    (confinedExpr operand).andThen (bindExpr catalog operand) fun e =>
      (confinedExprs conditions).andThen (bindExprs catalog conditions) fun es =>
        After (BoundExpr.unify (e :: es) (some .varchar)) fun _ =>
          (confinedExprs results).andThen (bindExprs catalog results) fun _ =>
            confinedOption otherwise
  | .exists query _ => confinedQuery none query
  | .subquery query =>
    (confinedQuery none query).andThen (bindQuery catalog none query) fun q _ => q.IsDecided
  | _ => fun _ => True

/-- No undecided type is taken over while the expressions are bound, each in the state that the
ones before it leave. -/
def confinedExprs : List Expr → Guard
  | [] => fun _ => True
  | e :: es => (confinedExpr e).andThen (bindExpr catalog e) fun _ => confinedExprs es

def confinedOption : Option Expr → Guard
  | some e => confinedExpr e
  | none => fun _ => True

/-- The same for the conditions of a `CASE`, each of which is brought to a boolean before the next
is bound. -/
def confinedConditions : List Expr → Guard
  | [] => fun _ => True
  | e :: es =>
    (confinedExpr e).andThen (bindExpr catalog e) fun b =>
      After (b.coerce .boolean) fun _ => confinedConditions es

def confinedRows : List (List Expr) → Guard
  | [] => fun _ => True
  | row :: rows => (confinedExprs row).andThen (bindExprs catalog row) fun _ => confinedRows rows

/-- No undecided type is taken over while the query is bound. -/
def confinedQuery (expected : Option (List SqlType)) : Query → Guard
  | .mk _ _ body orderBy limit offset _ _ _ =>
    Guard.inScope <|
      (confinedBody false expected body).andThen (bindBody catalog false expected body)
        fun output => (confinedOrder output.names orderBy).andThen
          (bindOrder catalog output.names orderBy) fun _ =>
            (confinedOption limit).andThen (bindCount catalog limit) fun _ => confinedOption offset

/-- The clauses of a `SELECT` are asked in the order in which they are bound. -/
def confinedBody (combined : Bool) (expected : Option (List SqlType)) : Body → Guard
  | .select _ items tables condition groupBy having _ =>
    (if combined then Guard.inScope else id) <|
      (confinedTables tables).andThen (bindTables catalog tables) fun _ =>
        (confinedOption condition).andThen (bindCondition catalog condition) fun _ =>
          (confinedExprs groupBy).andThen (bindExprs catalog groupBy) fun _ =>
            (confinedOption having).andThen (bindCondition catalog having) fun _ =>
              confinedItems items
  | .query query => confinedQuery expected query
  | .operation _ _ left right =>
    (confinedBody true expected left).andThen (bindBody catalog true expected left) fun _ =>
      confinedBody true expected right
  | .values _ rows => confinedRows rows
  | .other _ _ => fun _ => True

def confinedItems : List SelectItem → Guard
  | [] => fun _ => True
  | .unnamed value :: items =>
    (confinedExpr value).andThen (bindExpr catalog value) fun _ => confinedItems items
  | .named value _ :: items =>
    (confinedExpr value).andThen (bindExpr catalog value) fun _ => confinedItems items
  | .wildcard :: items => After (bindStar none) fun _ => confinedItems items
  | .qualifiedWildcard table :: items => After (bindStar (some table)) fun _ => confinedItems items

def confinedOrder (names : List String) : List OrderItem → Guard
  | [] => fun _ => True
  | .mk value _ :: items =>
    if isOutputReference names value then confinedOrder names items
    else (confinedExpr value).andThen (bindExpr catalog value) fun _ => confinedOrder names items

/-- No undecided type is taken over while a table is bound. -/
def confinedTableRef : TableRef → Guard
  | .derived _ query _ =>
    (confinedQuery none query).andThen (bindQuery catalog none query) fun q _ => q.IsDecided
  | .join left _ right _ condition =>
    (confinedTableRef left).andThen (bindTableRef catalog left) fun _ =>
      (confinedTableRef right).andThen (bindTableRef catalog right) fun _ =>
        confinedOption condition
  | _ => fun _ => True

def confinedTables : List TableRef → Guard
  | [] => fun _ => True
  | t :: ts => (confinedTableRef t).andThen (bindTableRef catalog t) fun _ => confinedTables ts

end

def confinedSource : Option TableRef → Guard
  | some t => confinedTableRef catalog t
  | none => fun _ => True

/-- The same for the assignments of an `UPDATE`, where values are brought to the types of their
columns. -/
def confinedAssignments (table : Table) : List Assignment → Guard
  | [] => fun _ => True
  | a :: as =>
    (confinedExpr catalog a.value).andThen (bindExpr catalog a.value) fun e s =>
      ∀ target column, a.target.getLast? = some target → table.column? target.folded = some column →
        After (e.coerce column.type) (fun _ => confinedAssignments table as) s

/-- No undecided type is taken over while the statement is bound: that of an undecided parameter
which is the operand of a sign, the operand of an arithmetic operation that gives no type either, or
a column of a query that stands for a value or a table. -/
def confinedStatement : Statement → Guard
  | .query q => confinedQuery catalog none q
  | .insert i => fun s => ∀ name table types, tableName i.table = .ok name →
      catalog.table name = .ok table → insertTypes table name i.columns = .ok types →
        confinedQuery catalog (some types) i.source s
  | .update table assignments source condition _ =>
    Guard.inScope <| (confinedTableRef catalog table).andThen (bindTableRef catalog table) fun _ =>
      (confinedSource catalog source).andThen (bindSource catalog source) fun _ =>
        (confinedOption catalog condition).andThen (bindCondition catalog condition) fun _ s =>
          ∀ name target, updatedName table = .ok name → catalog.table name = .ok target →
            confinedAssignments catalog target assignments s
  | .delete table _ condition _ =>
    Guard.inScope <| (confinedTableRef catalog table).andThen (bindTableRef catalog table) fun _ =>
      confinedOption catalog condition
  | _ => fun _ => True

end

end Prepared
