import Prepared.Proofs.Analysis.Frame
import Prepared.Proofs.Analysis.OutputTypes
import Prepared.Proofs.Analysis.Soundness
import Prepared.Proofs.Param.Values

/-!
# Which columns are described with a type

A statement is described by the names and types of its columns, and a column can be described as
`unknown`. There are two roots of this: a parameter whose type nothing has decided when it stands in
the output, and an arithmetic operation neither of whose operands has a type. From there an
undecided type is only handed on: behind parentheses and signs, by a query in the place of a value,
and by one in the place of a table to those who use its columns. Every other form gives a type, or
decides one.

* `typedExpr` and its companions ask that there is no such root at the places from which a type
  reaches the output. They follow the output, not the whole walk.
* `analyze_types`: then every column is described with a type that values have; and no column is
  ever described as `invalid`.
-/

namespace Prepared

open Sql BindM Walk

/-! ## Outputs with types -/

section

variable (catalog : Catalog)

mutual

/-- The expression, bound from a given state, gets a type. -/
def typedExpr : Expr → Guard
  | .literal (.placeholder text) =>
    After (bindLiteral (.placeholder text)) fun e _ => e.isUndecided = false
  | .nested operand => typedExpr operand
  | .unary op operand => fun s => op.isSign = true → typedExpr operand s
  | .binary op left right =>
    After (bindExpr catalog left) fun l => After (bindExpr catalog right) fun r _ =>
      op.isArithmetic = true → l.type.Counts ∨ r.type.Counts
  | .subquery query => typedQuery query
  | _ => fun _ => True

/-- Every column of the query, and of the tables that it takes its rows from, gets a type. -/
def typedQuery : Query → Guard
  | .mk _ _ body _ _ _ _ _ _ => Guard.inScope (typedBody body)

/-- What is combined with others, and what is a list of values, always gets types. -/
def typedBody : Body → Guard
  | .select _ items tables condition groupBy having _ =>
    (typedTables tables).andThen (bindTables catalog tables) fun _ =>
      After (bindCondition catalog condition) fun _ => After (bindExprs catalog groupBy) fun _ =>
        After (bindCondition catalog having) fun _ => typedItems items
  | .query query => typedQuery query
  | _ => fun _ => True

/-- Every item of an output gets a type; a wildcard takes them over from the tables. -/
def typedItems : List SelectItem → Guard
  | [] => fun _ => True
  | .unnamed value :: items =>
    (typedExpr value).andThen (bindExpr catalog value) fun _ => typedItems items
  | .named value _ :: items =>
    (typedExpr value).andThen (bindExpr catalog value) fun _ => typedItems items
  | .wildcard :: items => After (bindStar none) fun _ => typedItems items
  | .qualifiedWildcard table :: items => After (bindStar (some table)) fun _ => typedItems items

/-- Every column of a table in a `FROM` has a type. Tables of the catalog always do. -/
def typedTableRef : TableRef → Guard
  | .derived _ query _ => typedQuery query
  | .join left _ right _ _ =>
    (typedTableRef left).andThen (bindTableRef catalog left) fun _ => typedTableRef right
  | _ => fun _ => True

def typedTables : List TableRef → Guard
  | [] => fun _ => True
  | t :: ts => (typedTableRef t).andThen (bindTableRef catalog t) fun _ => typedTables ts

end

/-- Every column that the statement is described by gets a type. -/
def typedStatement : Statement → Guard
  | .query q => typedQuery catalog q
  | _ => fun _ => True

end

/-- Every column of every table has a type that values have. -/
def Catalog.IsTyped (catalog : Catalog) : Prop :=
  ∀ name table, catalog.table name = .ok table → ∀ c ∈ table.columns, c.type.isResolved = true

/-! ## Successful steps -/

section After

variable {α β : Type} {s : BindState}

theorem After.pure {a : α} {g : α → Guard} (h : g a s) : After (Pure.pure a) g s := by
  intro a' s' hrun
  cases hrun
  exact h

theorem After.throw {g : α → Guard} (e : BindError) : After (MonadExcept.throw e) g s := by
  intro a s' hrun
  cases hrun

/-- What holds after the second step has to hold after each run of the first. -/
theorem After.bind {x : BindM α} {f : α → BindM β} {g : β → Guard}
    (h : ∀ a s', x s = (.ok a, s') → After (f a) g s') : After (x >>= f) g s := by
  intro b s'' hrun
  obtain ⟨a, s', hx, hf⟩ := Walk.run_bind_ok hrun
  exact h a s' hx b s'' hf

/-- A condition that does not look at the state survives the closing of a query level. -/
theorem After.withScope {x : BindM α} {P : α → Prop}
    (h : After x (fun a _ => P a) { s with scopes := Scope.empty :: s.scopes }) :
    After (withScope x) (fun a _ => P a) s := by
  intro a s' hrun
  obtain ⟨t, hx, -⟩ := Walk.run_withScope_ok hrun
  exact h a t hx

end After

/-! ## Types that a column can be described with

Both results come from one induction. `strict` is whether an undecided type is ruled out as well;
only then something is asked of the output. -/

/-- A type that is not `invalid`, and if `strict` is one of values. -/
structure SqlType.Described (strict : Prop) (t : SqlType) : Prop where
  ne_invalid : t ≠ .invalid
  resolved : strict → t.isResolved = true

variable {strict : Prop}

/-- The types of values are good for both readings. -/
theorem SqlType.Described.of_isResolved {t : SqlType} (h : t.isResolved = true) :
    t.Described strict := by
  refine ⟨?_, fun _ => h⟩
  rintro rfl
  cases h

/-- An undecided type is all right as long as nothing is asked of it. -/
theorem SqlType.Described.of_unknown {t : SqlType} (ht : t = .unknown) (h : ¬strict) :
    t.Described strict := by
  subst ht
  exact ⟨nofun, fun hstrict => absurd hstrict h⟩

/-- Expressions that can be columns of an output. -/
def DescribedAll (strict : Prop) (es : List BoundExpr) : Prop :=
  ∀ e ∈ es, e.type.Described strict

theorem DescribedAll.append {es fs : List BoundExpr} (he : DescribedAll strict es)
    (hf : DescribedAll strict fs) : DescribedAll strict (es ++ fs) :=
  List.forall_mem_append.2 ⟨he, hf⟩

/-- What has a type in any state can be a column in this one. -/
theorem Walk.Yields.described {x : BindM BoundExpr} (h : Yields x BoundExpr.IsTyped)
    (s : BindState) : After x (fun e _ => e.type.Described strict) s :=
  fun e s' hrun => .of_isResolved (h s e s' hrun)

theorem Walk.Yields.describedAll {x : BindM BoundQuery} (h : Yields x BoundQuery.IsTyped)
    (s : BindState) : After x (fun q _ => DescribedAll strict q.columns) s :=
  fun q s' hrun e he => .of_isResolved (h s q s' hrun e he)

/-- A state in which everything that can be referred to can be described. -/
structure Ready (strict : Prop) (s : BindState) : Prop where
  columns : ∀ scope ∈ s.scopes, ∀ b ∈ scope.bindings, ∀ c ∈ b.columns, c.type.Described strict
  given : ∀ types, s.params = .declared types → ∀ t ∈ types, t.isResolved = true

/-- What every step leaves alone that adds no table: the query levels and the given types. -/
def StepRelation.frame (c : Catalog) : StepRelation ParamTypes c c :=
  ((Frame.levels ParamTypes).stepRelation c).and (Frame.given.stepRelation c)

namespace Ready

variable {α : Type} {s s' : BindState}

/-- A step that adds no table leaves a state in which the same can be referred to. -/
theorem after {c : Catalog} {x : BindM α} {r : Except BindError α} (h : Ready strict s)
    (hframe : (StepRelation.frame c).Keeping x x) (hrun : x s = (r, s')) : Ready strict s' := by
  obtain ⟨hlevels, hgiven⟩ := hframe
  have hscopes : (x s).2.scopes = s.scopes := hlevels s
  have hparams : ∀ types, (x s).2.params = .declared types ↔ s.params = .declared types := hgiven s
  rw [hrun] at hscopes hparams
  constructor
  · rw [hscopes]
    exact h.columns
  · intro types hdeclared
    exact h.given types ((hparams types).1 hdeclared)

/-- A new query level has no tables. -/
theorem inScope (h : Ready strict s) :
    Ready strict { s with scopes := Scope.empty :: s.scopes } := by
  refine ⟨fun scope hscope => ?_, h.given⟩
  rcases List.mem_cons.1 hscope with rfl | houter
  · -- there is nothing to refer to in a new query level
    exact fun b hb => absurd hb List.not_mem_nil
  · exact h.columns scope houter

theorem addBinding {b : Binding} (h : Ready strict s)
    (hb : ∀ c ∈ b.columns, c.type.Described strict) :
    After (addBinding b) (fun _ => Ready strict) s := by
  intro u s' hrun
  unfold BindM.addBinding at hrun
  split at hrun
  · rename_i scope outer hscopes
    split at hrun
    · rename_i larger hadd
      cases hrun
      refine ⟨fun scope' hmem b' hb' => ?_, h.given⟩
      rcases List.mem_cons.1 hmem with rfl | houter
      · unfold Scope.add at hadd
        split at hadd
        · cases hadd
        · cases hadd
          rcases List.mem_append.1 hb' with hold | hnew
          · exact h.columns scope (hscopes ▸ List.mem_cons_self) b' hold
          · rw [List.mem_singleton.1 hnew]
            exact hb
      · exact h.columns scope' (hscopes ▸ List.mem_cons_of_mem _ houter) b' hb'
    · cases hrun
  · cases hrun

end Ready

/-! ## References -/

/-- The table that is meant is one of the level, named or not. -/
theorem mem_of_referent? {scope : Scope} {table : Option String} {column : String} {b : Binding}
    (h : scope.referent? table column = .ok (some b)) : b ∈ scope.bindings := by
  unfold Scope.referent? at h
  split at h
  · exact List.mem_of_find?_eq_some (Except.ok.inj h)
  · unfold Scope.matching? at h
    split at h
    · cases h
    · rename_i only honly
      cases h
      have hmem : b ∈ scope.bindings.filter (·.hasColumn column) := by
        rw [honly]
        exact List.mem_singleton_self b
      exact (List.mem_filter.1 hmem).1
    · cases h

/-- A column is found at the first level, or else further out if no table there is meant. -/
theorem findColumn_cons_eq_ok {table : Option String} {column : String} {depth : Nat}
    {scope : Scope} {outer : List Scope} {found : BoundColumn}
    (h : findColumn table column depth (scope :: outer) = .ok found) :
    (∃ b, scope.referent? table column = .ok (some b) ∧ b.bind column depth = .ok found)
      ∨ scope.referent? table column = .ok none
        ∧ findColumn table column (depth + 1) outer = .ok found := by
  unfold findColumn at h
  cases hreferent : scope.referent? table column with
  | error e =>
    rw [hreferent] at h
    cases h
  | ok referent =>
    rw [hreferent] at h
    cases referent with
    | none => exact Or.inr ⟨rfl, h⟩
    | some b => exact Or.inl ⟨b, rfl, h⟩

/-- A column that is found is a column of a visible table. -/
theorem mem_of_findColumn {table : Option String} {column : String} {depth : Nat}
    {scopes : List Scope} {found : BoundColumn}
    (h : findColumn table column depth scopes = .ok found) :
    ∃ scope ∈ scopes, ∃ b ∈ scope.bindings, ∃ c ∈ b.columns, c.type = found.type := by
  induction scopes generalizing depth with
  | nil => cases h
  | cons scope outer ih =>
    rcases findColumn_cons_eq_ok h with ⟨b, hreferent, hbind⟩ | ⟨-, houter⟩
    · unfold Binding.bind at hbind
      split at hbind
      · rename_i position c hlast
        cases hbind
        have hc : c ∈ b.columns := List.mem_of_getElem? (lastColumn?_eq_some hlast).1
        exact ⟨scope, List.mem_cons_self, b, mem_of_referent? hreferent, c, hc, rfl⟩
      · cases hbind
    · obtain ⟨scope', hscope, hcolumn⟩ := ih houter
      exact ⟨scope', List.mem_cons_of_mem _ hscope, hcolumn⟩

/-- A parameter that is referred to is undecided or has a type; a type that is given is never
invalid. -/
theorem ParamTypes.refer_type {p p' : ParamTypes} {n : Nat} {t : SqlType}
    (hgiven : ∀ types, p = .declared types → ∀ t ∈ types, t.isResolved = true)
    (h : p.refer n = .ok (t, p')) : t = .unknown ∨ t.isResolved = true := by
  cases p with
  | absent => cases h
  | declared types =>
    right
    cases hslot : slot? types n with
    | none =>
      unfold slot? at hslot
      simp only [refer, hslot] at h
      cases h
    | some u =>
      rw [refer_declared hslot] at h
      cases h
      exact hgiven types rfl t (mem_of_slot? hslot)
  | inferred types limit =>
    rcases refer_inferred types limit n with hrefused | ⟨_, _, hanswer, -, -, -, ht⟩
    · rw [hrefused] at h
      cases h
    · rw [hanswer] at h
      cases h
      exact ht

section Forms

variable {s : BindState} (h : Ready strict s)

include h

/-- A reference takes its type over from a visible column. -/
theorem resolveColumn_described (table : Option String) (column : String) :
    After (resolveColumn table column) (fun c _ => c.type.Described strict) s := by
  intro c s' hrun
  obtain ⟨hfound, -⟩ := Prod.mk.inj hrun
  obtain ⟨scope, hscope, b, hb, c', hc', hsame⟩ := mem_of_findColumn hfound
  rw [← hsame]
  exact h.columns scope hscope b hb c' hc'

theorem bindColumnRef_described (parts : List Ident) :
    After (bindColumnRef parts) (fun e _ => e.type.Described strict) s := by
  unfold bindColumnRef
  split
  · exact .bind fun c s₁ hrun => .pure (resolveColumn_described h _ _ c s₁ hrun)
  · exact .bind fun c s₁ hrun => .pure (resolveColumn_described h _ _ c s₁ hrun)
  · exact .throw _

/-- A parameter is undecided or has a type of values. It is never `invalid`. -/
theorem referParam_type (n : Nat) :
    After (referParam n) (fun t _ => t = .unknown ∨ t.isResolved = true) s := by
  intro t s' hrun
  exact ParamTypes.refer_type h.given (Sim.referParam_ok hrun)

/-- A placeholder is one of the two roots of undecided types, and the only one among the literals.
-/
theorem bindLiteral_described (catalog : Catalog) (l : Literal)
    (htyped : strict → typedExpr catalog (.literal l) s) :
    After (bindLiteral l) (fun e _ => e.type.Described strict) s := by
  cases l with
  | placeholder text =>
    intro e s' hrun
    have hdecided : strict → e.isUndecided = false := fun hstrict => htyped hstrict e s' hrun
    have htype : After (bindLiteral (.placeholder text))
        (fun e _ => e.isUndecided = true ∨ e.IsTyped) s := by
      unfold bindLiteral
      dsimp only
      split
      · refine .bind fun t s₁ hrefer => .pure ?_
        rcases referParam_type h _ t s₁ hrefer with rfl | ht
        · exact Or.inl rfl
        · exact Or.inr ht
      · exact .throw _
    rcases htype e s' hrun with hundecided | htyped
    · refine .of_unknown (BoundExpr.type_of_isUndecided hundecided) fun hstrict => ?_
      rw [hdecided hstrict] at hundecided
      cases hundecided
    · exact .of_isResolved htyped
  | _ =>
    -- any other literal is a value
    refine Yields.described ?_ s
    exact .then_ fun v => .pure v.type_isResolved

theorem starColumns_described (table : String) (columns : List Column) :
    After (starColumns table columns) (fun es _ => DescribedAll strict es) s := by
  induction columns with
  | nil => exact .pure fun e he => absurd he List.not_mem_nil
  | cons c cs ih =>
    unfold starColumns
    refine .bind fun column s₁ hrun => ?_
    have hcolumn := resolveColumn_described h _ _ column s₁ hrun
    -- a look at the query levels changes nothing, so the others are looked up in the same state
    obtain ⟨-, rfl⟩ := Prod.mk.inj hrun
    refine .bind fun rest s₂ hrest => .pure ?_
    exact List.forall_mem_cons.2 ⟨hcolumn, ih rest s₂ hrest⟩

end Forms

theorem starBindings_described {s : BindState} (h : Ready strict s) (bindings : List Binding) :
    After (starBindings bindings) (fun es _ => DescribedAll strict es) s := by
  induction bindings generalizing s with
  | nil => exact .pure fun e he => absurd he List.not_mem_nil
  | cons b bs ih =>
    unfold starBindings
    refine .bind fun columns s₁ hrun => ?_
    have hcolumns := starColumns_described h _ _ columns s₁ hrun
    have h₁ : Ready strict s₁ := h.after ((StepRelation.frame .empty).keeping_starColumns _ _) hrun
    exact .bind fun rest s₂ hrest => .pure (hcolumns.append (ih h₁ rest s₂ hrest))

theorem bindStar_described {s : BindState} (h : Ready strict s) (table : Option ObjectName) :
    After (bindStar table) (fun es _ => DescribedAll strict es) s := by
  unfold bindStar
  cases table with
  | none =>
    refine .bind fun scope s₁ hrun => ?_
    have h₁ : Ready strict s₁ := h.after (StepRelation.frame .empty).keeping_currentScope hrun
    split
    · exact .throw _
    · exact starBindings_described h₁ _
  | some table =>
    refine .bind fun name s₁ hname => ?_
    obtain ⟨-, rfl⟩ := Prod.mk.inj hname
    refine .bind fun scope s₂ hrun => ?_
    have h₂ : Ready strict s₂ := h.after (StepRelation.frame .empty).keeping_currentScope hrun
    split
    · exact starBindings_described h₂ _
    · exact .throw _

/-! ## Tables -/

/-- Renaming leaves the types alone. -/
theorem type_mem_of_mem_renamed {names : List String} {types : List SqlType} {aliases : List Ident}
    {c : Column} (h : c ∈ renamed names types aliases) : c.type ∈ types := by
  unfold renamed at h
  obtain ⟨i, hi⟩ := List.mem_iff_getElem?.1 h
  obtain ⟨name, type, -, htype, rfl⟩ := List.getElem?_zipWith_eq_some.1 hi
  exact List.mem_of_getElem? htype

section

variable {s : BindState} (h : Ready strict s)

include h

/-- Numbering a table changes nothing that can be referred to. -/
theorem newTable_ready (b : Nat → Binding)
    (hb : ∀ n, ∀ c ∈ (b n).columns, c.type.Described strict) :
    After (do addBinding (b (← newTable))) (fun _ => Ready strict) s := by
  refine .bind fun n s₁ hrun => ?_
  have h₁ : Ready strict s₁ := h.after (StepRelation.frame .empty).keeping_newTable hrun
  exact h₁.addBinding (hb n)

/-- A subquery whose columns can be described makes a table whose columns can. -/
theorem bindDerived_ready {q : BoundQuery} (hq : DescribedAll strict q.columns)
    (label : TableAlias) : After (bindDerived q label) (fun _ => Ready strict) s := by
  refine newTable_ready h _ fun n c hc => ?_
  obtain ⟨e, he, htype⟩ := List.mem_map.1 (type_mem_of_mem_renamed hc)
  rw [← htype]
  exact hq e he

/-- The columns of the catalog have types of values. -/
theorem bindTable_ready {catalog : Catalog} (hcatalog : catalog.IsTyped) (name : ObjectName)
    (label : Option TableAlias) :
    After (bindTable catalog name label) (fun _ => Ready strict) s := by
  unfold bindTable
  refine .bind fun name s₁ hname => ?_
  obtain ⟨-, rfl⟩ := Prod.mk.inj hname
  refine .bind fun table s₂ htable => ?_
  obtain ⟨hfound, rfl⟩ := ok_of_ofCatalog htable
  refine newTable_ready h _ fun n c hc => ?_
  exact .of_isResolved (hcatalog _ table hfound c hc)

end

/-! ## Expressions, queries and tables -/

section

variable {catalog : Catalog}

/-- An item stands in front of the others, which are bound in the state that it leaves. -/
theorem bindItem_described {α : Type} {x : BindM α} {item : α → BoundQuery}
    {rest : BindM BoundQuery} {s : BindState} (h : Ready strict s)
    (hitem : After x (fun a _ => DescribedAll strict (item a).columns) s)
    (hframe : (StepRelation.frame catalog).Keeping x x)
    (hrest : ∀ a s₁, x s = (.ok a, s₁) → Ready strict s₁ →
      After rest (fun q _ => DescribedAll strict q.columns) s₁) :
    After (do let a ← x; return (item a).append (← rest))
      (fun q _ => DescribedAll strict q.columns) s := by
  refine .bind fun a s₁ hrun => .bind fun q s₂ hq => .pure ?_
  have h₁ : Ready strict s₁ := h.after hframe hrun
  exact (hitem a s₁ hrun).append (hrest a s₁ hrun h₁ q s₂ hq)

-- On the syntax, but only along the way from the output to the tables. Of what is bound for its
-- effect alone, conditions and groups, nothing is asked but that it leaves the state ready.
mutual

/-- **An expression has a type**, unless it is a root of undecided types or hands one on. -/
theorem bindExpr_described (hcatalog : catalog.IsTyped) : (e : Expr) → {s : BindState} →
    Ready strict s → (strict → typedExpr catalog e s) →
    After (bindExpr catalog e) (fun b _ => b.type.Described strict) s
  | .column name, s, h, _ => by
    unfold bindExpr
    exact bindColumnRef_described h _
  | .qualified parts, s, h, _ => by
    unfold bindExpr
    exact bindColumnRef_described h _
  | .literal value, s, h, htyped => by
    unfold bindExpr
    exact bindLiteral_described h catalog value htyped
  | .typed type text, s, h, _ => by
    unfold bindExpr
    refine Yields.described ?_ s
    exact .then_ fun target => .then_ fun v => .pure v.type_isResolved
  | .cast operand type, s, h, _ => by
    unfold bindExpr
    refine Yields.described ?_ s
    have htarget : Yields (ofType (SqlType.ofDataType type) : BindM _) fun t => t.isResolved = true :=
      .ofType fun t ht => SqlType.isResolved_of_ofDataType ht
    exact htarget.bind fun target ht => .then_ fun e => bindCast_yields _ ht e
  | .nested operand, s, h, htyped => by
    unfold bindExpr
    exact bindExpr_described hcatalog operand h htyped
  | .binary op left right, s, h, htyped => by
    unfold bindExpr
    refine .bind fun l s₁ hl => .bind fun r s₂ hr => ?_
    intro e s' hrun
    rcases bindBinary_yields _ op l r s₂ e s' hrun with htype | ⟨harithmetic, hnone, hunknown⟩
    · exact .of_isResolved htype
    · -- an operand with a type would have given its type to the result
      refine .of_unknown hunknown fun hstrict => ?_
      rcases htyped hstrict l s₁ hl r s₂ hr harithmetic with hcounts | hcounts
      · exact unifiedType_ne_none_of_counts List.mem_cons_self hcounts none hnone
      · exact unifiedType_ne_none_of_counts (List.mem_cons_of_mem _ List.mem_cons_self) hcounts
          none hnone
  | .unary op operand, s, h, htyped => by
    unfold bindExpr
    refine .bind fun e s₁ he => ?_
    intro e' s' hrun
    rcases bindUnary_yields _ op e s₁ e' s' hrun with htype | ⟨hsign, hsame⟩
    · exact .of_isResolved htype
    · -- a sign hands on the type of its operand
      rw [hsame]
      exact bindExpr_described hcatalog operand h (fun hstrict => htyped hstrict hsign) e s₁ he
  | .isNull operand negated, s, h, _ => by
    unfold bindExpr
    refine Yields.described ?_ s
    exact .then_ fun _ => .pure (predicateOf_isTyped _)
  | .inList operand items negated, s, h, _ => by
    unfold bindExpr
    refine Yields.described ?_ s
    exact .then_ fun _ => .then_ fun _ => bindComparison_yields _ _
  | .inQuery operand query negated, s, h, _ => by
    unfold bindExpr
    refine Yields.described ?_ s
    exact .then_ fun _ => .then_ fun _ => .then_ fun _ => bindComparison_yields _ _
  | .between operand low high negated, s, h, _ => by
    unfold bindExpr
    refine Yields.described ?_ s
    exact .then_ fun _ => .then_ fun _ => .then_ fun _ => bindComparison_yields _ _
  | .like kind operand pattern escape negated, s, h, _ => by
    unfold bindExpr
    refine Yields.described ?_ s
    exact .then_ fun _ => .then_ fun _ => .then_ fun _ => .then_ fun _ =>
      .pure (predicateOf_isTyped _)
  | .case none conditions results otherwise, s, h, _ => by
    unfold bindExpr
    refine Yields.described ?_ s
    exact .then_ fun _ => .then_ fun _ => .then_ fun _ => bindBranches_yields _ _
  | .case (some operand) conditions results otherwise, s, h, _ => by
    unfold bindExpr
    refine Yields.described ?_ s
    exact .then_ fun _ => .then_ fun _ => .then_ fun _ => .then_ fun _ => .then_ fun _ =>
      bindBranches_yields _ _
  | .exists query negated, s, h, _ => by
    unfold bindExpr
    refine Yields.described ?_ s
    exact .then_ fun _ => .pure (predicateOf_isTyped _)
  | .subquery query, s, h, htyped => by
    unfold bindExpr
    refine .bind fun q s₁ hq => .bind fun column s₂ hcolumn => .pure ?_
    have hcolumns := bindQuery_described hcatalog query h htyped q s₁ hq
    exact hcolumns column (Sim.mem_of_singleColumn hcolumn)
  | .arrayOf query, s, h, _ => by
    unfold bindExpr
    exact .throw _
  | .form form operands, s, h, _ => by
    unfold bindExpr
    exact .throw _

/-- **The columns of a query.** -/
theorem bindQuery_described (hcatalog : catalog.IsTyped) : (q : Query) → {s : BindState} →
    Ready strict s → (strict → typedQuery catalog q s) →
    After (bindQuery catalog none q) (fun q _ => DescribedAll strict q.columns) s
  | .mk recursive ctes body orderBy limit offset offsetWord fetch lock, s, h, htyped => by
    unfold bindQuery
    split
    · exact .throw _
    · refine .withScope (.bind fun output s₁ hbody => ?_)
      have houtput := bindBody_described hcatalog body h.inScope htyped output s₁ hbody
      -- the order and the limits are bound after the output and leave it as it is
      exact .bind fun _ _ _ => .bind fun _ _ _ => .bind fun _ _ _ => .pure houtput

/-- Combined queries and lists of values fall back on text, so only a `SELECT` needs its guard. -/
theorem bindBody_described (hcatalog : catalog.IsTyped) : (b : Body) → {s : BindState} →
    Ready strict s → (strict → typedBody catalog b s) →
    After (bindBody catalog false none b) (fun q _ => DescribedAll strict q.columns) s
  | .select distinct items tables condition groupBy having extras, s, h, htyped => by
    unfold bindBody
    refine .bind fun _ s₁ htables => ?_
    have h₁ : Ready strict s₁ :=
      bindTables_ready hcatalog tables h (fun hs => (htyped hs).1) _ s₁ htables
    refine .bind fun _ s₂ hcondition => ?_
    have h₂ : Ready strict s₂ :=
      h₁.after ((StepRelation.frame catalog).bindCondition_related condition) hcondition
    refine .bind fun groups s₃ hgroups => ?_
    have h₃ : Ready strict s₃ :=
      h₂.after ((StepRelation.frame catalog).bindExprs_related groupBy) hgroups
    refine .bind fun _ s₄ hhaving => ?_
    have h₄ : Ready strict s₄ :=
      h₃.after ((StepRelation.frame catalog).bindCondition_related having) hhaving
    refine .bind fun output s₅ hitems => ?_
    have houtput := bindItems_described hcatalog items h₄
      (fun hs => (htyped hs).2 _ s₁ htables _ s₂ hcondition groups s₃ hgroups _ s₄ hhaving)
      output s₅ hitems
    exact .pure houtput
  | .query query, s, h, htyped => by
    unfold bindBody
    exact bindQuery_described hcatalog query h htyped
  | .operation op quantifier left right, s, h, _ => by
    unfold bindBody
    refine Yields.describedAll ?_ s
    exact .then_ fun l => .then_ fun r => combineQueries_yields l r
  | .values rowWord rows, s, h, _ => by
    unfold bindBody
    refine Yields.describedAll ?_ s
    refine .then_ fun _ => .then_ fun bound => ?_
    exact (unifyColumns_yields _).bind fun columns hcolumns => .pure hcolumns
  | .other text outline, s, h, _ => by
    unfold bindBody
    exact .throw _

/-- By induction on the items, each of which leaves a state that is ready for the next. -/
theorem bindItems_described (hcatalog : catalog.IsTyped) : (items : List SelectItem) →
    {s : BindState} → Ready strict s → (strict → typedItems catalog items s) →
    After (bindItems catalog items) (fun q _ => DescribedAll strict q.columns) s
  | [], s, h, _ => by
    unfold bindItems
    exact .pure fun e he => absurd he List.not_mem_nil
  | .unnamed value :: items, s, h, htyped => by
    unfold bindItems
    have he : After (bindExpr catalog value) (fun e _ => DescribedAll strict [e]) s :=
      fun e s₁ hvalue => List.forall_mem_singleton.2
        (bindExpr_described hcatalog value h (fun hs => (htyped hs).1) e s₁ hvalue)
    refine bindItem_described h he ((StepRelation.frame catalog).bindExpr_related value) ?_
    intro e s₁ hvalue h₁
    exact bindItems_described hcatalog items h₁ fun hs => (htyped hs).2 e s₁ hvalue
  | .named value name :: items, s, h, htyped => by
    unfold bindItems
    have he : After (bindExpr catalog value) (fun e _ => DescribedAll strict [e]) s :=
      fun e s₁ hvalue => List.forall_mem_singleton.2
        (bindExpr_described hcatalog value h (fun hs => (htyped hs).1) e s₁ hvalue)
    refine bindItem_described h he ((StepRelation.frame catalog).bindExpr_related value) ?_
    intro e s₁ hvalue h₁
    exact bindItems_described hcatalog items h₁ fun hs => (htyped hs).2 e s₁ hvalue
  | .wildcard :: items, s, h, htyped => by
    unfold bindItems
    refine bindItem_described h (bindStar_described h none)
      ((StepRelation.frame catalog).keeping_bindStar none) ?_
    intro columns s₁ hstar h₁
    exact bindItems_described hcatalog items h₁ fun hs => htyped hs columns s₁ hstar
  | .qualifiedWildcard table :: items, s, h, htyped => by
    unfold bindItems
    refine bindItem_described h (bindStar_described h (some table))
      ((StepRelation.frame catalog).keeping_bindStar (some table)) ?_
    intro columns s₁ hstar h₁
    exact bindItems_described hcatalog items h₁ fun hs => htyped hs columns s₁ hstar

/-- The columns of a table can be referred to once it is bound. -/
theorem bindTableRef_ready (hcatalog : catalog.IsTyped) : (t : TableRef) → {s : BindState} →
    Ready strict s → (strict → typedTableRef catalog t s) →
    After (bindTableRef catalog t) (fun _ => Ready strict) s
  | .table name hasArgs args label hints, s, h, _ => by
    unfold bindTableRef
    exact bindTable_ready h hcatalog name label
  | .derived lateral query none, s, h, _ => by
    unfold bindTableRef
    exact .throw _
  | .derived lateral query (some label), s, h, htyped => by
    unfold bindTableRef
    refine .bind fun q s₁ hquery => ?_
    have hq := bindQuery_described hcatalog query h htyped q s₁ hquery
    have h₁ : Ready strict s₁ :=
      h.after ((StepRelation.frame catalog).bindQuery_related none query) hquery
    exact bindDerived_ready h₁ hq label
  | .function value label, s, h, _ => by
    unfold bindTableRef
    exact .throw _
  | .nested tables label, s, h, _ => by
    unfold bindTableRef
    exact .throw _
  | .join left kind right rule condition, s, h, htyped => by
    unfold bindTableRef
    -- the right side of a join is bound where the tables of the left are visible already
    refine .bind fun _ s₁ hleft => ?_
    have h₁ : Ready strict s₁ :=
      bindTableRef_ready hcatalog left h (fun hs => (htyped hs).1) _ s₁ hleft
    refine .bind fun _ s₂ hright => ?_
    have h₂ : Ready strict s₂ :=
      bindTableRef_ready hcatalog right h₁ (fun hs => (htyped hs).2 _ s₁ hleft) _ s₂ hright
    split
    · exact fun _ _ hcondition =>
        h₂.after ((StepRelation.frame catalog).bindCondition_related condition) hcondition
    · exact .throw _

theorem bindTables_ready (hcatalog : catalog.IsTyped) : (ts : List TableRef) → {s : BindState} →
    Ready strict s → (strict → typedTables catalog ts s) →
    After (bindTables catalog ts) (fun _ => Ready strict) s
  | [], s, h, _ => by
    unfold bindTables
    exact .pure h
  | t :: ts, s, h, htyped => by
    unfold bindTables
    refine .bind fun _ s₁ ht => ?_
    have h₁ : Ready strict s₁ := bindTableRef_ready hcatalog t h (fun hs => (htyped hs).1) _ s₁ ht
    exact bindTables_ready hcatalog ts h₁ (fun hs => (htyped hs).2 _ s₁ ht)

end

/-! ## Statements -/

/-- In the beginning no table is visible, and the given types are those of values. -/
theorem Ready.initial {p : ParamTypes}
    (hgiven : ∀ types, p = .declared types → ∀ t ∈ types, t.isResolved = true) :
    Ready strict (.initial p) :=
  ⟨fun _ hscope => absurd hscope List.not_mem_nil, hgiven⟩

/-- What is no query has no columns but the count of rows. -/
theorem bindStatement_described (hcatalog : catalog.IsTyped) {S : Statement} {s : BindState}
    (h : Ready strict s) (htyped : strict → typedStatement catalog S s) :
    After (bindStatement catalog S) (fun d _ => ∀ t ∈ d.types, t.Described strict) s := by
  have hempty : ∀ t ∈ Description.empty.types, t.Described strict :=
    fun t ht => absurd ht List.not_mem_nil
  unfold bindStatement
  split
  · rename_i query
    refine .bind fun output s₁ hquery => .pure fun t ht => ?_
    obtain ⟨e, he, rfl⟩ := List.mem_map.1 ht
    exact bindQuery_described hcatalog query h htyped output s₁ hquery e he
  · exact .bind fun _ _ _ => .pure hempty
  · exact .bind fun _ _ _ => .pure hempty
  · exact .bind fun _ _ _ => .pure hempty
  · exact .throw _

/-- Given types that an analysis succeeds with are types that values have: this is checked in the
end, and they are then what they were in the beginning. -/
theorem given_of_analyze {p p' : ParamTypes} {S : Statement} {d : Description}
    (h : analyze catalog p S = (.ok d, p')) :
    ∀ types, p = .declared types → ∀ t ∈ types, t.isResolved = true := by
  rintro types rfl
  obtain ⟨s', hbind, hparams, hcheck⟩ := analyze_eq_ok.1 h
  have hkept := (Frame.given.stepRelation catalog).bindStatement_related S
    (.initial (.declared types)) types
  rw [hbind] at hkept
  have hsame : s'.params = .declared types := hkept.2 rfl
  rw [← hparams, hsame] at hcheck
  exact ParamTypes.check_eq_ok_iff.1 hcheck types rfl

/-- **Every column is described with a type.** If the columns of all tables have types that values
have, a statement that is analyzed successfully, with whatever is known of its parameters
beforehand, is described with no `invalid` type, and with none but types of values if no root of
undecided types is handed on to the output. -/
theorem analyze_types (hcatalog : catalog.IsTyped) {p p' : ParamTypes} {S : Statement}
    {d : Description} (h : analyze catalog p S = (.ok d, p')) :
    (∀ t ∈ d.types, t ≠ .invalid)
      ∧ (typedStatement catalog S (.initial p) → ∀ t ∈ d.types, t.isResolved = true) := by
  have hgiven := given_of_analyze h
  obtain ⟨s', hbind, -, -⟩ := analyze_eq_ok.1 h
  constructor
  · -- nothing is asked of the output here: a type may be undecided, but not invalid
    have hdescribed : ∀ t ∈ d.types, t.Described False :=
      bindStatement_described hcatalog (.initial hgiven) False.elim d s' hbind
    exact fun t ht => (hdescribed t ht).ne_invalid
  · intro htyped
    have hdescribed : ∀ t ∈ d.types, t.Described True :=
      bindStatement_described hcatalog (.initial hgiven) (fun _ => htyped) d s' hbind
    exact fun t ht => (hdescribed t ht).resolved trivial

end

/-! ## Undecided types in an output -/

/-- `(SELECT $1 + 1) AS t (x)` -/
def Sql.TableRef.next : TableRef :=
  .derived false (.selecting [.binary .plus .first (.literal (.number "1" false))] [])
    (some ⟨⟨"t", none⟩, [⟨"x", none⟩]⟩)

/-- `SELECT -x FROM (SELECT $1 + 1) AS t (x)` -/
def Sql.Statement.selectOpposite : Statement :=
  .query (.selecting [.unary .minus (.column ⟨"x", none⟩)] [.next])

theorem Catalog.isTyped_empty : Catalog.empty.IsTyped :=
  fun _ _ h => by cases h

/-- The sum has a type, and so has its opposite, which is all that is described. -/
theorem analyze_types_selectOpposite :
    typedStatement .empty .selectOpposite (.initial (.inferred [] 65535))
      ∧ analyze .empty (ParamTypes.inferred [] 65535) .selectOpposite
        = (.ok ⟨["-x"], [.int]⟩, .inferred [.int] 65535)
      ∧ ∀ t ∈ [SqlType.int], t.isResolved = true := by
  have hsum : typedTableRef .empty .next ⟨[.empty], .inferred [] 65535, 0⟩ :=
    ⟨trivial, .of_run rfl (.of_run rfl (.of_run rfl (.of_run rfl
      ⟨.of_run rfl (.of_run rfl fun _ => Or.inr (by decide)), .of_run rfl trivial⟩)))⟩
  have htyped : typedStatement .empty .selectOpposite (.initial (.inferred [] 65535)) :=
    ⟨⟨hsum, .of_run rfl trivial⟩, .of_run rfl (.of_run rfl (.of_run rfl (.of_run rfl
      ⟨fun _ => trivial, .of_run rfl trivial⟩)))⟩
  have hrun : analyze .empty (ParamTypes.inferred [] 65535) .selectOpposite
      = (.ok ⟨["-x"], [.int]⟩, .inferred [.int] 65535) := rfl
  exact ⟨htyped, hrun, (analyze_types Catalog.isTyped_empty hrun).2 htyped⟩

/-- `SELECT NULL + NULL` -/
def Sql.Statement.selectNullSum : Statement :=
  .query (.selecting [.binary .plus (.literal .null) (.literal .null)] [])

/-- Over a catalog without tables, a sum of nulls is described as `unknown`, and so is a parameter
in front of the cast that decides its type. -/
theorem analyze_types_unknown :
    analyze .empty ParamTypes.absent .selectNullSum
        = (.ok ⟨["NULL + NULL"], [.unknown]⟩, .absent)
      ∧ analyze .empty (ParamTypes.inferred [] 65535)
          (.selectThenCast .first (.integer .int none false) [])
        = (.ok ⟨["$1", "$1"], [.unknown, .int]⟩, .inferred [.int] 65535)
      ∧ ¬∀ (catalog : Catalog) (p p' : ParamTypes) (S : Statement) (d : Description),
        catalog.IsTyped → analyze catalog p S = (.ok d, p') → ∀ t ∈ d.types, t.isResolved = true := by
  refine ⟨rfl, rfl, fun hclaim => ?_⟩
  have hresolved := hclaim .empty .absent .absent .selectNullSum _ Catalog.isTyped_empty rfl .unknown
    List.mem_cons_self
  cases hresolved

end Prepared
