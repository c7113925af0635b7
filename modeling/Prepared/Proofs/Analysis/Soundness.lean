import Prepared.Proofs.Analysis.Simulation

/-!
# Found types are right

A statement that is analyzed successfully while types are found is analyzed successfully with these
types given beforehand (`analyze_declared_of_inferred`), as long as no undecided type is taken over
on the way (`confinedStatement`). Each of the four ways to take one over leads to a statement of
which this does not hold (`foundWrongly_takenOver`).
-/

namespace Prepared

open Sql BindM

/-! ## Expressions, queries and tables -/

section

variable (final : List SqlType) (limit : Nat) (catalog : Catalog)

-- On the syntax, all its kinds at once. Each part is compared in the state that its guard speaks
-- about, which is the one that the parts before it leave in the first analysis.
mutual

/-- **An expression in both analyses.** The guard of a form is taken apart in the order in which its
parts are bound, so that each part is compared in the state in which it is bound. -/
theorem bindExpr_sim (s : BindState) : (e : Expr) → confinedExpr catalog e s →
    Sim final limit s (bindExpr catalog e) (bindExpr catalog e) (·.decidedBy final)
  | .column name, _ => by
    unfold bindExpr
    exact Sim.bindColumnRef _
  | .qualified parts, _ => by
    unfold bindExpr
    exact Sim.bindColumnRef _
  | .literal value, _ => by
    unfold bindExpr
    exact Sim.bindLiteral _
  | .typed type text, _ => by
    unfold bindExpr
    refine (Sim.ofType _).bind fun target s₁ _ => ?_
    exact (Sim.ofType _).bind fun value s₂ _ => Sim.pure rfl
  | .cast operand type, h => by
    unfold confinedExpr at h
    unfold bindExpr
    cases ht : SqlType.ofDataType type with
    | error e => exact Sim.throw _
    | ok target =>
      show Sim final limit s (do bindCast _ target (← bindExpr catalog operand))
        (do bindCast _ target (← bindExpr catalog operand)) _
      refine (bindExpr_sim s operand h).bind fun e s₁ _ => ?_
      exact Sim.bindCast _ (SqlType.isResolved_of_ofDataType ht) e
  | .nested operand, h => by
    unfold confinedExpr at h
    unfold bindExpr
    exact bindExpr_sim s operand h
  | .binary op left right, h => by
    unfold confinedExpr at h
    unfold bindExpr
    refine (bindExpr_sim s left h.1).bind fun l s₁ hl => ?_
    have h₁ := h.2 l s₁ hl
    refine (bindExpr_sim s₁ right h₁.1).bind fun r s₂ hr => ?_
    exact Sim.bindBinary _ op (h₁.2 r s₂ hr)
  | .unary op operand, h => by
    unfold confinedExpr at h
    unfold bindExpr
    refine (bindExpr_sim s operand h.1).bind fun e s₁ he => ?_
    exact Sim.bindUnary _ op (h.2 e s₁ he)
  | .isNull operand negated, h => by
    unfold confinedExpr at h
    unfold bindExpr
    exact (bindExpr_sim s operand h).bind fun _ _ _ => Sim.pure rfl
  | .inList operand items negated, h => by
    unfold confinedExpr at h
    unfold bindExpr
    refine (bindExpr_sim s operand h.1).bind fun e s₁ he => ?_
    refine (bindExprs_sim s₁ items (h.2 e s₁ he)).bind fun es s₂ _ => ?_
    exact Sim.bindComparison _ (e :: es)
  | .inQuery operand query negated, h => by
    unfold confinedExpr at h
    unfold bindExpr
    refine (bindExpr_sim s operand h.1).bind fun e s₁ he => ?_
    refine (bindQuery_sim s₁ none query (h.2 e s₁ he)).bind fun q s₂ _ => ?_
    refine (Sim.singleColumn q).bind fun column s₃ _ => ?_
    exact Sim.bindComparison _ [e, column]
  | .between operand low high negated, h => by
    unfold confinedExpr at h
    unfold bindExpr
    refine (bindExpr_sim s operand h.1).bind fun e s₁ he => ?_
    have h₁ := h.2 e s₁ he
    refine (bindExpr_sim s₁ low h₁.1).bind fun l s₂ hl => ?_
    refine (bindExpr_sim s₂ high (h₁.2 l s₂ hl)).bind fun u s₃ _ => ?_
    exact Sim.bindComparison _ [e, l, u]
  | .like kind operand pattern escape negated, h => by
    unfold confinedExpr at h
    unfold bindExpr
    refine (bindExpr_sim s operand h.1).bind fun e s₁ he => ?_
    refine (Sim.coerce e _).bind fun e' s₂ he' => ?_
    refine (bindExpr_sim s₂ pattern (h.2 e s₁ he e' s₂ he')).bind fun f s₃ _ => ?_
    exact (Sim.coerce f _).bind fun _ _ _ => Sim.pure rfl
  | .case none conditions results otherwise, h => by
    unfold confinedExpr at h
    unfold bindExpr
    refine (bindConditions_sim s conditions h.1).bind fun _ s₁ hu => ?_
    have h₁ := h.2 _ s₁ hu
    refine (bindExprs_sim s₁ results h₁.1).bind fun branches s₂ hbranches => ?_
    refine (bindOption_sim s₂ otherwise (h₁.2 branches s₂ hbranches)).bind fun last s₃ _ => ?_
    rw [← Sim.append_toList_decidedBy]
    exact Sim.bindBranches _ _
  | .case (some operand) conditions results otherwise, h => by
    unfold confinedExpr at h
    unfold bindExpr
    refine (bindExpr_sim s operand h.1).bind fun e s₁ he => ?_
    have h₁ := h.2 e s₁ he
    refine (bindExprs_sim s₁ conditions h₁.1).bind fun es s₂ hes => ?_
    refine (Sim.unifyText (e :: es)).bind fun u s₃ hu => ?_
    have h₃ := h₁.2 es s₂ hes u s₃ hu
    refine (bindExprs_sim s₃ results h₃.1).bind fun branches s₄ hbranches => ?_
    refine (bindOption_sim s₄ otherwise (h₃.2 branches s₄ hbranches)).bind fun last s₅ _ => ?_
    rw [← Sim.append_toList_decidedBy]
    exact Sim.bindBranches _ _
  | .exists query negated, h => by
    unfold confinedExpr at h
    unfold bindExpr
    exact (bindQuery_sim s none query h).bind fun _ _ _ => Sim.pure rfl
  | .subquery query, h => by
    unfold confinedExpr at h
    unfold bindExpr
    refine (bindQuery_sim s none query h.1).bind fun q s₁ hq => ?_
    refine (Sim.singleColumn q).bind fun column s₂ hcolumn => ?_
    -- the value takes over the type of the column, which is decided
    have hdecided : column.isUndecided = false :=
      h.2 q s₁ hq column (Sim.mem_of_singleColumn hcolumn)
    rw [BoundExpr.decidedBy_of_not_isUndecided hdecided]
    exact Sim.pure rfl
  | .arrayOf query, _ => by
    unfold bindExpr
    exact Sim.throw _
  | .form form operands, _ => by
    unfold bindExpr
    exact Sim.throw _

/-- Each expression of a list is compared in the state that the ones before it leave. -/
theorem bindExprs_sim (s : BindState) : (es : List Expr) → confinedExprs catalog es s →
    Sim final limit s (bindExprs catalog es) (bindExprs catalog es) (List.map (·.decidedBy final))
  | [], _ => by
    unfold bindExprs
    exact Sim.pure rfl
  | e :: es, h => by
    unfold confinedExprs at h
    unfold bindExprs
    refine (bindExpr_sim s e h.1).bind fun b s₁ hb => ?_
    exact (bindExprs_sim s₁ es (h.2 b s₁ hb)).bind fun bs s₂ _ => Sim.pure rfl

theorem bindOption_sim (s : BindState) : (e : Option Expr) → confinedOption catalog e s →
    Sim final limit s (bindOption catalog e) (bindOption catalog e)
      (Option.map (·.decidedBy final))
  | none, _ => by
    unfold bindOption
    exact Sim.pure rfl
  | some e, h => by
    unfold confinedOption at h
    unfold bindOption
    rw [← bind_pure_comp]
    exact (bindExpr_sim s e h).bind fun b s₁ _ => Sim.pure rfl

/-- A condition is brought to a boolean, so it cannot hand an undecided type on. -/
theorem bindConditions_sim (s : BindState) : (es : List Expr) →
    confinedConditions catalog es s →
    Sim final limit s (bindConditions catalog es) (bindConditions catalog es) id
  | [], _ => by
    unfold bindConditions
    exact Sim.pure rfl
  | e :: es, h => by
    unfold confinedConditions at h
    unfold bindConditions
    refine (bindExpr_sim s e h.1).bind fun b s₁ hb => ?_
    refine (Sim.coerce b _).bind fun b' s₂ hb' => ?_
    exact bindConditions_sim s₂ es (h.2 b s₁ hb b' s₂ hb')

theorem bindCondition_sim (s : BindState) : (e : Option Expr) → confinedOption catalog e s →
    Sim final limit s (bindCondition catalog e) (bindCondition catalog e) id
  | none, _ => by
    unfold bindCondition
    exact Sim.pure rfl
  | some e, h => by
    unfold confinedOption at h
    unfold bindCondition
    refine (bindExpr_sim s e h).bind fun b s₁ _ => ?_
    exact (Sim.coerce b _).bind fun _ _ _ => Sim.pure rfl

theorem bindCount_sim (s : BindState) : (e : Option Expr) → confinedOption catalog e s →
    Sim final limit s (bindCount catalog e) (bindCount catalog e) id
  | none, _ => by
    unfold bindCount
    exact Sim.pure rfl
  | some e, h => by
    unfold confinedOption at h
    unfold bindCount
    refine (bindExpr_sim s e h).bind fun b s₁ _ => ?_
    exact (Sim.coerce b _).bind fun _ _ _ => Sim.pure rfl

theorem bindRows_sim (s : BindState) (width : Nat) : (rows : List (List Expr)) →
    confinedRows catalog rows s →
    Sim final limit s (bindRows catalog width rows) (bindRows catalog width rows)
      (List.map (List.map (·.decidedBy final)))
  | [], _ => by
    unfold bindRows
    exact Sim.pure rfl
  | row :: rows, h => by
    unfold confinedRows at h
    unfold bindRows
    split
    · exact Sim.throw _
    · refine (bindExprs_sim s row h.1).bind fun es s₁ hes => ?_
      exact (bindRows_sim s₁ width rows (h.2 es s₁ hes)).bind fun bound s₂ _ => Sim.pure rfl

/-- **A query in both analyses.** -/
theorem bindQuery_sim (s : BindState) (expected : Option (List SqlType)) : (q : Query) →
    confinedQuery catalog expected q s →
    Sim final limit s (bindQuery catalog expected q) (bindQuery catalog expected q)
      (·.decidedBy final)
  | .mk recursive ctes body orderBy limit' offset offsetWord fetch lock, h => by
    unfold confinedQuery at h
    unfold bindQuery
    split
    · exact Sim.throw _
    · refine Sim.withScope ?_
      refine (bindBody_sim _ false expected body h.1).bind fun output s₁ houtput => ?_
      have h₁ := h.2 output s₁ houtput
      refine (bindOrder_sim s₁ output.names orderBy h₁.1).bind fun _ s₂ hu => ?_
      have h₂ := h₁.2 _ s₂ hu
      refine (bindCount_sim s₂ limit' h₂.1).bind fun _ s₃ hu => ?_
      exact (bindCount_sim s₃ offset (h₂.2 _ s₃ hu)).bind fun _ _ _ => Sim.pure rfl

/-- The guard of a body follows the order in which its clauses are bound. -/
theorem bindBody_sim (s : BindState) (combined : Bool) (expected : Option (List SqlType)) :
    (b : Body) → confinedBody catalog combined expected b s →
    Sim final limit s (bindBody catalog combined expected b)
      (bindBody catalog combined expected b) (·.decidedBy final)
  | .select distinct items tables condition groupBy having extras, h => by
    -- the query level of a combined `SELECT` is its own, so this is shown in any state
    have hselect (s : BindState)
        (h : ((confinedTables catalog tables).andThen (bindTables catalog tables) fun _ =>
          (confinedOption catalog condition).andThen (bindCondition catalog condition) fun _ =>
            (confinedExprs catalog groupBy).andThen (bindExprs catalog groupBy) fun _ =>
              (confinedOption catalog having).andThen (bindCondition catalog having) fun _ =>
                confinedItems catalog items) s) :
        let select : BindM BoundQuery := do
          bindTables catalog tables
          bindCondition catalog condition
          let _ ← bindExprs catalog groupBy
          bindCondition catalog having
          let output ← bindItems catalog items
          return ⟨output.names, ← fitOutput expected output.columns⟩
        Sim final limit s select select (·.decidedBy final) := by
      refine (bindTables_sim s tables h.1).bind fun _ s₁ hu => ?_
      have h₁ := h.2 _ s₁ hu
      refine (bindCondition_sim s₁ condition h₁.1).bind fun _ s₂ hu => ?_
      have h₂ := h₁.2 _ s₂ hu
      refine (bindExprs_sim s₂ groupBy h₂.1).bind fun _ s₃ hu => ?_
      have h₃ := h₂.2 _ s₃ hu
      refine (bindCondition_sim s₃ having h₃.1).bind fun _ s₄ hu => ?_
      refine (bindItems_sim s₄ items (h₃.2 _ s₄ hu)).bind fun output s₅ _ => ?_
      exact (Sim.fitOutput expected output.columns).bind fun _ _ _ => Sim.pure rfl
    unfold confinedBody at h
    unfold bindBody
    cases combined with
    | false => exact hselect s h
    | true => exact Sim.withScope (hselect _ h)
  | .query query, h => by
    unfold confinedBody at h
    unfold bindBody
    exact bindQuery_sim s expected query h
  | .operation op quantifier left right, h => by
    unfold confinedBody at h
    unfold bindBody
    refine (bindBody_sim s true expected left h.1).bind fun l s₁ hl => ?_
    refine (bindBody_sim s₁ true expected right (h.2 l s₁ hl)).bind fun r s₂ _ => ?_
    exact Sim.combineQueries l r
  | .values rowWord rows, h => by
    unfold confinedBody at h
    unfold bindBody
    refine (Sim.checkWidth _ _).bind fun _ s₁ hs₁ => ?_
    obtain rfl := Sim.state_of_checkWidth hs₁
    refine (bindRows_sim s _ rows h).bind fun bound s₂ _ => ?_
    rw [Sim.columnsOf_decidedBy]
    exact (Sim.unifyColumns _ expected).bind fun columns s₃ _ => Sim.pure rfl
  | .other text outline, _ => by
    unfold bindBody
    exact Sim.throw _

/-- An item may be undecided in the first analysis. In the second its column has the final type. -/
theorem bindItems_sim (s : BindState) : (items : List SelectItem) →
    confinedItems catalog items s →
    Sim final limit s (bindItems catalog items) (bindItems catalog items) (·.decidedBy final)
  | [], _ => by
    unfold bindItems
    exact Sim.pure rfl
  | .unnamed value :: items, h => by
    unfold confinedItems at h
    unfold bindItems
    refine (bindExpr_sim s value h.1).bind fun e s₁ he => ?_
    refine (bindItems_sim s₁ items (h.2 e s₁ he)).bind fun q s₂ _ => Sim.pure ?_
    rw [← Sim.append_decidedBy, ← Sim.underOwnNames_decidedBy]
    rfl
  | .named value name :: items, h => by
    unfold confinedItems at h
    unfold bindItems
    refine (bindExpr_sim s value h.1).bind fun e s₁ he => ?_
    exact (bindItems_sim s₁ items (h.2 e s₁ he)).bind fun q s₂ _ => Sim.pure rfl
  | .wildcard :: items, h => by
    unfold confinedItems at h
    unfold bindItems
    refine (Sim.bindStar none).bind fun columns s₁ hcolumns => ?_
    refine (bindItems_sim s₁ items (h columns s₁ hcolumns)).bind fun q s₂ _ => Sim.pure ?_
    rw [← Sim.append_decidedBy, ← Sim.underOwnNames_decidedBy]
  | .qualifiedWildcard table :: items, h => by
    unfold confinedItems at h
    unfold bindItems
    refine (Sim.bindStar (some table)).bind fun columns s₁ hcolumns => ?_
    refine (bindItems_sim s₁ items (h columns s₁ hcolumns)).bind fun q s₂ _ => Sim.pure ?_
    rw [← Sim.append_decidedBy, ← Sim.underOwnNames_decidedBy]

/-- The names are the same in both, so the same items are passed over. -/
theorem bindOrder_sim (s : BindState) (names : List String) : (items : List OrderItem) →
    confinedOrder catalog names items s →
    Sim final limit s (bindOrder catalog names items) (bindOrder catalog names items) id
  | [], _ => by
    unfold bindOrder
    exact Sim.pure rfl
  | .mk value direction :: items, h => by
    unfold confinedOrder at h
    unfold bindOrder
    by_cases hreference : isOutputReference names value = true
    · simp only [hreference, if_true, Bool.not_true, Bool.false_eq_true, if_false] at h ⊢
      exact bindOrder_sim s names items h
    · simp only [hreference, Bool.false_eq_true, if_false, Bool.not_false, if_true] at h ⊢
      refine (bindExpr_sim s value h.1).bind fun e s₁ he => ?_
      exact bindOrder_sim s₁ names items (h.2 e s₁ he)

/-- A subquery in a `FROM` hands the types of its columns on, so the guard asks that they are
decided. -/
theorem bindTableRef_sim (s : BindState) : (t : TableRef) → confinedTableRef catalog t s →
    Sim final limit s (bindTableRef catalog t) (bindTableRef catalog t) id
  | .table name hasArgs args label hints, _ => by
    unfold bindTableRef
    exact Sim.bindTable catalog name label
  | .derived lateral query none, _ => by
    unfold bindTableRef
    exact Sim.throw _
  | .derived lateral query (some label), h => by
    unfold confinedTableRef at h
    unfold bindTableRef
    refine (bindQuery_sim s none query h.1).bind fun q s₁ hq => ?_
    exact Sim.bindDerived (h.2 q s₁ hq) label
  | .function value label, _ => by
    unfold bindTableRef
    exact Sim.throw _
  | .nested tables label, _ => by
    unfold bindTableRef
    exact Sim.throw _
  | .join left kind right rule condition, h => by
    unfold confinedTableRef at h
    unfold bindTableRef
    refine (bindTableRef_sim s left h.1).bind fun _ s₁ hu => ?_
    have h₁ := h.2 _ s₁ hu
    refine (bindTableRef_sim s₁ right h₁.1).bind fun _ s₂ hu => ?_
    split
    · exact bindCondition_sim s₂ condition (h₁.2 _ s₂ hu)
    · exact Sim.throw _

theorem bindTables_sim (s : BindState) : (ts : List TableRef) → confinedTables catalog ts s →
    Sim final limit s (bindTables catalog ts) (bindTables catalog ts) id
  | [], _ => by
    unfold bindTables
    exact Sim.pure rfl
  | t :: ts, h => by
    unfold confinedTables at h
    unfold bindTables
    refine (bindTableRef_sim s t h.1).bind fun _ s₁ hu => ?_
    exact bindTables_sim s₁ ts (h.2 _ s₁ hu)

end

/-! ## Statements -/

/-- The guard of an `INSERT` speaks about the table and the types that it has in the catalog. -/
theorem bindInsert_sim (s : BindState) (i : Insert) (h : confinedStatement catalog (.insert i) s) :
    Sim final limit s (bindInsert catalog i) (bindInsert catalog i) id := by
  unfold bindInsert
  refine (Sim.ofResult _).bind fun name s₁ hrun₁ => ?_
  refine (Sim.ofCatalog _).bind fun table s₂ hrun₂ => ?_
  refine (Sim.ofResult _).bind fun types s₃ hrun₃ => ?_
  -- none of the three lookups changes the state, so the source is bound in the first one
  obtain ⟨hname, rfl⟩ := ok_of_ofResult hrun₁
  obtain ⟨htable, rfl⟩ := ok_of_ofCatalog hrun₂
  obtain ⟨htypes, rfl⟩ := ok_of_ofResult hrun₃
  have hsource : confinedQuery catalog (some types) i.source s :=
    h name table types hname htable htypes
  exact (bindQuery_sim final limit catalog s (some types) i.source hsource).bind
    fun _ _ _ => Sim.pure rfl

theorem bindAssignments_sim (s : BindState) (table : Table) (name : String)
    (as : List Assignment) (h : confinedAssignments catalog table as s) :
    Sim final limit s (bindAssignments catalog table name as)
      (bindAssignments catalog table name as) id := by
  induction as generalizing s with
  | nil => exact Sim.pure rfl
  | cons a as ih =>
    unfold bindAssignments
    split
    · exact Sim.throw _
    · rename_i target htarget
      split
      · exact Sim.throw _
      · rename_i column hcolumn
        refine (bindExpr_sim final limit catalog s a.value h.1).bind fun e s₁ he => ?_
        refine (Sim.coerce e _).bind fun e' s₂ he' => ?_
        exact ih s₂ (h.2 e s₁ he target column htarget hcolumn e' s₂ he')

theorem bindSource_sim (s : BindState) (source : Option TableRef)
    (h : confinedSource catalog source s) :
    Sim final limit s (bindSource catalog source) (bindSource catalog source) id := by
  cases source with
  | none => exact Sim.pure rfl
  | some t => exact bindTableRef_sim final limit catalog s t h

/-- The guard is entered with the state that each clause is bound in. -/
theorem bindUpdate_sim (s : BindState) (table : TableRef) (assignments : List Assignment)
    (source : Option TableRef) (condition : Option Expr) (returning : List SelectItem)
    (h : confinedStatement catalog (.update table assignments source condition returning) s) :
    Sim final limit s (bindUpdate catalog table assignments source condition)
      (bindUpdate catalog table assignments source condition) id := by
  unfold bindUpdate
  refine Sim.withScope ((Sim.ofResult _).bind fun name s₁ hrun₁ => ?_)
  obtain ⟨hname, rfl⟩ := ok_of_ofResult hrun₁
  refine (bindTableRef_sim final limit catalog _ table h.1).bind fun _ s₂ hu => ?_
  have h₂ := h.2 _ s₂ hu
  refine (bindSource_sim final limit catalog s₂ source h₂.1).bind fun _ s₃ hu => ?_
  have h₃ := h₂.2 _ s₃ hu
  refine (bindCondition_sim final limit catalog s₃ condition h₃.1).bind fun _ s₄ hu => ?_
  refine (Sim.ofCatalog _).bind fun target s₅ hrun₅ => ?_
  obtain ⟨htarget, rfl⟩ := ok_of_ofCatalog hrun₅
  have hassignments : confinedAssignments catalog target assignments s₄ :=
    h₃.2 _ s₄ hu name target hname htarget
  exact bindAssignments_sim final limit catalog s₄ target name assignments hassignments

theorem bindDelete_sim (s : BindState) (table : TableRef) (source : Option TableRef)
    (condition : Option Expr) (returning : List SelectItem)
    (h : confinedStatement catalog (.delete table source condition returning) s) :
    Sim final limit s (bindDelete catalog table condition) (bindDelete catalog table condition)
      id := by
  unfold bindDelete
  refine Sim.withScope ((bindTableRef_sim final limit catalog _ table h.1).bind fun _ s₁ hu => ?_)
  exact bindCondition_sim final limit catalog s₁ condition (h.2 _ s₁ hu)

/-- **A statement in both analyses.** Its columns may get types in the second that they do not have
in the first, but the names are the same. -/
theorem bindStatement_sim (s : BindState) (S : Statement) (h : confinedStatement catalog S s) :
    Sim final limit s (bindStatement catalog S) (Description.names <$> bindStatement catalog S)
      Description.names := by
  rw [← bind_pure_comp]
  unfold bindStatement
  split
  · rw [bind_assoc]
    exact (bindQuery_sim final limit catalog s none _ h).bind fun q s₁ _ => Sim.pure rfl
  · rw [bind_assoc]
    exact (bindInsert_sim final limit catalog s _ h).bind fun _ _ _ => Sim.pure rfl
  · rw [bind_assoc]
    exact (bindUpdate_sim final limit catalog s _ _ _ _ _ h).bind fun _ _ _ => Sim.pure rfl
  · rw [bind_assoc]
    exact (bindDelete_sim final limit catalog s _ _ _ _ h).bind fun _ _ _ => Sim.pure rfl
  · exact Sim.throw _

/-- **Found types are right.** If a statement is analyzed successfully while types are found, and
no undecided type is taken over, then it is analyzed successfully with these types given
beforehand, and its columns have the same names. -/
theorem analyze_declared_of_inferred {S : Statement} {declared types : List SqlType} {limit : Nat}
    {d : Description}
    (hconfined : confinedStatement catalog S (.initial (.inferred declared limit)))
    (h : analyze catalog (ParamTypes.inferred declared limit) S
      = (.ok d, .inferred types limit)) :
    ∃ d', analyze catalog (ParamTypes.declared types) S = (.ok d', .declared types)
      ∧ d'.names = d.names := by
  obtain ⟨s₁, hbind, hparams, hcheck⟩ := analyze_eq_ok.1 h
  obtain ⟨types', htypes', -, hsame⟩ :=
    bindStatement_sim types limit catalog _ S hconfined declared rfl
  rw [hbind] at htypes' hsame
  obtain rfl : types' = types := ParamTypes.types_unique htypes' hparams
  -- the first analysis ends with the final types, so it leads to them
  -- the second analysis starts with the types fixed, as `bindStatement_sim` asks
  have hnames : (Description.names <$> bindStatement catalog S)
      (.initial (ParamTypes.declared types')) = (.ok d.names, s₁.fixed types') :=
    hsame (.refl types') d rfl
  rw [← bind_pure_comp] at hnames
  obtain ⟨d', s₂, hbind', hnames⟩ := Walk.run_bind_ok hnames
  obtain ⟨hname, rfl⟩ := Prod.ext_iff.1 hnames
  refine ⟨d', analyze_eq_ok.2 ⟨s₁.fixed types', hbind', rfl, ?_⟩, Except.ok.inj hname⟩
  exact hcheck

end

/-! ## Undecided types that are taken over -/

/-- `SELECT items FROM tables`. -/
def Sql.Query.selecting (items : List Expr) (tables : List TableRef) : Query :=
  .mk false [] (.select false (items.map .unnamed) tables none [] none
    (.mk none none [] [] [] [] none)) [] none none .none none none

/-- The first parameter. -/
def Sql.Expr.first : Expr :=
  .literal (.placeholder "$1")

/-- `SELECT $1, $1 + 1`: the first reference is undecided until the second is added to a number. -/
def Sql.Statement.selectNext : Statement :=
  .query (.selecting [.first, .binary .plus .first (.literal (.number "1" false))] [])

/-- The statement hands no undecided type on: its sum has a number on one side. -/
theorem confinedStatement_selectNext :
    confinedStatement .empty .selectNext (.initial (.inferred [] 65535)) := by
  -- the sum has a type, so it need not take one over from its undecided operand
  have hsum : confinedExpr .empty (.binary .plus .first (.literal (.number "1" false)))
      ⟨[.empty], .inferred [.unknown] 65535, 0⟩ := by
    refine ⟨trivial, .of_run rfl ⟨trivial, .of_run rfl fun _ hnone => ?_⟩⟩
    cases hnone
  have hitems : confinedItems .empty
      [.unnamed .first, .unnamed (.binary .plus .first (.literal (.number "1" false)))]
      ⟨[.empty], .inferred [] 65535, 0⟩ :=
    ⟨trivial, .of_run rfl ⟨hsum, .of_run rfl trivial⟩⟩
  have hbody : confinedBody .empty false none (.select false
      [.unnamed .first, .unnamed (.binary .plus .first (.literal (.number "1" false)))] [] none []
      none (.mk none none [] [] [] [] none)) ⟨[.empty], .inferred [] 65535, 0⟩ :=
    ⟨trivial, .of_run rfl ⟨trivial, .of_run rfl ⟨trivial, .of_run rfl ⟨trivial, .of_run rfl hitems⟩⟩⟩⟩
  exact ⟨hbody, .of_run rfl ⟨trivial, .of_run rfl ⟨trivial, .of_run rfl trivial⟩⟩⟩

/-- The parameter of `SELECT $1, $1 + 1` is found to be an integer, and the statement can be analyzed
with an integer as its parameter. -/
theorem analyze_declared_selectNext :
    analyze .empty (ParamTypes.inferred [] 65535) .selectNext
        = (.ok ⟨["$1", "$1 + 1"], [.unknown, .integer ⟨true, .w32⟩]⟩,
          .inferred [.integer ⟨true, .w32⟩] 65535)
      ∧ ∃ d', analyze .empty (ParamTypes.declared [.integer ⟨true, .w32⟩]) .selectNext
          = (.ok d', .declared [.integer ⟨true, .w32⟩]) ∧ d'.names = ["$1", "$1 + 1"] := by
  have hrun : analyze .empty (ParamTypes.inferred [] 65535) .selectNext
      = (.ok ⟨["$1", "$1 + 1"], [.unknown, .integer ⟨true, .w32⟩]⟩,
        .inferred [.integer ⟨true, .w32⟩] 65535) := rfl
  exact ⟨hrun, analyze_declared_of_inferred .empty confinedStatement_selectNext hrun⟩

/-- The statement is analyzed successfully while types are found, but not with the types that are
found. -/
def FoundWrongly (S : Statement) (types : List SqlType) : Prop :=
  (∃ d, analyze .empty (ParamTypes.inferred [] 65535) S = (.ok d, .inferred types 65535))
    ∧ ∃ e, analyze .empty (ParamTypes.declared types) S = (.error e, .declared types)

/-- `SELECT e, $1::type FROM tables` -/
def Sql.Statement.selectThenCast (e : Expr) (type : DataType) (tables : List TableRef) : Statement :=
  .query (.selecting [e, .cast .first type] tables)

/-- `(SELECT $1) AS t (x)` -/
def Sql.TableRef.first : TableRef :=
  .derived false (.selecting [.first] []) (some ⟨⟨"t", none⟩, [⟨"x", none⟩]⟩)

/-- The type of an undecided parameter is taken over by a sign, by an arithmetic operation, by a
query in the place of a value and by one in the place of a table. Each time the parameter is found
to be a text, with which the statement cannot be analyzed. A number does not help either, if what
has no type is compared with a text. -/
theorem foundWrongly_takenOver :
    FoundWrongly (.selectThenCast (.unary .minus .first) .text []) [.varchar]
      ∧ FoundWrongly (.selectThenCast (.binary .plus .first .first) .text []) [.varchar]
      ∧ FoundWrongly (.selectThenCast (.unary .minus (.subquery (.selecting [.first] []))) .text [])
          [.varchar]
      ∧ FoundWrongly (.selectThenCast (.unary .minus (.column ⟨"x", none⟩)) .text [.first])
          [.varchar]
      ∧ FoundWrongly (.selectThenCast (.binary .eq (.unary .minus .first)
            (.literal (.singleQuoted "a"))) (.integer .int none false) [])
          [.integer ⟨true, .w32⟩] :=
  ⟨⟨⟨_, rfl⟩, ⟨_, rfl⟩⟩, ⟨⟨_, rfl⟩, ⟨_, rfl⟩⟩, ⟨⟨_, rfl⟩, ⟨_, rfl⟩⟩, ⟨⟨_, rfl⟩, ⟨_, rfl⟩⟩,
    ⟨⟨_, rfl⟩, ⟨_, rfl⟩⟩⟩

end Prepared
