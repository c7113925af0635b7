import Prepared.Proofs.Analysis.Agreement

/-!
# Steps that have nothing to do with tables

Bringing expressions to types, and the rules for single forms, ask a hook and do the rest on their
own. They give the same whatever tables are in sight, and leave the tables as they are
(`Walk.Aside`).
-/

namespace Prepared

open Sql BindM

variable {σ : Type} {α β : Type}

/-- A step that neither looks at the open query levels nor changes them. -/
def Walk.Aside (x : Walk σ α) : Prop :=
  ∀ s, x s = ((x ⟨[], s.params, s.tables⟩).1,
    { (x ⟨[], s.params, s.tables⟩).2 with scopes := s.scopes })

namespace Walk.Aside

/-! ## Single steps, and one after the other -/

/-- Returning looks at nothing. -/
theorem pure (a : α) : Aside (pure a : Walk σ α) :=
  fun _ => rfl

theorem throw (e : BindError) : Aside (throw e : Walk σ α) :=
  fun _ => rfl

/-- What only depends on values and types is decided before any state is seen. -/
theorem ofType (r : Except TypeError α) : Aside (ofType r : Walk σ α) :=
  fun _ => rfl

/-- The count of tables is not one of the query levels. -/
theorem newTable : Aside (newTable : Walk σ Nat) :=
  fun _ => rfl

/-- Two such steps in a row. Run without query levels the first leaves none, by its own promise, so the
second can be run without them from there. -/
theorem bind {x : Walk σ α} {f : α → Walk σ β} (hx : Aside x) (hf : ∀ a, Aside (f a)) :
    Aside (x >>= f) := by
  intro s
  -- what `x` promises of the state without levels is that it stays without
  have hempty : (x ⟨[], s.params, s.tables⟩).2.scopes = [] :=
    congrArg (fun r => r.2.scopes) (hx ⟨[], s.params, s.tables⟩)
  rw [Walk.run_bind, Walk.run_bind, hx s]
  generalize x ⟨[], s.params, s.tables⟩ = result at hempty ⊢
  obtain ⟨e | a, scopes, params, tables⟩ := result
  · rfl
  · dsimp only at hempty ⊢
    subst hempty
    exact hf a ⟨s.scopes, params, tables⟩

section

variable [ParamHook σ]

/-- A hook only sees its own state, and so does a question to it. -/
theorem referParam (n : Nat) : Aside (referParam n : Walk σ SqlType) :=
  fun _ => rfl

theorem settleParam (n : Nat) (target : SqlType) : Aside (settleParam n target : Walk σ SqlType) :=
  fun _ => rfl

/-- The last check is the hook's as well. -/
theorem checkParams : Aside (checkParams : Walk σ Unit) :=
  fun _ => rfl

/-! ## Coercion -/

omit [ParamHook σ] in
theorem castImplicitly (e : BoundExpr) (target : SqlType) :
    Aside (e.castImplicitly target : Walk σ BoundExpr) := by
  unfold BoundExpr.castImplicitly
  split
  · exact pure _
  · exact throw _

/-- Coercion asks the hook, converts a literal or inserts a cast, and none of the three looks at a
table. -/
theorem coerce (e : BoundExpr) (target : SqlType) : Aside (e.coerce target : Walk σ BoundExpr) := by
  unfold BoundExpr.coerce
  split
  · exact pure _
  · split
    -- a parameter without a type: the hook decides
    · exact (settleParam _ _).bind fun _ => pure _
    · split
      · exact (ofType _).bind fun _ => pure _
      · exact castImplicitly _ _
    · exact castImplicitly _ _

theorem coerceUnknown (e : BoundExpr) (target : SqlType) :
    Aside (e.coerceUnknown target : Walk σ BoundExpr) := by
  unfold BoundExpr.coerceUnknown
  split
  · exact coerce _ _
  · exact pure _

/-- Towards one type, expression by expression. -/
theorem coerceAll (target : SqlType) (es : List BoundExpr) :
    Aside (BoundExpr.coerceAll target es : Walk σ (List BoundExpr)) := by
  induction es with
  | nil => exact pure _
  | cons e es ih => exact (coerce e target).bind fun _ => ih.bind fun _ => pure _

/-- Towards a type each, as far as both lists go. -/
theorem coerceEach (es : List BoundExpr) (ts : List SqlType) :
    Aside (BoundExpr.coerceEach es ts : Walk σ (List BoundExpr)) := by
  induction es generalizing ts with
  | nil => exact pure _
  | cons e es ih =>
    cases ts with
    | nil => exact pure _
    | cons t ts => exact (coerce e t).bind fun _ => (ih ts).bind fun _ => pure _

/-- The common type is found from the types of the expressions, and then they are coerced. -/
theorem unify (es : List BoundExpr) (default : Option SqlType) :
    Aside (BoundExpr.unify es default : Walk σ (List BoundExpr × SqlType)) := by
  refine (ofType _).bind fun common => ?_
  cases common with
  | none => exact pure _
  | some c => exact (coerceAll c es).bind fun _ => pure _

/-! ## Rules for single forms -/

/-- A literal stands for itself, and a placeholder is the hook's. -/
theorem bindLiteral (l : Literal) : Aside (bindLiteral l : Walk σ BoundExpr) := by
  unfold Prepared.bindLiteral
  split
  · split
    · exact (referParam _).bind fun _ => pure _
    · exact throw _
  · exact (ofType _).bind fun _ => pure _

/-- Four ways to cast: by coercion, not at all, by converting a literal, and when it is run. -/
theorem bindCast (name : String) (target : SqlType) (e : BoundExpr) :
    Aside (bindCast name target e : Walk σ BoundExpr) := by
  unfold Prepared.bindCast
  split
  · exact coerce _ _
  · split
    · exact pure _
    · split
      · exact (ofType _).bind fun _ => pure _
      · exact pure _

theorem bindComparison (name : String) (es : List BoundExpr) :
    Aside (bindComparison name es : Walk σ BoundExpr) :=
  (unify es _).bind fun _ => pure _

theorem bindBranches (name : String) (es : List BoundExpr) :
    Aside (bindBranches name es : Walk σ BoundExpr) :=
  (unify es _).bind fun _ => pure _

/-- A type that is not one of numbers is refused after unification. -/
theorem bindArithmetic (name : String) (op : BinaryOp) (l r : BoundExpr) :
    Aside (bindArithmetic name op l r : Walk σ BoundExpr) := by
  refine (unify [l, r] none).bind fun result => ?_
  dsimp only
  split
  · exact throw _
  · exact pure _

theorem bindConnective (name : String) (l r : BoundExpr) :
    Aside (bindConnective name l r : Walk σ BoundExpr) :=
  (coerce l _).bind fun _ => (coerce r _).bind fun _ => pure _

theorem bindConcat (name : String) (l r : BoundExpr) :
    Aside (bindConcat name l r : Walk σ BoundExpr) :=
  (coerceUnknown l _).bind fun _ => (coerceUnknown r _).bind fun _ => pure _

/-- The operators fall into comparisons, arithmetic, connectives, concatenation and those that are
refused. -/
theorem bindBinary (name : String) (op : BinaryOp) (l r : BoundExpr) :
    Aside (bindBinary name op l r : Walk σ BoundExpr) := by
  unfold Prepared.bindBinary
  split
  case h_1 | h_2 | h_3 | h_4 | h_5 | h_6 => exact bindComparison _ _
  case h_7 | h_8 | h_9 | h_10 | h_11 => exact bindArithmetic _ _ _ _
  case h_12 | h_13 => exact bindConnective _ _ _
  case h_14 => exact bindConcat _ _ _
  case h_15 | h_16 => exact throw _

/-- `NOT` wants a boolean; a sign takes the type that its operand has. -/
theorem bindUnary (name : String) (op : UnaryOp) (e : BoundExpr) :
    Aside (bindUnary name op e : Walk σ BoundExpr) := by
  have hsign : Aside (bindSign name op e : Walk σ BoundExpr) := by
    unfold bindSign
    split
    · exact throw _
    · exact pure _
  cases op with
  | not => exact (coerce e _).bind fun _ => pure _
  | plus => exact hsign
  | minus => exact hsign
  | _ => exact throw _

/-! ## Outputs -/

omit [ParamHook σ] in
/-- A subquery has been bound when its columns are counted. -/
theorem singleColumn (q : BoundQuery) : Aside (singleColumn q : Walk σ BoundExpr) := by
  unfold Prepared.singleColumn
  split
  · exact pure _
  · exact throw _

/-- The first of the unified expressions stands for all of them. -/
theorem firstUnified (es : List BoundExpr) :
    Aside (firstUnified es : Walk σ (List BoundExpr)) :=
  (unify es _).bind fun _ => pure _

/-- Set operations unify their columns in pairs. -/
theorem combineColumns (ls rs : List BoundExpr) :
    Aside (combineColumns ls rs : Walk σ (List BoundExpr)) := by
  induction ls generalizing rs with
  | nil => exact pure _
  | cons l ls ih =>
    cases rs with
    | nil => exact pure _
    | cons r rs => exact (firstUnified [l, r]).bind fun _ => (ih rs).bind fun _ => pure _

omit [ParamHook σ] in
theorem checkWidth (expected : Option (List SqlType)) (width : Nat) :
    Aside (checkWidth expected width : Walk σ Unit) := by
  unfold Prepared.checkWidth
  split
  · split
    · exact pure _
    · exact throw _
  · exact pure _

/-- The wanted types are given, and with them the width. -/
theorem fitOutput (expected : Option (List SqlType)) (columns : List BoundExpr) :
    Aside (fitOutput expected columns : Walk σ (List BoundExpr)) := by
  refine (checkWidth expected columns.length).bind fun _ => ?_
  cases expected with
  | none => exact pure _
  | some types => exact coerceEach columns types

end

end Walk.Aside

end Prepared
