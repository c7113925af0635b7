import Prepared.Proofs.Analysis.OutputTypes
import Prepared.Proofs.Value.Cast
import Prepared.Session.Constant

/-!
# Constants in a statement and as arguments

A constant is evaluated at two places: as an argument of a prepared statement by `evalConstant`,
which converts a value at every cast, and inside a statement by `bindExpr`, which drops casts to the
type that is there already and has errors and a state of its own. Both come to the same result
(`evalConstant_agrees`), as a cast to the type of a value gives the value back. Only constants are
bound to constants (`bindExpr_isConstant`), so what is found of an operand in a statement can be
read off its form.
-/

namespace Prepared

open Sql BindM Walk

namespace Sql

/-- Whether the literal stands for a parameter. -/
def Literal.isPlaceholder : Literal → Bool
  | placeholder _ => true
  | _ => false

namespace Expr

/-- A literal or a text behind the name of its type, in parentheses and under casts to any depth. -/
def isConstant : Expr → Bool
  | literal value => !value.isPlaceholder
  | typed _ _ => true
  | cast operand _ => operand.isConstant
  | nested operand => operand.isConstant
  | _ => false

/-- The type that a constant is written with: that of the outermost cast, that in front of a text,
or else that of the literal. -/
def writtenType? : Expr → Option SqlType
  | literal value => (Value.ofLiteral value).toOption.map Value.type
  | typed type _ => (SqlType.ofDataType type).toOption
  | cast _ type => (SqlType.ofDataType type).toOption
  | nested operand => operand.writtenType?
  | _ => none

end Expr

end Sql

theorem Value.type_of_parse {s : String} {t : SqlType} {v : Value} (h : parse s t = .ok v) :
    v.type = t := by
  rcases hd : Datum.parse s t with e | d
  · rw [parse, hd] at h
    cases h
  · rw [parse, hd] at h
    cases h
    exact Datum.type_of_parse hd

variable {σ : Type} [ParamHook σ]

/-! ## Both evaluations -/

/-- Both evaluations of an expression come to `r`, and the one inside a statement leaves the state
as it is. A value is of the type that the expression is written with. -/
structure Evaluates (catalog : Catalog) (e : Expr) (r : Except TypeError Value) (s : WalkState σ) :
    Prop where
  argument : evalConstant e = r.mapError .type
  bound : ∃ name, bindExpr catalog e s = ((r.map (BoundExpr.constant name)).mapError .type, s)
  written : ∀ v, r = .ok v → e.writtenType? = some v.type

theorem BoundExpr.constant_type_ne_unknown (name : String) (v : Value) :
    (constant name v).type ≠ .unknown := by
  intro h
  have hresolved : v.type.isResolved = true := v.type_isResolved
  rw [show v.type = .unknown from h] at hresolved
  cases hresolved

omit [ParamHook σ] in
/-- A constant is bound without a look at the state. -/
theorem run_constant (name : String) (r : Except TypeError Value) (s : WalkState σ) :
    (do return BoundExpr.constant name (← ofType r) : Walk σ BoundExpr) s
      = ((r.map (BoundExpr.constant name)).mapError .type, s) := by
  cases r with
  | error e => rfl
  | ok v => rfl

/-- A cast of a constant is the constant itself or a new one; its value is the converted one in both
cases. -/
theorem run_bindCast_constant (name name' : String) (target : SqlType) (v : Value)
    (s : WalkState σ) :
    ∃ name'', bindCast name target (.constant name' v) s
      = (((v.castTo target).map (BoundExpr.constant name'')).mapError .type, s) := by
  unfold bindCast
  rw [if_neg (BoundExpr.constant_type_ne_unknown name' v)]
  by_cases hsame : (BoundExpr.constant name' v).type = target
  · rw [if_pos hsame]
    subst hsame
    have hself : v.castTo (BoundExpr.constant name' v).type = .ok v := v.castTo_self
    rw [hself]
    exact ⟨name', rfl⟩
  · rw [if_neg hsame]
    exact ⟨name, run_constant name _ s⟩

namespace Evaluates

variable {catalog : Catalog} {s : WalkState σ}

/-- Both evaluations fail, and for the same reason. -/
theorem failure {e : Expr} {t : TypeError} (hargument : evalConstant e = .error (.type t))
    (hbound : bindExpr catalog e s = (.error (.type t), s)) :
    Evaluates catalog e (.error t) s where
  argument := hargument
  bound := ⟨"", hbound⟩
  written v hv := by cases hv

/-- A literal is the root of every constant. -/
theorem literal {l : Literal} (h : l.isPlaceholder = false) :
    Evaluates catalog (.literal l) (Value.ofLiteral l) s where
  argument := by
    unfold evalConstant
    rfl
  bound := by
    refine ⟨l.render, ?_⟩
    unfold bindExpr bindLiteral
    cases l with
    | placeholder text => cases h
    | _ => exact run_constant _ _ s
  written v hv := by
    unfold Expr.writtenType?
    rw [hv]
    rfl

/-- The type is looked at first in both. -/
theorem typed (type : DataType) (text : String) :
    Evaluates catalog (.typed type text)
      (do Value.parse text (← SqlType.ofDataType type)) s := by
  cases htarget : SqlType.ofDataType type with
  | error e =>
    exact failure (by unfold evalConstant; rw [htarget]; rfl)
      (by unfold bindExpr; rw [htarget]; rfl)
  | ok target =>
    refine ⟨?_, ⟨(Expr.typed type text).render, ?_⟩, fun v hv => ?_⟩
    · unfold evalConstant
      rw [htarget]
      rfl
    · unfold bindExpr
      rw [htarget]
      exact run_constant _ (Value.parse text target) s
    · unfold Expr.writtenType?
      rw [htarget]
      exact congrArg some (Value.type_of_parse hv).symm

/-- **A cast of a constant.** Both evaluate the operand and convert its value; bound to a
statement, a value that has the type already is not converted again. -/
theorem cast {e : Expr} {r : Except TypeError Value} (h : Evaluates catalog e r s)
    (type : DataType) :
    Evaluates catalog (.cast e type)
      (do
        let target ← SqlType.ofDataType type
        (← r).castTo target) s := by
  obtain ⟨name, hbound⟩ := h.bound
  have hargument := h.argument
  -- both look at the type before they look at the operand
  cases htarget : SqlType.ofDataType type with
  | error e =>
    exact failure (by unfold evalConstant; rw [htarget]; rfl)
      (by unfold bindExpr; rw [htarget]; rfl)
  | ok target =>
    have hcast : bindExpr catalog (.cast e type) s
        = (do bindCast (Expr.cast e type).render target (← bindExpr catalog e)) s := by
      rw [bindExpr, htarget]
      rfl
    have heval : evalConstant (.cast e type)
        = (do ((← evalConstant e).castTo target).mapError .type) := by
      rw [evalConstant, htarget]
      rfl
    rw [Walk.run_bind, hbound] at hcast
    rw [hargument] at heval
    cases r with
    | error t => exact failure heval hcast
    | ok v =>
      obtain ⟨name', hrun⟩ := run_bindCast_constant (Expr.cast e type).render name target v s
      refine ⟨heval, ⟨name', hcast.trans hrun⟩, fun w hw => ?_⟩
      unfold Expr.writtenType?
      rw [htarget]
      exact congrArg some (Value.type_of_castTo (SqlType.isResolved_of_ofDataType htarget) hw).symm

/-- Parentheses are looked through. -/
theorem nested {e : Expr} {r : Except TypeError Value} (h : Evaluates catalog e r s) :
    Evaluates catalog (.nested e) r s where
  argument := by
    unfold evalConstant
    exact h.argument
  bound := by
    unfold bindExpr
    exact h.bound
  written := by
    unfold Expr.writtenType?
    exact h.written

/-- Every constant is evaluated to the same by both. -/
theorem of_isConstant (catalog : Catalog) (s : WalkState σ) :
    (e : Expr) → e.isConstant = true → ∃ r, Evaluates catalog e r s
  | .literal l, h => by
    unfold Expr.isConstant at h
    exact ⟨_, literal (Bool.not_eq_true' _ ▸ h)⟩
  | .typed type text, _ => ⟨_, typed type text⟩
  | .cast operand type, h => by
    unfold Expr.isConstant at h
    obtain ⟨r, hr⟩ := of_isConstant catalog s operand h
    exact ⟨_, hr.cast type⟩
  | .nested operand, h => by
    unfold Expr.isConstant at h
    obtain ⟨r, hr⟩ := of_isConstant catalog s operand h
    exact ⟨r, hr.nested⟩
  | .column _, h | .qualified _, h | .binary _ _ _, h | .unary _ _, h | .isNull _ _, h
  | .inList _ _ _, h | .inQuery _ _ _, h | .between _ _ _ _, h | .like _ _ _ _ _, h
  | .case _ _ _ _, h | .exists _ _, h | .subquery _, h | .arrayOf _, h | .form _ _, h => by
    unfold Expr.isConstant at h
    cases h

end Evaluates

/-- **The two evaluations of constants agree.** An argument has a value exactly if the same
expression is bound in a statement, whatever tables are visible, whoever answers for the parameters
and whatever is known of them. Then it is bound to a constant with this value, whose type is that of
the value and the one that is written, and the state stays as it is. What fails, fails at both
places for the same reason. -/
theorem evalConstant_agrees (catalog : Catalog) {e : Expr} (he : e.isConstant = true)
    (s : WalkState σ) :
    (∀ v, evalConstant e = .ok v ↔ ∃ name, bindExpr catalog e s = (.ok (.constant name v), s))
      ∧ (∀ b s', bindExpr catalog e s = (.ok b, s') → ∃ name v, b = .constant name v
          ∧ evalConstant e = .ok v ∧ b.type = v.type ∧ e.writtenType? = some b.type ∧ s' = s)
      ∧ (∀ x, evalConstant e = .error x →
          ∃ t, x = .type t ∧ bindExpr catalog e s = (.error (.type t), s))
      ∧ ∀ x s', bindExpr catalog e s = (.error x, s') →
          ∃ t, x = .type t ∧ evalConstant e = .error (.type t) ∧ s' = s := by
  -- both come to the same `r`, so what is left is to read the two equations
  obtain ⟨r, hargument, ⟨name, hbound⟩, hwritten⟩ := Evaluates.of_isConstant catalog s e he
  rw [hargument, hbound]
  cases r with
  | error t =>
    refine ⟨fun v => ⟨?_, ?_⟩, ?_, ?_, ?_⟩
    · intro h
      cases h
    · rintro ⟨_, h⟩
      cases h
    · intro b s' h
      cases h
    · intro x h
      cases h
      exact ⟨t, rfl, rfl⟩
    · intro x s' h
      cases h
      exact ⟨t, rfl, rfl, rfl⟩
  | ok v =>
    refine ⟨fun w => ⟨?_, ?_⟩, ?_, ?_, ?_⟩
    · intro h
      cases h
      exact ⟨name, rfl⟩
    · rintro ⟨_, h⟩
      cases h
      rfl
    · intro b s' h
      cases h
      exact ⟨name, v, rfl, rfl, rfl, hwritten v rfl, rfl⟩
    · intro x h
      cases h
    · intro x s' h
      cases h

/-- `CAST((CAST(SMALLINT '007' AS BIGINT)) AS TEXT)` -/
def Sql.Expr.numeralAsText : Expr :=
  .cast (.nested (.cast (.typed (.integer .smallint none false) "007")
    (.integer .bigint none false))) .text

/-- `CAST((CAST(NULL AS INT)) AS TEXT)` -/
def Sql.Expr.nullAsText : Expr :=
  .cast (.nested (.cast (.literal .null) (.integer .int none false))) .text

/-- A numeral is read as a number and written out again; an untyped null becomes one of integers and
then one of text. -/
theorem evalConstant_agrees_asText :
    Expr.numeralAsText.isConstant = true
      ∧ (∃ name, bindExpr .empty .numeralAsText (.initial ParamTypes.absent)
          = (.ok (.constant name (.datum (.text "7"))), .initial .absent))
      ∧ Expr.nullAsText.isConstant = true
      ∧ ∃ name, bindExpr .empty .nullAsText (.initial ParamTypes.absent)
          = (.ok (.constant name (.nullOf .varchar)), .initial .absent) := by
  have hnumeral : evalConstant .numeralAsText = .ok (.datum (.text "7")) := by rfl
  have hnull : evalConstant .nullAsText = .ok (.nullOf .varchar) := rfl
  have h := (evalConstant_agrees .empty (e := .numeralAsText) rfl (.initial ParamTypes.absent)).1
  have h' := (evalConstant_agrees .empty (e := .nullAsText) rfl (.initial ParamTypes.absent)).1
  exact ⟨rfl, (h _).1 hnumeral, rfl, (h' _).1 hnull⟩

/-! ## What is bound to a constant -/

namespace BoundExpr

/-- Whether the value of the expression is known. -/
def isConstant : BoundExpr → Bool
  | constant _ _ => true
  | _ => false

theorem exists_of_isConstant {b : BoundExpr} (h : b.isConstant = true) :
    ∃ name v, b = constant name v := by
  cases b with
  | constant name v => exact ⟨name, v, rfl⟩
  | column | parameter | computed => cases h

omit [ParamHook σ] in
theorem castImplicitly_isConstant (b : BoundExpr) (target : SqlType) :
    Yields (b.castImplicitly target : Walk σ _) fun b' => b'.isConstant = false := by
  unfold castImplicitly
  split
  · exact .pure rfl
  · exact .throw _

/-- What has no value gets none when it is brought to a type. -/
theorem coerce_isConstant {b : BoundExpr} (hb : b.isConstant = false) (target : SqlType) :
    Yields (b.coerce target : Walk σ _) fun b' => b'.isConstant = false := by
  unfold coerce
  split
  · exact .pure hb
  · split
    · exact .then_ fun _ => .pure rfl
    · cases hb
    · exact castImplicitly_isConstant _ target

end BoundExpr

/-- A cast keeps what is known: a constant is converted to one, and nothing else becomes one. -/
theorem bindCast_isConstant (name : String) (target : SqlType) (b : BoundExpr) :
    Yields (bindCast name target b : Walk σ _) fun b' => b'.isConstant = b.isConstant := by
  unfold bindCast
  split
  · rename_i hunknown
    -- only what has no type is coerced, and a constant has one
    have hb : b.isConstant = false := by
      cases b with
      | constant _ v => exact absurd hunknown (BoundExpr.constant_type_ne_unknown _ v)
      | column | parameter | computed => rfl
    rw [hb]
    exact BoundExpr.coerce_isConstant hb target
  · split
    · exact .pure rfl
    · split
      · exact .then_ fun _ => .pure rfl
      · rename_i hne
        refine .pure ?_
        cases b with
        | constant name v => exact absurd rfl (hne name v)
        | column | parameter | computed => rfl

/-- No operator is evaluated before the statement is run. -/
theorem bindBinary_isConstant (name : String) (op : BinaryOp) (l r : BoundExpr) :
    Yields (bindBinary name op l r : Walk σ _) fun b => b.isConstant = false := by
  cases op with
  | eq | notEq | lt | ltEq | gt | gtEq => exact .then_ fun _ => .pure rfl
  | plus | minus | multiply | divide | modulo =>
    refine .then_ fun u => ?_
    dsimp only
    split
    · exact .throw _
    · exact .pure rfl
  | and | or => exact .then_ fun _ => .then_ fun _ => .pure rfl
  | concat => exact .then_ fun _ => .then_ fun _ => .pure rfl
  | other | custom => exact .throw _

theorem bindUnary_isConstant (name : String) (op : UnaryOp) (b : BoundExpr) :
    Yields (bindUnary name op b : Walk σ _) fun b => b.isConstant = false := by
  cases op with
  | not => exact .then_ fun _ => .pure rfl
  | plus | minus =>
    show Yields (bindSign name _ b) _
    unfold bindSign
    split
    · exact .throw _
    · exact .pure rfl
  | factorial | other => exact .throw _

omit [ParamHook σ] in
theorem bindColumnRef_isConstant (parts : List Ident) :
    Yields (bindColumnRef parts : Walk σ _) fun b => b.isConstant = false := by
  unfold bindColumnRef
  split
  · exact .then_ fun _ => .pure rfl
  · exact .then_ fun _ => .pure rfl
  · exact .throw _

theorem bindLiteral_isConstant (l : Literal) :
    Yields (bindLiteral l : Walk σ _) fun b => b.isConstant = !l.isPlaceholder := by
  cases l with
  | placeholder text =>
    unfold bindLiteral
    split
    · split
      · exact .then_ fun _ => .pure rfl
      · exact .throw _
    · rename_i hne
      exact absurd rfl (hne text)
  | _ => exact .then_ fun _ => .pure rfl

/-- **Constants are what is bound to a constant.** An expression of any other form has no value
before the statement is run. -/
theorem bindExpr_isConstant (catalog : Catalog) : (e : Expr) →
    Yields (bindExpr catalog e : Walk σ _) fun b => b.isConstant = e.isConstant
  | .literal l => by
    unfold bindExpr Expr.isConstant
    exact bindLiteral_isConstant l
  | .typed _ _ => by
    unfold bindExpr Expr.isConstant
    exact .then_ fun _ => .then_ fun _ => .pure rfl
  | .cast operand type => by
    unfold bindExpr Expr.isConstant
    refine .then_ fun target => (bindExpr_isConstant catalog operand).bind fun b hb => ?_
    rw [← hb]
    exact bindCast_isConstant _ target b
  | .nested operand => by
    unfold bindExpr Expr.isConstant
    exact bindExpr_isConstant catalog operand
  | .column _ | .qualified _ => by
    unfold bindExpr Expr.isConstant
    exact bindColumnRef_isConstant _
  | .binary _ _ _ => by
    unfold bindExpr Expr.isConstant
    exact .then_ fun _ => .then_ fun _ => bindBinary_isConstant _ _ _ _
  | .unary _ _ => by
    unfold bindExpr Expr.isConstant
    exact .then_ fun _ => bindUnary_isConstant _ _ _
  | .isNull _ _ | .exists _ _ => by
    unfold bindExpr Expr.isConstant
    exact .then_ fun _ => .pure rfl
  | .inList _ _ _ => by
    unfold bindExpr Expr.isConstant
    exact .then_ fun _ => .then_ fun _ => .then_ fun _ => .pure rfl
  | .inQuery _ _ _ => by
    unfold bindExpr Expr.isConstant
    exact .then_ fun _ => .then_ fun _ => .then_ fun _ => .then_ fun _ => .pure rfl
  | .between _ _ _ _ => by
    unfold bindExpr Expr.isConstant
    exact .then_ fun _ => .then_ fun _ => .then_ fun _ => .then_ fun _ => .pure rfl
  | .like _ _ _ _ _ => by
    unfold bindExpr Expr.isConstant
    exact .then_ fun _ => .then_ fun _ => .then_ fun _ => .then_ fun _ => .pure rfl
  | .case operand _ _ _ => by
    unfold bindExpr Expr.isConstant
    cases operand with
    | none => exact .then_ fun _ => .then_ fun _ => .then_ fun _ => .then_ fun _ => .pure rfl
    | some operand =>
      exact .then_ fun _ => .then_ fun _ => .then_ fun _ => .then_ fun _ => .then_ fun _ =>
        .then_ fun _ => .pure rfl
  | .subquery _ => by
    unfold bindExpr Expr.isConstant
    exact .then_ fun _ => .then_ fun _ => .pure rfl
  | .arrayOf _ | .form _ _ => by
    unfold bindExpr
    exact .throw _

/-- What is bound to a constant is one, and has the value of the same argument. -/
theorem evalConstant_of_bindExpr {catalog : Catalog} {e : Expr} {s s' : WalkState σ} {name : String}
    {v : Value} (h : bindExpr catalog e s = (.ok (.constant name v), s')) :
    e.isConstant = true ∧ evalConstant e = .ok v := by
  have he : e.isConstant = true := (bindExpr_isConstant catalog e s _ s' h).symm
  obtain ⟨r, hargument, ⟨name', hbound⟩, -⟩ := Evaluates.of_isConstant catalog s e he
  rw [hbound] at h
  cases r with
  | error t => cases h
  | ok w =>
    cases h
    exact ⟨he, hargument⟩

end Prepared
