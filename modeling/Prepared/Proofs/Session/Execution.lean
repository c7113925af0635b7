import Prepared.Proofs.Session.Arguments

/-!
# Executions

An execution is made of two things, the row of its values and a text.

The values have to make up a batch, which is the last thing that could be refused. It never is, since
a parameter that is bound holds a datum of its type (`Session.executeBatch_eq`).

The text is put together from the tokens of the text that the prepared statement is printed as. Each
parameter among them gives way to its value, with a space where two minus signs would meet
(`Session.execute_parameter`). But the printed text may hold a comment already, where one sign stands
directly in front of another: there the parameter is no token of its own, and the text means nothing
(`Session.run_executeSigns`).
-/

namespace Prepared

open Sql

/-! ## The batch of the values -/

section

variable {ε : Type} {build : List Field → List ColumnData → Except ε RowSet}

/-- What is bound for a prepared statement makes up a batch. -/
theorem PreparedStatement.paramBatch_of_bind (hbuild : Builds build) {p : PreparedStatement}
    {args : List Value} {params : List Param} (h : p.bind args = .ok params) :
    paramBatch build params = .ok (paramRow params) := by
  have hbind : bindValues p.paramTypes args (args.map Value.isNull) = .ok params := mapError_eq_ok.1 h
  obtain ⟨hvalues, hnulls⟩ := count_of_bindValues hbind
  exact paramBatch_eq hbuild ((boundTo_of_bindValues hbind).typed hvalues hnulls)

/-- **No execution is refused for its batch.** Whatever the session, the statement and the values, the
batch adds no error to those of the steps before it, and holds the row of the values. -/
theorem Session.executeBatch_eq (hbuild : Builds build) (s : Session) (name : String)
    (args : List Value) : s.executeBatch build name args = (s.execute name args).mapError .inl := by
  unfold executeBatch execute
  cases s.prepared name with
  | error e => rfl
  | ok p =>
    by_cases hcount : args.length ≠ p.paramTypes.length
    · simp only [Except.mapError, bind, Except.bind, if_pos hcount]
      rfl
    · simp only [Except.mapError, bind, Except.bind, if_neg hcount]
      cases hbind : p.bind args with
      | error e => rfl
      | ok params =>
        dsimp only
        cases substitute params p.statement.render with
        | error e => rfl
        | ok sql =>
          dsimp only
          rw [p.paramBatch_of_bind hbuild hbind]
          rfl

end

/-! ## Values in place -/

/-- The last character of a text that is put behind another one. -/
theorem getLast?_append (a b : String) (last : Option Char) :
    (a ++ b).toList.getLast?.or last = b.toList.getLast?.or (a.toList.getLast?.or last) := by
  rw [String.toList_append, List.getLast?_append]
  cases b.toList.getLast? <;> rfl

/-- Tokens are put together from the first to the last: what stands in front of the rest is known to
it by its last character only. -/
theorem substituteTokens_append (params : List Param) (last : Option Char) (ts us : List Token) :
    substituteTokens params last (ts ++ us) = do
      let front ← substituteTokens params last ts
      let back ← substituteTokens params (front.toList.getLast?.or last) us
      return front ++ back := by
  induction ts generalizing last with
  | nil =>
    show substituteTokens params last us = (substituteTokens params last us).bind fun back => _
    cases substituteTokens params last us with
    | error e => rfl
    | ok back => exact congrArg Except.ok (String.empty_append).symm
  | cons t ts ih =>
    simp only [List.cons_append, substituteTokens]
    cases substituteToken params last t with
    | error e => rfl
    | ok text =>
      -- behind `t` its text is in front of the others, and its last character with it
      simp only [bind, Except.bind, ih, pure, Except.pure]
      cases substituteTokens params (text.toList.getLast?.or last) ts with
      | error e => rfl
      | ok rest =>
        simp only [getLast?_append]
        cases substituteTokens params
            (rest.toList.getLast?.or (text.toList.getLast?.or last)) us with
        | error e => rfl
        | ok back => simp only [String.append_assoc]

/-- What stands in the place of parameter `n` behind a text that ends in `last`: the value of the
parameter, or a space and its value. Two minus signs do not meet. -/
structure InPlaceOf (params : List Param) (n : Nat) (last : Option Char) (value : String) : Prop where
  bound : ∃ p, paramAt? params n = some p ∧ (value = p.literal ∨ value = " " ++ p.literal)
  apart : ¬(last = some '-' ∧ value.toList.head? = some '-')

/-- A token that stands for a parameter gives way to its value. -/
theorem substituteToken_parameter {params : List Param} {last : Option Char} {name value : String}
    {n : Nat} (hname : ParamTypes.number? name = some n)
    (h : substituteToken params last (.placeholder name) = .ok value) :
    InPlaceOf params n last value := by
  simp only [substituteToken, hname] at h
  cases hp : paramAt? params n with
  | none =>
    rw [hp] at h
    cases h
  | some p =>
    simp only [hp, Except.ok.injEq] at h
    split at h
    · subst h
      refine ⟨⟨p, hp, Or.inr rfl⟩, fun hminus => ?_⟩
      rw [String.toList_append] at hminus
      exact absurd (Option.some.inj hminus.2) (by decide)
    · rename_i hapart
      subst h
      exact ⟨⟨p, hp, Or.inl rfl⟩, hapart⟩

/-- The text with values in place falls into three parts: what has become of the tokens in front of a
parameter, its value, and what has become of the tokens behind it. -/
theorem substituteTokens_parameter {params : List Param} {ts us : List Token} {name out : String}
    {n : Nat} (hname : ParamTypes.number? name = some n)
    (h : substituteTokens params none (ts ++ .placeholder name :: us) = .ok out) :
    ∃ front value back, out = front ++ (value ++ back)
      ∧ substituteTokens params none ts = .ok front
      ∧ InPlaceOf params n front.toList.getLast? value := by
  rw [substituteTokens_append, bind_eq_ok] at h
  obtain ⟨front, hfront, h⟩ := h
  obtain ⟨rest, hrest, h⟩ := bind_eq_ok.1 h
  obtain rfl : front ++ rest = out := Except.ok.inj h
  rw [Option.or_none, substituteTokens, bind_eq_ok] at hrest
  obtain ⟨value, hvalue, hrest⟩ := hrest
  obtain ⟨back, -, hback⟩ := bind_eq_ok.1 hrest
  obtain rfl : value ++ back = rest := Except.ok.inj hback
  exact ⟨front, value, back, rfl, hfront, substituteToken_parameter hname hvalue⟩

/-- **Parameters give way to their values.** Wherever the printed text of an executed statement has a
parameter as a token, the text of the execution has the value that is bound to it, behind what has
become of the tokens before it, and no minus sign of the value meets one of the text. -/
theorem Session.execute_parameter {s : Session} {name : String} {args : List Value} {e : Execution}
    (h : s.execute name args = .ok e) :
    ∃ p params tokens, s.prepared name = .ok p ∧ p.bind args = .ok params
      ∧ Token.scan p.statement.render = some tokens
      ∧ ∀ ts us placeholder n, tokens = ts ++ .placeholder placeholder :: us →
        ParamTypes.number? placeholder = some n →
        ∃ front value back, e.sql = front ++ (value ++ back)
          ∧ substituteTokens params none ts = .ok front
          ∧ InPlaceOf params n front.toList.getLast? value := by
  obtain ⟨p, hp, h⟩ := bind_eq_ok.1 h
  dsimp only at h
  split at h
  · cases h
  obtain ⟨params, hparams, h⟩ := bind_eq_ok.1 h
  obtain ⟨sql, hsql, h⟩ := bind_eq_ok.1 h
  obtain rfl : ⟨name, sql, paramRow params⟩ = e := Except.ok.inj h
  have hsql := mapError_eq_ok.1 hsql
  unfold substitute at hsql
  cases hscan : Token.scan p.statement.render with
  | none =>
    rw [hscan] at hsql
    cases hsql
  | some tokens =>
    rw [hscan] at hsql
    refine ⟨p, params, tokens, hp, hparams, hscan, ?_⟩
    rintro ts us placeholder n rfl hnumber
    exact substituteTokens_parameter hnumber hsql

/-! ## A parameter that is lost -/

/-- The text of what an execution comes to. -/
def Outcome.sql? : Outcome → Option String
  | executed e => some e.sql
  | _ => none

/-- Two signs in a row are printed without a space between them, and begin a comment. The parameter
behind them is lost: the statement is executed successfully, but its text means nothing. -/
theorem Session.run_executeSigns :
    ((Session.new .default).run "PREPARE q (INT) AS SELECT - -$1; EXECUTE q (5)").1.toOption.map
        (List.map Outcome.sql?) = some [none, some "SELECT --$1"]
      ∧ (Statement.parse? "SELECT --$1").isNone = true := by
  constructor
  · decide +kernel
  · decide +kernel

end Prepared
