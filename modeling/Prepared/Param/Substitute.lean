import Prepared.Param.Values
import Prepared.Sql.Lexer

/-!
# Values in place of placeholders

A text of SQL with every placeholder `$n` replaced by the value of parameter `n`. All other tokens
stay what they are.
-/

namespace Prepared

open Sql

/-- A token with the value of its parameter in place, behind a text that ends in `last`. Two minus
signs are kept apart, since together they would begin a comment. -/
def substituteToken (params : List Param) (last : Option Char) (t : Token) :
    Except ParamError String :=
  match t with
  | .placeholder text =>
    match ParamTypes.number? text with
    | some number =>
      match paramAt? params number with
      | some p =>
        let literal := p.literal
        .ok (if last = some '-' ∧ literal.toList.head? = some '-' then " " ++ literal else literal)
      | none => .error (.noSuchParameter number)
    | none => .ok text
  | t => .ok t.render

/-- Tokens with the values of their parameters in place, behind a text that ends in `last`. -/
def substituteTokens (params : List Param) (last : Option Char) :
    List Token → Except ParamError String
  | [] => .ok ""
  | t :: ts => do
    let text ← substituteToken params last t
    let rest ← substituteTokens params (text.toList.getLast?.or last) ts
    return text ++ rest

/-- A text with the values of its parameters in place. -/
def substitute (params : List Param) (sql : String) : Except ParamError String :=
  match Token.scan sql with
  | some tokens => substituteTokens params none tokens
  | none => .error .unterminated

end Prepared
