import Prepared.Sql.Lexer
import Prepared.Sql.Parser.Statement

/-!
# The grammar as a whole

The productions are tied together by the depth of nesting: a production at one depth descends into
those at the depth below. As nothing nests deeper than there are tokens, up to a constant, a text
that has a meaning finds it.

What is nested where follows the package `sqlparser` 0.28 (`PostgreSqlDialect`).
-/

namespace Prepared.Sql

namespace Parser

/-- The grammar in which nothing is nested deeper than `n`. -/
def grammar : Nat → Grammar
  | 0 => {
    expr := fun _ => failure
    intervalValue := failure
    query := failure
    body := fun _ => failure
    tables := failure
    dataType := failure
    insert := failure
    statement := failure }
  | n + 1 => {
    expr := fun level s => expr (grammar n) level s
    intervalValue := fun s => intervalValue (grammar n) s
    query := fun s => query (grammar n) s
    body := fun level s => body (grammar n) level s
    tables := fun s => tables (grammar n) s
    dataType := fun s => dataType (grammar n) s
    insert := fun s => insert (grammar n) s
    statement := fun s => statement (grammar n) s }

/-- A depth of nesting that no text of `tokens` tokens goes beyond. -/
def depthOf (tokens : Nat) : Nat :=
  4 * tokens + 8

/-- What a text means that `p` describes as a whole. -/
def parseAll {α : Type} (p : Grammar → Parser α) (text : String) : Option α := do
  let tokens ← Token.scan text
  let (a, rest) ← p (grammar (depthOf tokens.length)) tokens
  if (skipBlank rest).isEmpty then return a else none

end Parser

/-- The statements of a text, or nothing if it is not SQL. -/
def Statement.parse? (text : String) : Option (List Statement) :=
  Parser.parseAll (fun g s => Parser.statements g (s.length + 1) s) text

end Prepared.Sql
