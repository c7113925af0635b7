import Prepared.Sql.Parser.Phrase

/-!
# Parsing statements about transactions

The productions follow those of the package `sqlparser` 0.28 (`PostgreSqlDialect`).
-/

namespace Prepared.Sql.Transaction

open Prepared.Sql.Parser

/-- How far a transaction is kept apart from others. -/
def isolationLevel : Phrase := do
  if ← wordsInOrder ["READ", "UNCOMMITTED"] then return "READ UNCOMMITTED"
  else if ← wordsInOrder ["READ", "COMMITTED"] then return "READ COMMITTED"
  else if ← wordsInOrder ["REPEATABLE", "READ"] then return "REPEATABLE READ"
  else if ← keyword "SERIALIZABLE" then return "SERIALIZABLE"
  else failure

/-- A mode of a transaction, if one is next. -/
def mode? : Parser (Option String) := do
  if ← wordsInOrder ["ISOLATION", "LEVEL"] then
    return some ("ISOLATION LEVEL " ++ (← isolationLevel))
  else if ← wordsInOrder ["READ", "ONLY"] then return some "READ ONLY"
  else if ← wordsInOrder ["READ", "WRITE"] then return some "READ WRITE"
  else return none

/-- The modes of a transaction, at most `n`. A comma between two is not needed, but where there is
one a mode must follow. -/
def modeList (needed : Bool) : Nat → Parser (List String)
  | 0 => return []
  | n + 1 => do
    match ← mode? with
    | some mode => return mode :: (← modeList (← symbol ",") n)
    | none => if needed then failure else return []

/-- The modes of a transaction, behind a space. -/
def modes : Phrase := do
  return renderList " " (← modeList false ((← get).length + 1))

/-- The end of a transaction behind its word. -/
def finish (word : String) : Phrase := do
  let _ ← oneOf ["TRANSACTION", "WORK"]
  if ← keyword "AND" then
    let no ← keyword "NO"
    expectWord "CHAIN"
    return if no then word else word ++ " AND CHAIN"
  else return word

/-- A `START TRANSACTION` behind its first word. -/
def start : Phrase := do
  expectWord "TRANSACTION"
  return "START TRANSACTION" ++ (← modes)

/-- The other way to start a transaction, behind the word `BEGIN`. -/
def begin : Phrase := do
  let _ ← oneOf ["TRANSACTION", "WORK"]
  return "START TRANSACTION" ++ (← modes)

/-- A `SAVEPOINT` behind its word. -/
def savepoint : Phrase := do
  return "SAVEPOINT " ++ (← Phrase.ident)

end Prepared.Sql.Transaction
