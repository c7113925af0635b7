import Prepared.Sql.Parser.Change
import Prepared.Sql.Parser.Transaction

/-!
# Parsing settings

Statements that set or show variables, or show what there is.

The productions follow those of the package `sqlparser` 0.28 (`PostgreSqlDialect`).
-/

namespace Prepared.Sql.Setting

open Prepared.Sql.Parser

/-! ### Setting -/

/-- To whom a setting matters. -/
inductive Scope where
  | session
  | transaction
  /-- A variable of its own kind. -/
  | hive
  deriving DecidableEq

/-- To whom a setting matters, if it is said. -/
def scope? : Parser (Option Scope) := do
  match ← oneOf ["SESSION", "LOCAL", "HIVEVAR"] with
  | some "SESSION" => return some .session
  | some "LOCAL" => return some .transaction
  | some _ =>
    expect ":"
    return some .hive
  | none => return none

/-- The role behind the word `ROLE`. -/
def role (scope : Option Scope) : Phrase := do
  let name ← if ← keyword "NONE" then pure "NONE" else Phrase.ident
  let scope := match scope with
    | some .session => "SESSION "
    | some _ => "LOCAL "
    | none => ""
  return "SET " ++ scope ++ "ROLE " ++ name

/-- What is set, as it is written. The two words for the zone of time are a name of their own. -/
def variableName : Phrase := do
  if ← wordsInOrder ["TIME", "ZONE"] then return "TIMEZONE" else Phrase.objectName

/-- The modes of a transaction, or of all that follow. These names have to be in capitals. -/
def transaction (scope : Option Scope) (name : String) : Phrase := do
  if name = "CHARACTERISTICS" then
    expectWord "AS"
    expectWord "TRANSACTION"
    return "SET SESSION CHARACTERISTICS AS TRANSACTION" ++ (← Transaction.modes)
  else if name = "TRANSACTION" ∧ scope = none then
    if ← keyword "SNAPSHOT" then return "SET TRANSACTION SNAPSHOT " ++ (← Phrase.literal)
    else return "SET TRANSACTION" ++ (← Transaction.modes)
  else failure

/-- What is set behind the words that say to whom it matters. -/
def assign (g : Grammar) (scope : Option Scope) : Phrase := do
  let name ← variableName
  let before := if scope = some .transaction then "SET LOCAL " else "SET "
  let given ← if ← symbol "=" then pure true else keyword "TO"
  if given then
    let values ← Phrase.list (Phrase.expr g)
    return before ++ (if scope = some .hive then "HIVEVAR:" else "") ++ name ++ " = " ++ values
  else if Text.upperAscii name = "TIMEZONE" then return before ++ "TIME ZONE " ++ (← Phrase.expr g)
  else transaction scope name

/-- A `SET` behind its word. -/
def set (g : Grammar) : Phrase := do
  let scope ← scope?
  if scope = some .hive then assign g scope
  else if ← keyword "ROLE" then role scope
  else assign g scope

/-! ### Showing -/

/-- Which of the things are shown, behind a space. -/
def filter (g : Grammar) : Phrase := do
  if ← keyword "LIKE" then return " LIKE " ++ (← Phrase.quotedText)
  -- here the quotes around the text are lost
  else if ← keyword "ILIKE" then
    return " ILIKE " ++ String.ofList (doubleQuotes '\'' (← literalText).toList)
  else Phrase.behind ["WHERE"] (Phrase.expr g)

/-- The columns of a table, whose schema may stand behind it. -/
def columns (g : Grammar) : Phrase := do
  let some _ ← oneOf ["FROM", "IN"] | failure
  let name ← objectName
  let name ← match ← oneOf ["FROM", "IN"] with
    | some _ => do pure ((← ident) :: name)
    | none => pure name
  return "COLUMNS FROM " ++ ObjectName.render name ++ (← filter g)

/-- The tables of a schema, or all tables. -/
def tables (g : Grammar) : Phrase := do
  let schema ← match ← oneOf ["FROM", "IN"] with
    | some _ => do pure (" FROM " ++ (← Phrase.ident))
    | none => pure ""
  return "TABLES" ++ schema ++ (← filter g)

/-- Something that is shown by the statement that creates it. -/
def creation : Phrase := do
  let kind ← Phrase.wordOf ["TABLE", "TRIGGER", "FUNCTION", "PROCEDURE", "EVENT", "VIEW"]
  return "SHOW CREATE " ++ kind ++ " " ++ (← Phrase.objectName)

/-- A variable: all words up to an equals sign, or to the end of the text. -/
def variableWords : Phrase := do
  let _ ← keyword "VARIABLES"
  let words ← assignmentTarget (← get).length
  return " ".intercalate ("SHOW" :: words.map Ident.render)

/-- A `SHOW` behind its word. -/
def showing (g : Grammar) : Phrase := do
  let extended ← Phrase.words ["EXTENDED"]
  let full ← Phrase.words ["FULL"]
  match ← oneOf ["COLUMNS", "FIELDS", "TABLES", "FUNCTIONS"] with
  | some "TABLES" => return "SHOW" ++ extended ++ full ++ " " ++ (← tables g)
  | some "FUNCTIONS" => return "SHOW FUNCTIONS" ++ (← filter g)
  | some _ => return "SHOW" ++ extended ++ full ++ " " ++ (← columns g)
  | none =>
    if !(extended ++ full).isEmpty then failure
    else if ← keyword "CREATE" then creation
    else if ← keyword "COLLATION" then return "SHOW COLLATION" ++ (← filter g)
    else variableWords

/-- A `USE` behind its word. -/
def use : Phrase := do
  return "USE " ++ (← Phrase.ident)

end Prepared.Sql.Setting
