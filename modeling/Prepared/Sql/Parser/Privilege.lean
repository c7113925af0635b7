import Prepared.Sql.Parser.Phrase

/-!
# Parsing privileges

Who may do what with which things of the database.

The productions follow those of the package `sqlparser` 0.28 (`PostgreSqlDialect`).
-/

namespace Prepared.Sql.Privilege

open Prepared.Sql.Parser

/-- A single privilege, which some kinds have for single columns. -/
def action : Phrase := do
  match ← oneOf ["INSERT", "REFERENCES", "SELECT", "UPDATE"] with
  | some word => return word ++ (← Phrase.columnsIfAny)
  | none =>
    Phrase.wordOf ["CONNECT", "CREATE", "DELETE", "EXECUTE", "TEMPORARY", "TRIGGER", "TRUNCATE",
      "USAGE"]

/-- All privileges, or a list of them. -/
def actions : Phrase := do
  if ← keyword "ALL" then return "ALL" ++ (← Phrase.words ["PRIVILEGES"])
  else Phrase.list action

/-- The things that privileges are for. Those without a word for their kind are tables. -/
def objects : Phrase := do
  if ← wordsInOrder ["ALL", "TABLES", "IN", "SCHEMA"] then
    return "ALL TABLES IN SCHEMA " ++ (← names)
  else if ← wordsInOrder ["ALL", "SEQUENCES", "IN", "SCHEMA"] then
    return "ALL SEQUENCES IN SCHEMA " ++ (← names)
  else match ← oneOf ["SEQUENCE", "SCHEMA", "TABLE"] with
    | some "SEQUENCE" => return "SEQUENCE " ++ (← names)
    | some "SCHEMA" => return "SCHEMA " ++ (← names)
    | _ => names
where
  /-- Names of things. -/
  names : Phrase := Phrase.list Phrase.objectName

/-- Privileges and what they are for. -/
def subject : Phrase := do
  let actions ← actions
  expectWord "ON"
  return actions ++ " ON " ++ (← objects)

/-- Who has given the privileges, behind a space. -/
def grantor : Phrase :=
  Phrase.behind ["GRANTED", "BY"] Phrase.ident

/-- A `GRANT` behind its word. -/
def grant : Phrase := do
  let subject ← subject
  expectWord "TO"
  let names ← Phrase.list Phrase.ident
  let option ← Phrase.words ["WITH", "GRANT", "OPTION"]
  return "GRANT " ++ subject ++ " TO " ++ names ++ option ++ (← grantor)

/-- A `REVOKE` behind its word. Privileges that depend on those taken away are only taken away too
if it is said. -/
def revoke : Phrase := do
  let subject ← subject
  expectWord "FROM"
  let names ← Phrase.list Phrase.ident
  let grantor ← grantor
  let cascade ← keyword "CASCADE"
  let restrict ← keyword "RESTRICT"
  if cascade && restrict then failure
  return "REVOKE " ++ subject ++ " FROM " ++ names ++ grantor
    ++ if cascade then " CASCADE" else " RESTRICT"

end Prepared.Sql.Privilege
