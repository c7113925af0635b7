import Prepared.Sql.Parser.Phrase

/-!
# Parsing statements of upkeep

Statements that remove, empty, measure, check or keep things, and those about connections.

The productions follow those of the package `sqlparser` 0.28 (`PostgreSqlDialect`).
-/

namespace Prepared.Sql.Upkeep

open Prepared.Sql.Parser

/-! ### Removing -/

/-- A `DROP` behind its word. -/
def drop : Phrase := do
  let kind ← Phrase.wordOf ["TABLE", "VIEW", "INDEX", "ROLE", "SCHEMA", "SEQUENCE"]
  let ifExists ← Phrase.ifExists
  let names ← Phrase.list Phrase.objectName
  let cascade ← Phrase.words ["CASCADE"]
  let restrict ← Phrase.words ["RESTRICT"]
  let purge ← Phrase.words ["PURGE"]
  if !cascade.isEmpty && !restrict.isEmpty then failure
  if kind = "ROLE" && !(cascade ++ restrict ++ purge).isEmpty then failure
  return "DROP " ++ kind ++ ifExists ++ " " ++ names ++ cascade ++ restrict ++ purge

/-- The expressions that name parts of a table, behind a space. -/
def parts (g : Grammar) : Phrase :=
  Phrase.behind ["PARTITION"] (Phrase.group (Phrase.expr g))

/-- A `TRUNCATE` behind its word. -/
def truncate (g : Grammar) : Phrase := do
  expectWord "TABLE"
  let name ← Phrase.objectName
  return "TRUNCATE TABLE " ++ name ++ (← parts g)

/-- A `DISCARD` behind its word. -/
def discard : Phrase := do
  match ← Phrase.wordOf ["ALL", "PLANS", "SEQUENCES", "TEMP", "TEMPORARY"] with
  | "TEMPORARY" => return "DISCARD TEMP"
  | word => return "DISCARD " ++ word

/-! ### Measuring and checking -/

/-- What is measured of a table. -/
structure Measures where
  parts : String
  statistics : String
  noScan : String
  metadata : String
  columns : String

/-- What is measured of a table, in at most `n` clauses. -/
def measures (g : Grammar) (m : Measures) : Nat → Parser Measures
  | 0 => return m
  | n + 1 => do
    match ← oneOf ["PARTITION", "FOR", "CACHE", "NOSCAN", "COMPUTE"] with
    | some "PARTITION" =>
      let parts ← Phrase.group (Phrase.expr g)
      measures g { m with parts := " PARTITION " ++ parts } n
    | some "FOR" =>
      expectWord "COLUMNS"
      let names ← maybe (Phrase.list Phrase.ident)
      measures g { m with columns := " FOR COLUMNS" ++ whenSome " " id names } n
    | some "CACHE" =>
      expectWord "METADATA"
      measures g { m with metadata := " CACHE METADATA" } n
    | some "NOSCAN" => measures g { m with noScan := " NOSCAN" } n
    | some _ =>
      expectWord "STATISTICS"
      measures g { m with statistics := " COMPUTE STATISTICS" } n
    | none => return m

/-- An `ANALYZE` behind its word. -/
def measure (g : Grammar) : Phrase := do
  expectWord "TABLE"
  let name ← Phrase.objectName
  let m ← measures g ⟨"", "", "", "", ""⟩ ((← get).length + 1)
  return "ANALYZE TABLE " ++ name ++ m.parts ++ m.statistics ++ m.noScan ++ m.metadata ++ m.columns

/-- What becomes of the parts of a table that is checked. Without a word for it nothing does. -/
def partAction : Phrase := do
  let action ← oneOf ["ADD", "DROP", "SYNC"]
  expectWord "PARTITIONS"
  return whenSome " " (· ++ " PARTITIONS") action

/-- A check of the files of a table, behind the word `MSCK`. -/
def check : Phrase := do
  let repair ← Phrase.words ["REPAIR"]
  expectWord "TABLE"
  let name ← Phrase.objectName
  return "MSCK" ++ repair ++ " TABLE " ++ name ++ ((← maybe partAction).getD "")

/-! ### Keeping -/

/-- The query whose rows are kept. Without a word in front of it, it begins with one itself. -/
def keptQuery (g : Grammar) : Phrase := do
  if ← atEnd then return ""
  else if ← keyword "AS" then return " AS " ++ (← Phrase.query g)
  else if (← peekWord?).isSome then return " " ++ (← Phrase.query g)
  else failure

/-- A `CACHE` behind its word. -/
def cache (g : Grammar) : Phrase := do
  let unnamed := (← peekWord?) == some "TABLE"
  let flag ← if unnamed then pure "" else (" " ++ ·) <$> Phrase.objectName
  expectWord "TABLE"
  let name ← Phrase.objectName
  let options ← Phrase.properties "OPTIONS"
  return "CACHE" ++ flag ++ " TABLE " ++ name ++ renderProperties " OPTIONS" options
    ++ (← keptQuery g)

/-- An `UNCACHE` behind its word. Nothing may follow it. -/
def uncache : Phrase := do
  expectWord "TABLE"
  let ifExists ← Phrase.ifExists
  let name ← Phrase.objectName
  if ← atEnd then return "UNCACHE TABLE" ++ ifExists ++ " " ++ name else failure

/-! ### Other statements -/

/-- A `KILL` behind its word. -/
def kill : Phrase := do
  let kind ← Phrase.wordIn ["CONNECTION", "QUERY"]
  return "KILL" ++ kind ++ " " ++ toString (← wholeNumber)

/-- An `ASSERT` behind its word. -/
def assert (g : Grammar) : Phrase := do
  let condition ← Phrase.expr g
  return "ASSERT " ++ condition ++ (← Phrase.behind ["AS"] (Phrase.expr g))

/-- A `COMMENT` behind its word. -/
def comment : Phrase := do
  expectWord "ON"
  let kind ← Phrase.wordOf ["COLUMN", "TABLE"]
  let name ← Phrase.objectName
  expectWord "IS"
  let text ← if ← keyword "NULL" then pure "NULL" else Phrase.rawText
  return "COMMENT ON " ++ kind ++ " " ++ name ++ " IS " ++ text

end Prepared.Sql.Upkeep
