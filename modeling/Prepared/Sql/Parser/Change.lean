import Prepared.Sql.Parser.Phrase

/-!
# Parsing changes of rows

The productions follow those of the package `sqlparser` 0.28 (`PostgreSqlDialect`).
-/

namespace Prepared.Sql.Parser

/-! ### New values -/

/-- The words in front of an equals sign, at most `n`. Whatever else stands between them does not
count. -/
def assignmentTarget : Nat → Parser (List Ident)
  | 0 => return []
  | n + 1 => do
    match ← peek? with
    | some (.word i) =>
      let _ ← token
      return i :: (← assignmentTarget n)
    | some (.symbol "=") => return []
    | some _ =>
      let _ ← token
      assignmentTarget n
    | none => return []

/-- The new value of a column. -/
def assignment (g : Grammar) : Parser Assignment := do
  let target ← assignmentTarget (← get).length
  expect "="
  return ⟨target, ← g.expr 0⟩

/-- What a statement gives back of the rows that it changed. -/
def returning (g : Grammar) : Parser (List SelectItem) := do
  return (← behind "RETURNING" (list (selectItem g))).getD []

/-- What an `INSERT` does with a row that is there already, behind the word `ON`. -/
def conflict (g : Grammar) : Parser Conflict := do
  if ← keyword "CONFLICT" then
    let target ← columnNamesIfAny
    expectWord "DO"
    if ← keyword "NOTHING" then return .nothing target
    else
      expectWord "UPDATE"
      expectWord "SET"
      let assignments ← list (assignment g)
      return .update target assignments (← behind "WHERE" (g.expr 0))
  else
    expectWord "DUPLICATE"
    expectWord "KEY"
    expectWord "UPDATE"
    return .duplicateKey (← list (assignment g))

/-! ### Statements -/

/-- A format of files. -/
def fileFormat : Parser FileFormat := do
  match ← peekWord? with
  | some "TEXTFILE" => formatOf .textFile
  | some "SEQUENCEFILE" => formatOf .sequenceFile
  | some "ORC" => formatOf .orc
  | some "PARQUET" => formatOf .parquet
  | some "AVRO" => formatOf .avro
  | some "RCFILE" => formatOf .rcFile
  | some "JSONFILE" => formatOf .jsonFile
  | _ => failure
where
  /-- Takes the word for the format. -/
  formatOf (format : FileFormat) : Parser FileFormat := do
    let _ ← token
    return format

/-- An `INSERT` into files behind the word for them. -/
def insertFiles (g : Grammar) (overwrite localWord : Bool) : Parser Statement := do
  let path ← literalText
  let format ← if ← wordsInOrder ["STORED", "AS"] then some <$> fileFormat else pure none
  return .insertFiles ⟨overwrite, localWord, path, format, ← g.query⟩

/-- An `INSERT` behind its word. -/
def insert (g : Grammar) : Parser Statement := do
  let action ← oneOf ["INTO", "OVERWRITE"]
  let overwrite := action == some "OVERWRITE"
  let localWord ← keyword "LOCAL"
  if ← keyword "DIRECTORY" then insertFiles g overwrite localWord
  else
    let tableWord ← keyword "TABLE"
    let table ← objectName
    let columns ← columnNamesIfAny
    let partition ← behind "PARTITION" (inParens (list (g.expr 0)))
    -- the second list is why a source in parentheses is not understood
    let moreColumns ← columnNamesIfAny
    let source ← g.query
    let conflict ← behind "ON" (conflict g)
    let returning ← returning g
    return .insert {
      overwrite, intoWord := action == some "INTO", tableWord, table, columns,
      partition := partition.getD [], moreColumns, source, conflict, returning }

/-- An `UPDATE` behind its word. -/
def update (g : Grammar) : Parser Statement := do
  let table ← g.tables
  expectWord "SET"
  let assignments ← list (assignment g)
  let source ← behind "FROM" g.tables
  let condition ← behind "WHERE" (g.expr 0)
  return .update table assignments source condition (← returning g)

/-- A `DELETE` behind its word. -/
def delete (g : Grammar) : Parser Statement := do
  expectWord "FROM"
  let table ← tableFactor g
  let source ← behind "USING" (tableFactor g)
  let condition ← behind "WHERE" (g.expr 0)
  return .delete table source condition (← returning g)

/-! ### Merging -/

/-- A condition behind the word `AND`, if it is next. -/
def mergeCondition (g : Grammar) : Phrase :=
  Phrase.behind ["AND"] (Phrase.expr g)

/-- What a `MERGE` does with the rows of the source, at most `n` rules: rows that have a partner are
changed or deleted, others are inserted. The rules go on up to the end of the statement. -/
def mergeRules (g : Grammar) : Nat → Parser (List String)
  | 0 => return []
  | n + 1 => do
    if (← atEnd) || (← nextIs ";") then return []
    else
      expectWord "WHEN"
      let lacking ← keyword "NOT"
      expectWord "MATCHED"
      let condition ← mergeCondition g
      expectWord "THEN"
      let rule ← match lacking, ← oneOf ["UPDATE", "INSERT", "DELETE"] with
        | false, some "UPDATE" => do
          expectWord "SET"
          let assignments ← list (assignment g)
          pure ("WHEN MATCHED" ++ condition ++ " THEN UPDATE"
            ++ renderAssignments assignments)
        | false, some "DELETE" => pure ("WHEN MATCHED" ++ condition ++ " THEN DELETE")
        | true, some "INSERT" => do
          let columns ← columnNamesIfAny
          expectWord "VALUES"
          let values ← values g
          pure ("WHEN NOT MATCHED" ++ condition ++ " THEN INSERT " ++ renderColumns columns ++ " "
            ++ values.render)
        | _, _ => failure
      return rule :: (← mergeRules g n)

/-- A `MERGE` behind its word. -/
def merge (g : Grammar) : Phrase := do
  let into ← Phrase.words ["INTO"]
  let table ← tableFactor g
  expectWord "USING"
  let source ← tableFactor g
  expectWord "ON"
  let condition ← Phrase.expr g
  let rules ← mergeRules g ((← get).length + 1)
  return "MERGE" ++ into ++ " " ++ table.render ++ " USING " ++ source.render ++ " ON " ++ condition
    ++ " " ++ " ".intercalate rules

end Prepared.Sql.Parser
