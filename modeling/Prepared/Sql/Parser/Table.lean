import Prepared.Sql.Parser.Change

/-!
# Parsing new tables and views

The productions follow those of the package `sqlparser` 0.28 (`PostgreSqlDialect`).
-/

namespace Prepared.Sql.Parser

/-! ### Columns -/

/-- What happens to rows that refer to one that goes away or changes, as it is written. -/
def referentialAction : Parser String := do
  match ← oneOf ["RESTRICT", "CASCADE", "SET", "NO"] with
  | some "SET" =>
    match ← oneOf ["NULL", "DEFAULT"] with
    | some word => return "SET " ++ word
    | none => failure
  | some "NO" =>
    expectWord "ACTION"
    return "NO ACTION"
  | some word => return word
  | none => failure

/-- The actions on deletion and on update, as they are written, in either order. -/
def referentialActions : Parser String := do
  let first ← onEvent "DELETE"
  let update ← onEvent "UPDATE"
  let delete ← if first.isEmpty then onEvent "DELETE" else pure first
  return delete ++ update
where
  /-- The action on one event. -/
  onEvent (event : String) : Parser String := do
    if ← wordsInOrder ["ON", event] then return " ON " ++ event ++ " " ++ (← referentialAction)
    else return ""

/-- An option of a column, if one is next. -/
def columnOption? (g : Grammar) : Parser (Option ColumnOption) := do
  if ← wordsInOrder ["CHARACTER", "SET"] then return some (.characterSet (← objectName))
  else if ← wordsInOrder ["NOT", "NULL"] then return some .notNull
  else if ← keyword "COMMENT" then return some (.comment (← quotedText))
  else if ← keyword "NULL" then return some .null
  else if ← keyword "DEFAULT" then return some (.default (← g.expr 0))
  else if ← wordsInOrder ["PRIMARY", "KEY"] then return some (.unique true)
  else if ← keyword "UNIQUE" then return some (.unique false)
  else if ← keyword "REFERENCES" then
    let table ← objectName
    let columns ← columnNamesIfAny
    return some (.references table columns (← referentialActions))
  else if ← keyword "CHECK" then return some (.check (← inParens (g.expr 0)))
  else
    -- words without a meaning here, behind which no option is looked for
    let _ ← keyword "AUTO_INCREMENT"
    let _ ← keyword "AUTOINCREMENT"
    let _ ← wordsInOrder ["ON", "UPDATE"]
    return none

/-- The options of a column, at most `n`. -/
def columnOptions (g : Grammar) : Nat → Parser (List (Option Ident × ColumnOption))
  | 0 => return []
  | n + 1 => do
    let name ← behind "CONSTRAINT" ident
    match ← columnOption? g with
    | some option => return (name, option) :: (← columnOptions g n)
    | none => if name.isSome then failure else return []

/-- A column of a new table. A collation may be given, but is not kept. -/
def columnDef (g : Grammar) : Parser ColumnDef := do
  let name ← ident
  let type ← g.dataType
  let _ ← behind "COLLATE" objectName
  return ⟨name, type, ← columnOptions g (← get).length⟩

/-- A condition on the rows of a new table, if one is next. -/
def tableConstraint? (g : Grammar) : Parser (Option TableConstraint) := do
  let name ← behind "CONSTRAINT" ident
  match ← oneOf ["PRIMARY", "UNIQUE", "FOREIGN", "CHECK"] with
  | some "PRIMARY" =>
    expectWord "KEY"
    return some (.unique name true (← columnNames))
  | some "UNIQUE" => return some (.unique name false (← columnNames))
  | some "FOREIGN" =>
    expectWord "KEY"
    let columns ← columnNames
    expectWord "REFERENCES"
    let table ← objectName
    let referred ← columnNames
    return some (.foreignKey name columns table referred (← referentialActions))
  | some _ => return some (.check name (← inParens (g.expr 0)))
  | none => if name.isSome then failure else return none

/-- The columns and constraints of a new table behind the opening parenthesis, at most `n`. A comma
may stand behind the last one. -/
def tableElements (g : Grammar) : Nat → Parser (List ColumnDef × List TableConstraint)
  | 0 => failure
  | n + 1 => do
    let element ← tableConstraint? g
    let (columns, constraints) ← match element with
      | some constraint => pure ([], [constraint])
      | none => do
        match ← peek? with
        | some (.word _) => pure ([← columnDef g], [])
        | _ => failure
    let comma ← symbol ","
    if ← symbol ")" then return (columns, constraints)
    else if comma then
      let (moreColumns, moreConstraints) ← tableElements g n
      return (columns ++ moreColumns, constraints ++ moreConstraints)
    else failure

/-- The columns and constraints of a new table in parentheses, or none. -/
def tableParts (g : Grammar) : Parser (List ColumnDef × List TableConstraint) := do
  if ← symbol "(" then
    if ← symbol ")" then return ([], []) else tableElements g ((← get).length + 1)
  else return ([], [])

/-! ### Options of tables -/

/-- The parts of a name behind its first one, or nothing where one is missing, at most `n`. -/
def looseQualifiers : Nat → Parser (Option (List Ident))
  | 0 => return some []
  | n + 1 => do
    if ← symbol "." then
      match ← looseIdent with
      | some i => return (← looseQualifiers n).map (i :: ·)
      | none => return none
    else return some []
where
  /-- The name that the next token is, or nothing. The token is taken. -/
  looseIdent : Parser (Option Ident) := do
    match ← anyToken? with
    | some (.word i) => return some i
    | some (.singleQuoted text) => return some ⟨text, some '\''⟩
    | _ => return none

/-- A name with its qualifiers. Where a part of it is missing there is no name, and the token in its
place is passed over. -/
def looseName : Parser (Option ObjectName) := do
  match ← looseQualifiers.looseIdent with
  | some first => return (← looseQualifiers (← get).length).map (first :: ·)
  | none => return none

/-- The name of a table that gives the columns of a new one, behind its word. -/
def modelTable (words : List String) : Parser (Option ObjectName) := do
  match ← oneOf words with
  | some _ => looseName
  | none => return none

/-- The name of a cluster: a text in quotes, or any word. -/
def clusterName : Parser String := do
  match ← token with
  | .singleQuoted text => return text
  | .word i => return (Token.word i).plain
  | _ => failure

/-- Where the rows of a table are, as far as it is said. -/
structure Placement where
  rowFormat : Option RowFormat
  storage : Option Storage
  location : Option String

/-- Where the rows of a table are, in at most `n` clauses, of which the last of a kind counts. -/
def placement (g : Grammar) (p : Placement) : Nat → Parser Placement
  | 0 => return p
  | n + 1 => do
    match ← oneOf ["ROW", "STORED", "LOCATION"] with
    | some "ROW" =>
      expectWord "FORMAT"
      let format ← match ← oneOf ["SERDE", "DELIMITED"] with
        | some "SERDE" => RowFormat.serde <$> literalText
        | _ => pure RowFormat.delimited
      placement g { p with rowFormat := some format } n
    | some "STORED" =>
      expectWord "AS"
      let storage ← do
        if ← keyword "INPUTFORMAT" then
          let input ← g.expr 0
          expectWord "OUTPUTFORMAT"
          pure (Storage.formats input (← g.expr 0))
        else Storage.file <$> fileFormat
      placement g { p with storage := some storage } n
    | some _ => placement g { p with location := some (← literalText) } n
    | none => return p

/-- The value of a setting behind an equals sign, which is a word. -/
def settingWord : Parser String := do
  expect "="
  match ← token with
  | .word i => return i.value
  | _ => failure

/-- What becomes of the rows of a table when a transaction ends. -/
def onCommit : Parser (Option OnCommit) := do
  if ← wordsInOrder ["ON", "COMMIT", "DELETE", "ROWS"] then return some .deleteRows
  else if ← wordsInOrder ["ON", "COMMIT", "PRESERVE", "ROWS"] then return some .preserveRows
  else if ← wordsInOrder ["ON", "COMMIT", "DROP"] then return some .drop
  else return none

/-- The columns that the rows of a table are parted by. -/
def partitionColumns (g : Grammar) : Parser (List ColumnDef) := do
  if ← wordsInOrder ["PARTITIONED", "BY"] then inParens (list (columnDef g)) else return []

/-! ### Statements -/

/-- A `CREATE TABLE` behind that word. What is said of how the rows are kept stands partly in front
of the query that gives them, and partly behind it. -/
def createTable (g : Grammar) (orReplace : Bool) (isGlobal : Option Bool) (temporary : Bool) :
    Parser Statement := do
  let ifNotExists ← wordsInOrder ["IF", "NOT", "EXISTS"]
  let name ← objectName
  let cluster ← if ← wordsInOrder ["ON", "CLUSTER"] then some <$> clusterName else pure none
  let like ← modelTable ["LIKE", "ILIKE"]
  let clone ← modelTable ["CLONE"]
  let (columns, constraints) ← tableParts g
  let withoutRowId ← wordsInOrder ["WITHOUT", "ROWID"]
  let partition ← partitionColumns g
  let placement ← placement g ⟨none, none, none⟩ (← get).length
  let settings ← Phrase.properties "WITH"
  let properties ← Phrase.properties "TBLPROPERTIES"
  let query ← behind "AS" g.query
  let engine ← behind "ENGINE" settingWord
  let characterSet ← do
    if ← wordsInOrder ["DEFAULT", "CHARSET"] then some <$> settingWord else pure none
  let collation ← behind "COLLATE" settingWord
  let onCommit ← onCommit
  return .createTable {
    orReplace, isExternal := false, isGlobal, temporary, ifNotExists, name, columns, constraints
    options := { placement with
      cluster, like, clone, withoutRowId, partition, settings, properties, query, engine,
      characterSet, collation, onCommit } }

/-- A `CREATE EXTERNAL TABLE` behind the word `EXTERNAL`. -/
def createExternalTable (g : Grammar) (orReplace : Bool) : Parser Statement := do
  expectWord "TABLE"
  let ifNotExists ← wordsInOrder ["IF", "NOT", "EXISTS"]
  let name ← objectName
  let (columns, constraints) ← tableParts g
  let partition ← partitionColumns g
  let placement ← placement g ⟨none, none, none⟩ (← get).length
  let properties ← Phrase.properties "TBLPROPERTIES"
  return .createTable {
    orReplace, isExternal := true, isGlobal := none, temporary := false, ifNotExists, name, columns
    constraints
    options := { placement with
      cluster := none, like := none, clone := none, withoutRowId := false, partition, settings := []
      properties, query := none, engine := none, characterSet := none, collation := none
      onCommit := none } }

/-- A `CREATE VIEW` behind that word. -/
def createView (g : Grammar) (orReplace materialized : Bool) : Parser Statement := do
  let name ← objectName
  let columns ← columnNamesIfAny
  let options ← Phrase.properties "WITH"
  let clusterBy ← do
    if ← keyword "CLUSTER" then
      expectWord "BY"
      columnNamesIfAny
    else pure []
  expectWord "AS"
  return .createView ⟨orReplace, materialized, name, columns, options, clusterBy, ← g.query⟩

end Prepared.Sql.Parser
