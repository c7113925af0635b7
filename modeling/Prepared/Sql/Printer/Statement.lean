import Prepared.Sql.Printer.Expr

/-!
# Text of statements

The texts follow those that the package `sqlparser` 0.28 writes.
-/

namespace Prepared.Sql

/-! ### Changes of rows -/

/-- The new value of a column. -/
def Assignment.render (a : Assignment) : String :=
  ObjectName.render a.target ++ " = " ++ a.value.render

/-- The new values of columns behind the word `SET`. -/
def renderAssignments (assignments : List Assignment) : String :=
  if assignments.isEmpty then ""
  else " SET " ++ commaSeparated (assignments.map Assignment.render)

/-- What a statement gives back of the rows that it changed. -/
def renderReturning (items : List SelectItem) : String :=
  if items.isEmpty then "" else " RETURNING " ++ commaSeparated (renderItems items)

/-- The columns that tell whether a row is there already. -/
def renderTarget (columns : List Ident) : String :=
  if columns.isEmpty then "" else renderColumns columns

/-- What an `INSERT` does with a row that is there already. -/
def Conflict.render : Conflict → String
  | nothing target => " ON CONFLICT" ++ renderTarget target ++ " DO NOTHING"
  | update target assignments condition =>
    " ON CONFLICT" ++ renderTarget target ++ " DO UPDATE" ++ renderAssignments assignments
      ++ renderOption " WHERE " condition
  | duplicateKey assignments =>
    " ON DUPLICATE KEY UPDATE " ++ commaSeparated (assignments.map Assignment.render)

/-- The expressions that name the parts of a table, behind a space, or nothing. -/
def renderPartition (parts : List Expr) : String :=
  if parts.isEmpty then "" else " PARTITION " ++ parenthesised (renderExprs parts)

/-- An `INSERT` as it is written. -/
def Insert.render (i : Insert) : String :=
  "INSERT" ++ (if i.overwrite then " OVERWRITE" else "") ++ (if i.intoWord then " INTO" else "")
    ++ (if i.tableWord then " TABLE" else "") ++ " " ++ ObjectName.render i.table
    ++ renderColumnsIfAny i.columns ++ renderPartition i.partition
    ++ renderColumnsIfAny i.moreColumns ++ " " ++ i.source.render
    ++ whenSome "" Conflict.render i.conflict ++ renderReturning i.returning

/-- The name of a format of files. -/
def FileFormat.render : FileFormat → String
  | textFile => "TEXTFILE"
  | sequenceFile => "SEQUENCEFILE"
  | orc => "ORC"
  | parquet => "PARQUET"
  | avro => "AVRO"
  | rcFile => "RCFILE"
  | jsonFile => "JSONFILE"

/-- An `INSERT` into files as it is written. -/
def FileInsert.render (i : FileInsert) : String :=
  "INSERT" ++ (if i.overwrite then " OVERWRITE" else "") ++ (if i.localWord then " LOCAL" else "")
    ++ " DIRECTORY '" ++ i.path ++ "'" ++ whenSome " STORED AS " FileFormat.render i.format ++ " "
    ++ i.source.render

/-! ### New tables and views -/

/-- What a column definition says besides the type. -/
def ColumnOption.render : ColumnOption → String
  | null => "NULL"
  | notNull => "NOT NULL"
  | default value => "DEFAULT " ++ value.render
  | unique primary => if primary then "PRIMARY KEY" else "UNIQUE"
  | references table columns actions =>
    "REFERENCES " ++ ObjectName.render table ++ renderColumnsIfAny columns ++ actions
  | check condition => "CHECK (" ++ condition.render ++ ")"
  | characterSet name => "CHARACTER SET " ++ ObjectName.render name
  | comment text => "COMMENT " ++ quoted '\'' text

/-- The name of a constraint, with the word that gives it. -/
def renderConstraintName : Option Ident → String
  | some name => "CONSTRAINT " ++ name.render ++ " "
  | none => ""

/-- A column of a new table. -/
def ColumnDef.render (c : ColumnDef) : String :=
  c.name.render ++ " " ++ c.type.render
    ++ String.join (c.options.map fun o => " " ++ renderConstraintName o.1 ++ o.2.render)

/-- A condition on the rows of a new table. -/
def TableConstraint.render : TableConstraint → String
  | unique name primary columns =>
    renderConstraintName name ++ (if primary then "PRIMARY KEY " else "UNIQUE ")
      ++ renderColumns columns
  | foreignKey name columns table referred actions =>
    renderConstraintName name ++ "FOREIGN KEY " ++ renderColumns columns ++ " REFERENCES "
      ++ ObjectName.render table ++ renderColumns referred ++ actions
  | check name condition => renderConstraintName name ++ "CHECK (" ++ condition.render ++ ")"

/-- A property with a name. -/
def Property.render (p : Property) : String :=
  p.name.render ++ " = " ++ p.value.render

/-- Properties in parentheses behind a word, or nothing. -/
def renderProperties (word : String) (properties : List Property) : String :=
  if properties.isEmpty then "" else word ++ parenthesised (properties.map Property.render)

/-- How the rows of a table are written to a file. -/
def RowFormat.render : RowFormat → String
  | serde name => " ROW FORMAT SERDE '" ++ name ++ "'"
  | delimited => " ROW FORMAT DELIMITED"

/-- Which files hold the rows of a table. -/
def Storage.render : Storage → String
  | formats input output =>
    " STORED AS INPUTFORMAT " ++ input.render ++ " OUTPUTFORMAT " ++ output.render
  | file format => " STORED AS " ++ format.render

/-- What becomes of the rows of a table when a transaction ends. -/
def OnCommit.render : OnCommit → String
  | deleteRows => " ON COMMIT DELETE ROWS"
  | preserveRows => " ON COMMIT PRESERVE ROWS"
  | drop => " ON COMMIT DROP"

/-- The name of a cluster, with its braces in quotes. -/
def renderCluster (name : String) : String :=
  " ON CLUSTER " ++ String.ofList (name.toList.flatMap fun c =>
    if c = '\x7b' then ['\'', '\x7b'] else if c = '\x7d' then ['\x7d', '\''] else [c])

/-- The options of a table behind its columns. -/
def TableOptions.render (o : TableOptions) : String :=
  (if o.withoutRowId then " WITHOUT ROWID" else "")
    ++ whenSome " LIKE " ObjectName.render o.like ++ whenSome " CLONE " ObjectName.render o.clone
    ++ (if o.partition.isEmpty then ""
      else " PARTITIONED BY " ++ parenthesised (o.partition.map ColumnDef.render))
    ++ whenSome "" RowFormat.render o.rowFormat ++ whenSome "" Storage.render o.storage
    ++ whenSome " LOCATION '" (· ++ "'") o.location
    ++ renderProperties " TBLPROPERTIES " o.properties ++ renderProperties " WITH " o.settings
    ++ whenSome " AS " Query.render o.query ++ whenSome " ENGINE=" id o.engine
    ++ whenSome " DEFAULT CHARSET=" id o.characterSet ++ whenSome " COLLATE=" id o.collation
    ++ whenSome "" OnCommit.render o.onCommit

/-- A `CREATE TABLE` as it is written. Without columns it has an empty list of them, unless they
come from elsewhere. -/
def CreateTable.render (t : CreateTable) : String :=
  let parts := t.columns.map ColumnDef.render ++ t.constraints.map TableConstraint.render
  "CREATE " ++ (if t.orReplace then "OR REPLACE " else "")
    ++ (if t.isExternal then "EXTERNAL " else "")
    ++ (match t.isGlobal with | some true => "GLOBAL " | some false => "LOCAL " | none => "")
    ++ (if t.temporary then "TEMPORARY " else "") ++ "TABLE "
    ++ (if t.ifNotExists then "IF NOT EXISTS " else "") ++ ObjectName.render t.name
    ++ whenSome "" renderCluster t.options.cluster
    ++ (if !parts.isEmpty then " " ++ parenthesised parts
      else if t.options.query.isNone && t.options.like.isNone && t.options.clone.isNone then " ()"
      else "")
    ++ t.options.render

/-- A `CREATE VIEW` as it is written. -/
def CreateView.render (v : CreateView) : String :=
  "CREATE " ++ (if v.orReplace then "OR REPLACE " else "")
    ++ (if v.materialized then "MATERIALIZED " else "") ++ "VIEW " ++ ObjectName.render v.name
    ++ renderProperties " WITH " v.options ++ renderColumnsIfAny v.columns
    ++ (if v.clusterBy.isEmpty then "" else " CLUSTER BY " ++ renderColumns v.clusterBy)
    ++ " AS " ++ v.query.render

/-! ### Statements -/

/-- A statement as it is written. -/
def Statement.render : Statement → String
  | query q => q.render
  | insert i => i.render
  | insertFiles i => i.render
  | update table assignments source condition returning =>
    "UPDATE " ++ table.render ++ renderAssignments assignments
      ++ whenSome " FROM " TableRef.render source ++ renderOption " WHERE " condition
      ++ renderReturning returning
  | delete table source condition returning =>
    "DELETE FROM " ++ table.render ++ whenSome " USING " TableRef.render source
      ++ renderOption " WHERE " condition ++ renderReturning returning
  | createTable t => t.render
  | createView v => v.render
  | prepare name types statement =>
    "PREPARE " ++ name.render ++ " "
      ++ (if types.isEmpty then "" else parenthesised (types.map DataType.render) ++ " ")
      ++ "AS " ++ statement.render
  | execute name args =>
    "EXECUTE " ++ name.render ++ if args.isEmpty then "" else parenthesised (renderExprs args)
  | deallocate name prepareWord =>
    "DEALLOCATE " ++ (if prepareWord then "PREPARE " else "") ++ name.render
  | explain words statement => words ++ statement.render
  | other text => text

end Prepared.Sql
