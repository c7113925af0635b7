import Prepared.Sql.Outline.Expr
import Prepared.Sql.Printer.Statement

/-!
# Outlines of statements in the place of a query

The constructors and their fields are those of the syntax tree of the package `sqlparser` 0.28.
-/

namespace Prepared.Sql

/-- The new value of a column. -/
def Assignment.outline (a : Assignment) : Outline :=
  .record "Assignment" [.field "id" (identsOutline a.target), .field "value" a.value.outline]

/-- A list of new values of columns. -/
def assignmentsOutline (assignments : List Assignment) : Outline :=
  .list (assignments.map Assignment.outline)

/-- What an `INSERT` does with a row that is there already. -/
def Conflict.outline : Conflict → Outline
  | nothing target => onConflict target (.atom "DoNothing")
  | update target assignments condition =>
    onConflict target (.node "DoUpdate" [.record "DoUpdate" [
      .field "assignments" (assignmentsOutline assignments),
      .field "selection" (.option (outlineOption condition))]])
  | duplicateKey assignments => .node "DuplicateKeyUpdate" [assignmentsOutline assignments]
where
  /-- The columns that tell whether a row is there already, with what is done then. -/
  onConflict (target : List Ident) (action : Outline) : Outline :=
    .node "OnConflict" [.record "OnConflict" [
      .field "conflict_target" (identsOutline target), .field "action" action]]

/-- A list that is missing if it is empty. -/
def unlessEmpty (items : List Outline) : Outline :=
  .option (if items.isEmpty then none else some (.list items))

/-- An `INSERT`. -/
def Insert.outline (i : Insert) : Outline :=
  .record "Insert" [
    .field "or" (.atom "None"),
    .field "into" (.bool i.intoWord),
    .field "table_name" (ObjectName.outline i.table),
    .field "columns" (identsOutline i.columns),
    .field "overwrite" (.bool i.overwrite),
    .field "source" i.source.outline,
    .field "partitioned" (unlessEmpty (outlines i.partition)),
    .field "after_columns" (identsOutline i.moreColumns),
    .field "table" (.bool i.tableWord),
    .field "on" (.ofOption Conflict.outline i.conflict),
    .field "returning" (unlessEmpty (outlineItems i.returning))]

/-- An `INSERT` into files. -/
def FileInsert.outline (i : FileInsert) : Outline :=
  .record "Directory" [
    .field "overwrite" (.bool i.overwrite),
    .field "local" (.bool i.localWord),
    .field "path" (.text i.path),
    .field "file_format" (.ofOption (fun format => .atom format.render) i.format),
    .field "source" i.source.outline]

/-- A statement in the place of a query. Only an `INSERT` can stand there. -/
def Statement.outline : Statement → Outline
  | insert i => .node "Insert" [i.outline]
  | insertFiles i => .node "Insert" [i.outline]
  | s => .atom s.render

end Prepared.Sql
