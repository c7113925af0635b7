import Prepared.Analysis.Query
import Prepared.Sql.Printer.Statement

/-!
# Typing statements

A query has the names and types of its columns; a statement that changes rows has none, but its
expressions must fit the columns of the table. `analyze` asks in the end that every parameter has a
type.
-/

namespace Prepared

open Sql BindM

variable {σ : Type} [ParamHook σ]

/-- The names and types of the columns that a statement gives. -/
structure Description where
  names : List String
  types : List SqlType
  deriving Repr, DecidableEq

/-- The description of a statement without columns. -/
def Description.empty : Description := ⟨[], []⟩

/-! ### Changes of rows -/

/-- The types of the columns that an `INSERT` names. -/
def namedColumnTypes (table : Table) (name : String) : List Ident → Except BindError (List SqlType)
  | [] => .ok []
  | column :: columns =>
    match table.column? column.folded with
    | some c => do return c.type :: (← namedColumnTypes table name columns)
    | none => .error (.columnNotInTable column.folded name)

/-- The types of the columns that an `INSERT` fills: those that it names, or all. -/
def insertTypes (table : Table) (name : String) (columns : List Ident) :
    Except BindError (List SqlType) :=
  if columns.isEmpty then .ok (table.columns.map (·.type)) else namedColumnTypes table name columns

/-- An `INSERT`: its source has the types of the columns that it fills. -/
def bindInsert (catalog : Catalog) (i : Insert) : Walk σ Unit := do
  let name ← ofResult (tableName i.table)
  let table ← ofCatalog (catalog.table name)
  let types ← ofResult (insertTypes table name i.columns)
  let _ ← bindQuery catalog (some types) i.source

/-- The new values of columns, each of which fits its column. -/
def bindAssignments (catalog : Catalog) (table : Table) (name : String) :
    List Assignment → Walk σ Unit
  | [] => return ()
  | a :: as => do
    match a.target.getLast? with
    | none => throw .emptyAssignmentTarget
    | some target =>
      match table.column? target.folded with
      | none => throw (.columnNotInTable target.folded name)
      | some column =>
        let _ ← (← bindExpr catalog a.value).coerce column.type
        bindAssignments catalog table name as

/-- The table that joined tables begin with. -/
def leftmost : TableRef → TableRef
  | .join left _ _ _ _ => leftmost left
  | t => t

/-- The name of the table that an `UPDATE` changes. -/
def updatedName (t : TableRef) : Except BindError String :=
  match leftmost t with
  | .table name _ _ _ _ => tableName name
  | t => .error (.unsupportedStatement t.render)

/-- Adds the table that an `UPDATE` takes values from, if there is one. -/
def bindSource (catalog : Catalog) : Option TableRef → Walk σ Unit
  | some t => bindTableRef catalog t
  | none => return ()

/-- An `UPDATE`. -/
def bindUpdate (catalog : Catalog) (table : TableRef) (assignments : List Assignment)
    (source : Option TableRef) (condition : Option Expr) : Walk σ Unit :=
  withScope do
    let name ← ofResult (updatedName table)
    bindTableRef catalog table
    bindSource catalog source
    bindCondition catalog condition
    let target ← ofCatalog (catalog.table name)
    bindAssignments catalog target name assignments

/-- A `DELETE`. -/
def bindDelete (catalog : Catalog) (table : TableRef) (condition : Option Expr) : Walk σ Unit :=
  withScope do
    bindTableRef catalog table
    bindCondition catalog condition

/-! ### Statements -/

/-- The columns that a statement gives. -/
def bindStatement (catalog : Catalog) (s : Statement) : Walk σ Description := do
  match s with
  | .query q =>
    let output ← bindQuery catalog none q
    return ⟨output.names, output.types⟩
  | .insert i =>
    bindInsert catalog i
    return .empty
  | .update table assignments source condition _ =>
    bindUpdate catalog table assignments source condition
    return .empty
  | .delete table _ condition _ =>
    bindDelete catalog table condition
    return .empty
  | s => throw (.unsupportedStatement s.render)

/-- Asks that every parameter has a type. -/
def checkParams : Walk σ Unit :=
  fun s => (ParamHook.check s.params, s)

/-- The columns that a statement gives, once all its parameters have types. -/
def analyzeStatement (catalog : Catalog) (s : Statement) : Walk σ Description := do
  let description ← bindStatement catalog s
  checkParams
  return description

/-- The columns that a statement gives on its own, and what is known of its parameters then. -/
def analyze (catalog : Catalog) (params : σ) (s : Statement) : Except BindError Description × σ :=
  let (result, state) := analyzeStatement catalog s (.initial params)
  (result, state.params)

/-- The columns that each of several statements gives. They share the state: what one has found
about a parameter, or only found before it failed, holds for the next. -/
def analyzeAll (catalog : Catalog) :
    List Statement → WalkState σ → List (Except BindError Description) × WalkState σ
  | [], state => ([], state)
  | s :: ss, state =>
    let (result, state) := analyzeStatement catalog s state
    let (results, state) := analyzeAll catalog ss state
    (result :: results, state)

end Prepared
