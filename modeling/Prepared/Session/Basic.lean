import Prepared.Analysis.Statement
import Prepared.Param.Substitute
import Prepared.Session.Constant
import Prepared.Sql.Parser.Grammar

/-!
# Sessions

A session knows tables and prepared statements. A statement that creates a table, prepares, executes
or forgets a statement is carried out; any other is only described. An operation that fails has no
session to go on with, so the caller keeps the one from before: nothing of a failed operation stays.
-/

namespace Prepared

open Sql

/-- How a session treats parameters. -/
structure Config where
  /-- Whether types of parameters that are not declared are found from their use. -/
  variableParams : Bool
  /-- The largest number of a parameter. -/
  maxParams : Nat
  deriving Repr, DecidableEq

/-- Types are found, for as many parameters as possible. -/
def Config.default : Config := ⟨true, ParamTypes.defaultLimit⟩

/-- A statement that is kept under a name. -/
structure PreparedStatement where
  name : String
  statement : Statement
  paramTypes : List SqlType
  /-- The columns that the statement gives. -/
  description : Description

/-- The parameters of a prepared statement with values. -/
def PreparedStatement.bind (p : PreparedStatement) (values : List Value) :
    Except SessionError (List Param) :=
  (bindValues p.paramTypes values (values.map Value.isNull)).mapError .param

/-- A prepared statement with values for its parameters. -/
structure Execution where
  name : String
  /-- The text of the statement with the values in place. -/
  sql : String
  params : RowSet

/-- What comes of a statement. -/
inductive Outcome where
  /-- The statement was carried out, which is all there is to say. -/
  | command (tag : String)
  | prepared (statement : PreparedStatement)
  | executed (execution : Execution)
  | described (description : Description)

/-- The tables and the prepared statements under their names. -/
structure Session where
  config : Config
  catalog : Catalog
  statements : NameMap PreparedStatement

namespace Session

/-- A session that knows nothing yet. -/
def new (config : Config) : Session :=
  ⟨config, .empty, .empty⟩

/-! ### Prepared statements -/

/-- The statement that is prepared under `name`. -/
def prepared (s : Session) (name : String) : Except SessionError PreparedStatement :=
  match s.statements.find? name with
  | some p => .ok p
  | none => .error (.missingPrepared name)

/-- What is known about the parameters of a statement before it is analyzed. -/
def initialParams (config : Config) (declared : List SqlType) : ParamTypes :=
  if config.variableParams then .inferred declared config.maxParams else .declared declared

/-- Analyzes a statement and keeps it under `name`. -/
def prepare (s : Session) (name : String) (statement : Statement) (declared : List SqlType) :
    Except SessionError (PreparedStatement × Session) :=
  if s.statements.contains name then .error (.duplicatePrepared name)
  else
    match analyze s.catalog (initialParams s.config declared) statement with
    | (.ok description, params) =>
      let p : PreparedStatement := ⟨name, statement, params.types?.getD [], description⟩
      .ok (p, { s with statements := s.statements.insert name p })
    | (.error e, _) => .error (.bind e)

/-- The prepared statement called `name` with values for its parameters. -/
def execute (s : Session) (name : String) (args : List Value) : Except SessionError Execution := do
  let p ← s.prepared name
  if args.length ≠ p.paramTypes.length then
    throw (.parameterCount name p.paramTypes.length args.length)
  let params ← p.bind args
  let sql ← (substitute params p.statement.render).mapError .param
  return ⟨name, sql, paramRow params⟩

/-- Forgets the prepared statement called `name`. -/
def deallocate (s : Session) (name : String) : Except SessionError Session :=
  if s.statements.contains name then .ok { s with statements := s.statements.erase name }
  else .error (.missingPrepared name)

/-- Forgets all prepared statements. -/
def deallocateAll (s : Session) : Session :=
  { s with statements := .empty }

/-! ### Statements -/

/-- The types that written types stand for. -/
def typesOf : List DataType → Except TypeError (List SqlType)
  | [] => .ok []
  | d :: ds => do
    let t ← SqlType.ofDataType d
    return t :: (← typesOf ds)

/-- The columns that a `CREATE TABLE` defines. -/
def columnsOfDefs : List ColumnDef → Except BindError (List Column)
  | [] => .ok []
  | d :: ds => do
    let type ← (SqlType.ofDataType d.type).mapError .type
    return ⟨d.name.folded, type⟩ :: (← columnsOfDefs ds)

/-- Creates the table of a `CREATE TABLE`. -/
def createTable (s : Session) (t : CreateTable) : Except SessionError Session := do
  let name ← (tableName t.name).mapError .bind
  let columns ← (columnsOfDefs t.columns).mapError .bind
  let table ← (Table.ofColumns name columns).mapError .catalog
  let catalog ← (s.catalog.createTable table t.ifNotExists).mapError .catalog
  return { s with catalog }

/-- Whether a name stands for all prepared statements. -/
def isAll (name : Ident) : Bool :=
  name.quote.isNone && Text.lowerAscii name.value = "all"

/-- Carries out a statement, or describes it. -/
def runStatement (s : Session) (statement : Statement) :
    Except SessionError (Outcome × Session) := do
  match statement with
  | .createTable t => return (.command "CREATE TABLE", ← s.createTable t)
  | .prepare name types statement =>
    let declared ← (typesOf types).mapError .type
    let (p, s) ← s.prepare name.folded statement declared
    return (.prepared p, s)
  | .execute name args =>
    let values ← evalConstants args
    return (.executed (← s.execute name.folded values), s)
  | .deallocate name _ =>
    if isAll name then return (.command "DEALLOCATE ALL", s.deallocateAll)
    else return (.command "DEALLOCATE", ← s.deallocate name.folded)
  | statement =>
    match (analyze s.catalog ParamTypes.absent statement).1 with
    | .ok description => return (.described description, s)
    | .error e => throw (.bind e)

/-- Carries out statements up to the first that fails. What came before it stays. -/
def runStatements (s : Session) : List Statement → Except SessionError (List Outcome) × Session
  | [] => (.ok [], s)
  | statement :: rest =>
    match s.runStatement statement with
    | .error e => (.error e, s)
    | .ok (outcome, s) =>
      let (outcomes, s) := s.runStatements rest
      (outcomes.map (outcome :: ·), s)

/-- Carries out the statements of a text. -/
def run (s : Session) (sql : String) : Except SessionError (List Outcome) × Session :=
  match Statement.parse? sql with
  | none => (.error .notSql, s)
  | some [] => (.error .noStatement, s)
  | some statements => s.runStatements statements

end Session

/-! ### Outcomes as rows -/

/-- Names and types as rows, under the word for what is named. -/
def describeRows (label : String) (names : List String) (types : List SqlType) : RowSet where
  fields := [⟨label, .utf8, false⟩, ⟨"type", .utf8, false⟩]
  rows := List.zipWith (fun name type => [some (.text name), some (.text type.name)]) names types

/-- The rows that show an outcome. -/
def Outcome.rows? : Outcome → Option RowSet
  | command _ => none
  | prepared p => some (describeRows "parameter" (paramNames p.paramTypes.length) p.paramTypes)
  | executed e => some e.params
  | described d => some (describeRows "column" d.names d.types)

end Prepared
