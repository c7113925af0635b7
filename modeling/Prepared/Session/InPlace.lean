import Prepared.Session.Basic

/-!
# Sessions that are changed in place

The operations of a session as steps on the one that is there. A step writes to the session as it
goes, and if it fails what it has written stays: nothing is taken back. So where a check stands
decides what a failure leaves behind. Adding a table first counts the change and then writes the
table; forgetting a statement takes it away before it is known whether there was one.
-/

namespace Prepared

open Sql

/-- A step on a session: it may fail, and what it has written until then stays. -/
abbrev Session.Call := ExceptT SessionError (StateM Session)

namespace Session.InPlace

variable {α : Type}

/-! ### Reading and writing -/

/-- A step that does nothing but succeed or fail. -/
def ofResult (x : Except SessionError α) : Call α :=
  fun s => (x, s)

def current : Call Session :=
  fun s => (.ok s, s)

def write (f : Session → Session) : Call Unit :=
  fun s => (.ok (), f s)

/-! ### Operations -/

/-- Adds a table to the catalog: the change is counted, and then the table is put under its name. -/
def addTable (table : Table) (ifNotExists : Bool) : Call Unit := do
  let s ← current
  if s.catalog.tables.contains table.name then
    if ifNotExists then return () else throw (.catalog (.tableExists table.name))
  else
    write fun s => { s with catalog := { s.catalog with version := s.catalog.version + 1 } }
    write fun s =>
      { s with catalog := { s.catalog with tables := s.catalog.tables.insert table.name table } }

def createTable (t : CreateTable) : Call Unit := do
  let name ← ofResult ((tableName t.name).mapError .bind)
  let columns ← ofResult ((columnsOfDefs t.columns).mapError .bind)
  let table ← ofResult ((Table.ofColumns name columns).mapError .catalog)
  addTable table t.ifNotExists

def prepare (name : String) (statement : Statement) (declared : List SqlType) :
    Call PreparedStatement := do
  let s ← current
  if s.statements.contains name then throw (.duplicatePrepared name)
  else
    match analyze s.catalog (initialParams s.config declared) statement with
    | (.ok description, params) =>
      let p : PreparedStatement := ⟨name, statement, params.types?.getD [], description⟩
      write fun s => { s with statements := s.statements.insert name p }
      return p
    | (.error e, _) => throw (.bind e)

/-- An execution only reads. -/
def execute (name : String) (args : List Value) : Call Execution := do
  let s ← current
  ofResult (s.execute name args)

/-- Takes away what is prepared under `name`, and then fails if nothing was. -/
def deallocate (name : String) : Call Unit := do
  let s ← current
  write fun s => { s with statements := s.statements.erase name }
  if s.statements.contains name then return () else throw (.missingPrepared name)

def deallocateAll : Call Unit :=
  write Session.deallocateAll

/-! ### Statements -/

def describe (statement : Statement) : Call Outcome := do
  let s ← current
  match (analyze s.catalog ParamTypes.absent statement).1 with
  | .ok description => return .described description
  | .error e => throw (.bind e)

def runStatement (statement : Statement) : Call Outcome := do
  match statement with
  | .createTable t =>
    createTable t
    return .command "CREATE TABLE"
  | .prepare name types statement =>
    let declared ← ofResult ((typesOf types).mapError .type)
    let p ← prepare name.folded statement declared
    return .prepared p
  | .execute name args =>
    let values ← ofResult (evalConstants args)
    let e ← execute name.folded values
    return .executed e
  | .deallocate name _ =>
    if isAll name then
      deallocateAll
      return .command "DEALLOCATE ALL"
    else
      deallocate name.folded
      return .command "DEALLOCATE"
  | statement => describe statement

/-- Statements one after the other, up to the first that fails. -/
def runStatements : List Statement → Call (List Outcome)
  | [] => return []
  | statement :: rest => do
    let outcome ← runStatement statement
    return outcome :: (← runStatements rest)

def run (sql : String) : Call (List Outcome) :=
  match Statement.parse? sql with
  | none => throw .notSql
  | some [] => throw .noStatement
  | some statements => runStatements statements

end Session.InPlace

end Prepared
