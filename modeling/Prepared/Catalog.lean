import Prepared.NameMap
import Prepared.SqlType.Basic

/-!
# The catalog

The tables that a session knows. A table has columns with distinct names, which are looked up by way
of their positions; the catalog keeps the tables under their names and counts the changes that were
made to it.
-/

namespace Prepared

/-- A column of a table. -/
structure Column where
  name : String
  type : SqlType
  deriving Repr, DecidableEq

/-- Why the catalog cannot give or take a table. -/
inductive CatalogError where
  | tableExists (name : String)
  | tableMissing (name : String)
  | duplicateColumn (table column : String)
  deriving Repr, DecidableEq

/-- The wording of an error. -/
def CatalogError.message : CatalogError → String
  | tableExists name => "CatalogEntry: " ++ name ++ " already exists"
  | tableMissing name => "CatalogEntry: " ++ name ++ " not exists"
  | duplicateColumn table column => "duplicate column " ++ column ++ " in table " ++ table

/-! ### Tables -/

/-- A table: its name, its columns, and the positions of the columns under their names. -/
structure Table where
  name : String
  columns : List Column
  positions : NameMap Nat

namespace Table

/-- Adds columns to the positions of those before them, of which there are `count`. The first with a
name that is taken is refused. -/
def index (table : String) (positions : NameMap Nat) (count : Nat) :
    List Column → Except CatalogError (NameMap Nat)
  | [] => .ok positions
  | c :: cs =>
    if positions.contains c.name then .error (.duplicateColumn table c.name)
    else index table (positions.insert c.name count) (count + 1) cs

/-- A table with the given columns, refused if two of them have one name. -/
def ofColumns (name : String) (columns : List Column) : Except CatalogError Table := do
  let positions ← index name .empty 0 columns
  return ⟨name, columns, positions⟩

/-- The position of the column called `name`. -/
def position? (t : Table) (name : String) : Option Nat :=
  t.positions.find? name

/-- The column called `name`. -/
def column? (t : Table) (name : String) : Option Column :=
  (t.position? name).bind fun i => t.columns[i]?

end Table

/-! ### Catalogs -/

/-- The tables under their names, and the number of changes so far. -/
structure Catalog where
  tables : NameMap Table
  version : Nat

namespace Catalog

/-- The catalog without tables. -/
def empty : Catalog := ⟨.empty, 0⟩

/-- Adds a table. If there is one of its name already, that is an error unless `ifNotExists`, when
nothing changes. -/
def createTable (c : Catalog) (table : Table) (ifNotExists : Bool) : Except CatalogError Catalog :=
  if c.tables.contains table.name then
    if ifNotExists then .ok c else .error (.tableExists table.name)
  else .ok ⟨c.tables.insert table.name table, c.version + 1⟩

/-- The table called `name`. -/
def table (c : Catalog) (name : String) : Except CatalogError Table :=
  match c.tables.find? name with
  | some table => .ok table
  | none => .error (.tableMissing name)

end Catalog

end Prepared
