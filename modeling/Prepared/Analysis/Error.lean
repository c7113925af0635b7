import Prepared.Catalog
import Prepared.SqlType.Error

/-!
# Errors of the analysis
-/

namespace Prepared

/-- Why a statement has no types. -/
inductive BindError where
  /-- A parameter with a number that the statement cannot have. -/
  | noSuchParameter (number : Nat)
  /-- A placeholder that is no number behind a dollar sign. -/
  | invalidParameterReference (text : String)
  /-- A parameter that is wanted with two types. -/
  | inconsistentParameterTypes (number : Nat) (previous current : SqlType)
  /-- A parameter for which nothing has decided the type. -/
  | undeterminedParameterType (number : Nat)
  /-- An expression of a type that does not fit where it stands. -/
  | cannotCoerce (source target : SqlType)
  /-- A form of expression, or an operator, that has no type here. -/
  | unsupportedExpr (text : String)
  /-- A statement, or a part of a query, that has no types here. -/
  | unsupportedStatement (text : String)
  /-- A name with qualifiers that no table has. -/
  | unsupportedName (text : String)
  /-- Two tables of one query level with the same name. -/
  | duplicateTable (name : String)
  /-- A column of a table that is not visible. -/
  | missingTable (name : String)
  /-- A column that several tables of a query level have. -/
  | ambiguousColumn (name : String)
  /-- A column that no visible table has. -/
  | columnNotFound (name : String)
  /-- A column that the table under this name in the query does not have. -/
  | columnNotInBinding (column table : String)
  /-- A column that the table under this name in the catalog does not have. -/
  | columnNotInTable (column table : String)
  /-- All columns of a query without tables. -/
  | starWithoutTables
  /-- A query in the place of a table that has no name. -/
  | derivedTableWithoutAlias
  /-- A table outside of every query. -/
  | noQueryLevel
  /-- Two queries with different numbers of columns, combined. -/
  | setOperationWidths (left right : Nat)
  /-- Rows of values with different numbers of columns. -/
  | valuesWidths
  /-- A source with another number of columns than it is to fill. -/
  | insertWidths (expected actual : Nat)
  /-- A query in the place of a value that has not one column. -/
  | subqueryWidth
  /-- A new value for no column. -/
  | emptyAssignmentTarget
  /-- An error of a type or a value. -/
  | type (error : TypeError)
  /-- An error of the catalog. -/
  | catalog (error : CatalogError)
  deriving Repr, DecidableEq

/-- What is wrong with the tables, the columns or the shape of a query, if that is what is wrong. -/
def BindError.structural? : BindError → Option String
  | duplicateTable name => some ("table name " ++ name ++ " specified more than once")
  | missingTable name => some ("missing FROM-clause entry for table " ++ name)
  | ambiguousColumn name => some ("Ambiguous column name " ++ name)
  | columnNotFound name => some ("column not found: " ++ name)
  | columnNotInBinding column table => some ("Column " ++ column ++ " not found in table " ++ table)
  | columnNotInTable column table => some ("column " ++ column ++ " not found in table " ++ table)
  | starWithoutTables => some "SELECT * with no tables specified is not valid"
  | derivedTableWithoutAlias => some "subquery in FROM must have an alias"
  | noQueryLevel => some "no query level to bind into"
  | setOperationWidths left right =>
    some ("each set operation query must have the same number of columns, " ++ toString left
      ++ " versus " ++ toString right)
  | valuesWidths => some "VALUES lists must all be the same length"
  | insertWidths expected actual =>
    some ("insert column count mismatch, expected: " ++ toString expected ++ ", actual: "
      ++ toString actual)
  | subqueryWidth => some "subquery must return only one column"
  | emptyAssignmentTarget => some "empty assignment target"
  | _ => none

/-- The wording of an error. -/
def BindError.message (e : BindError) : String :=
  match e with
  | noSuchParameter number => "there is no parameter $" ++ toString number
  | invalidParameterReference text => "invalid parameter reference: " ++ text
  | inconsistentParameterTypes number previous current =>
    "inconsistent types deduced for parameter $" ++ toString number ++ ": " ++ previous.name
      ++ " versus " ++ current.name
  | undeterminedParameterType number =>
    "could not determine data type of parameter $" ++ toString number
  | cannotCoerce source target => "cannot coerce " ++ source.name ++ " to " ++ target.name
  | unsupportedExpr text => "unsupported expr: " ++ text
  | unsupportedStatement text => "unsupported statement: " ++ text
  | unsupportedName text => "sqlparser unsupported statement: " ++ text
  | type error => "type error: " ++ error.message
  | catalog error => "catalog error: " ++ error.message
  | e => "bind internal error: " ++ e.structural?.getD ""

end Prepared
