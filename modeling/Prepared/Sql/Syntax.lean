import Prepared.Sql.Outline

/-!
# SQL syntax

The statements of the dialect as data. Expressions that have a type in this library have a
constructor each; every other form of expression is a `Form` with the list of its operands, since
all that is ever asked of it is its text.

The statements are those that the package `sqlparser` 0.28 reads in its dialect `PostgreSqlDialect`.
-/

namespace Prepared.Sql

/-! ### Names, literals and types -/

/-- A word of the text, or a quoted name. -/
structure Ident where
  value : String
  quote : Option Char
  deriving Repr, DecidableEq, Inhabited

/-- A name with its qualifiers, such as `schema.table`. -/
abbrev ObjectName := List Ident

/-- A literal, or a placeholder for one. -/
inductive Literal where
  | number (text : String) (long : Bool)
  | singleQuoted (text : String)
  | doubleQuoted (text : String)
  | escaped (text : String)
  | national (text : String)
  | hex (text : String)
  | boolean (value : Bool)
  | null
  | placeholder (text : String)
  | bare (text : String)
  deriving Repr, DecidableEq, Inhabited

/-- The spellings of the integer types. -/
inductive IntegerWord where
  | tinyint
  | smallint
  | mediumint
  | int
  | integer
  | bigint
  deriving Repr, DecidableEq

/-- The unit in which the length of a character type is given. -/
inductive LengthUnit where
  | characters
  | octets
  deriving Repr, DecidableEq

/-- The length of a character type. -/
structure CharLength where
  length : Nat
  unit : Option LengthUnit
  deriving Repr, DecidableEq

/-- The spellings of the types of short texts. -/
inductive CharWord where
  | character
  | char
  | characterVarying
  | charVarying
  | varchar
  deriving Repr, DecidableEq

/-- The spellings of the types of long texts and of bytes. -/
inductive LargeWord where
  | characterLargeObject
  | charLargeObject
  | clob
  | binary
  | varbinary
  | blob
  deriving Repr, DecidableEq

/-- The spellings of the types of exact numbers. -/
inductive ExactWord where
  | numeric
  | decimal
  | dec
  deriving Repr, DecidableEq

/-- How the name of a type of points in time speaks of a zone. -/
inductive ZoneRule where
  /-- Not at all. -/
  | silent
  /-- `WITH TIME ZONE`. -/
  | zoned
  /-- `WITHOUT TIME ZONE`. -/
  | unzoned
  /-- The letters `TZ` at the end of the name. -/
  | suffix
  deriving Repr, DecidableEq

/-- A type as it is written. Only some of the built-in types have values here. -/
inductive DataType where
  | boolean
  | integer (word : IntegerWord) (width : Option Nat) (unsigned : Bool)
  | float (precision : Option Nat)
  | real
  | double
  | doublePrecision
  | exact (word : ExactWord) (precision scale : Option Nat)
  | char (word : CharWord) (length : Option CharLength)
  | nvarchar (length : Option Nat)
  | large (word : LargeWord) (length : Option Nat)
  | text
  | string
  | uuid
  | bytea
  | regclass
  | date
  | interval
  | datetime (precision : Option Nat)
  | time (precision : Option Nat) (zone : ZoneRule)
  | timestamp (precision : Option Nat) (zone : ZoneRule)
  | enumeration (texts : List String)
  | set (texts : List String)
  | custom (name : ObjectName) (modifiers : List String)
  | array (element : DataType)
  deriving Repr, DecidableEq

/-! ### Operators and forms -/

/-- An operator between two operands. -/
inductive BinaryOp where
  | eq
  | notEq
  | lt
  | ltEq
  | gt
  | gtEq
  | plus
  | minus
  | multiply
  | divide
  | modulo
  | and
  | or
  | concat
  | other (text : String)
  /-- `OPERATOR(..)` with the parts of the name of the operator. -/
  | custom (name : List String)
  deriving Repr, DecidableEq

/-- An operator with one operand. The factorial follows it, all others go before. -/
inductive UnaryOp where
  | not
  | plus
  | minus
  | factorial
  | other (text : String)
  deriving Repr, DecidableEq

/-- The two kinds of pattern matching. -/
inductive LikeKind where
  | like
  | ilike
  deriving Repr, DecidableEq

/-- The truth values that `IS` tests for. -/
inductive Truth where
  | isTrue
  | isFalse
  | isUnknown
  deriving Repr, DecidableEq

/-- The directions of an order: whether values grow, and whether nulls come first. -/
structure Direction where
  ascending : Option Bool
  nullsFirst : Option Bool
  deriving Repr, DecidableEq

/-- What the distance of a bound of a window is counted in. -/
inductive FrameUnit where
  | rows
  | range
  | groups
  deriving Repr, DecidableEq

/-- A bound of a window. Its distance, where it has one, is an operand. -/
inductive FrameBound where
  | currentRow
  | preceding (bounded : Bool)
  | following (bounded : Bool)
  deriving Repr, DecidableEq

/-- The rows of a window around the current one. -/
structure Frame where
  unit : FrameUnit
  start : FrameBound
  finish : Option FrameBound
  deriving Repr, DecidableEq

/-- The window that a function looks at. The expressions to partition by, those to order by, and
the distances of the bounds are the last operands of the function. -/
structure Window where
  partition : Nat
  order : List Direction
  frame : Option Frame
  deriving Repr, DecidableEq

/-- What is done about a list of texts that gets too long. A filler is an operand. -/
inductive Overflow where
  | error
  | truncate (hasFiller withCount : Bool)
  deriving Repr, DecidableEq

/-- The ways to group by several sets of expressions. -/
inductive GroupingWord where
  | groupingSets
  | cube
  | rollup
  deriving Repr, DecidableEq

/-- A form of expression without a type of its own here; its operands stand beside it. -/
inductive Form where
  /-- A row of values in parentheses. -/
  | tuple
  /-- `ANY(e)` on the right of an operator. -/
  | any
  /-- `ALL(e)` on the right of an operator. -/
  | all
  /-- `e IS [NOT] TRUE`, `FALSE` or `UNKNOWN`. -/
  | truthTest (truth : Truth) (negated : Bool)
  /-- `l IS [NOT] DISTINCT FROM r`. -/
  | distinctFrom (negated : Bool)
  /-- `e [NOT] SIMILAR TO p [ESCAPE c]`. -/
  | similarTo (escape : Option Char) (negated : Bool)
  /-- `e [NOT] IN UNNEST(a)`. -/
  | inUnnest (negated : Bool)
  /-- A cast that yields null instead of failing, under the given word. -/
  | softCast (word : String) (type : DataType)
  /-- `EXTRACT(field FROM e)`. -/
  | extract (field : String)
  /-- `CEIL(e [TO field])` or `FLOOR(e [TO field])`. -/
  | rounding (word : String) (field : Option String)
  /-- `POSITION(e IN s)`. -/
  | position
  /-- `SUBSTRING(e [FROM start] [FOR length])`. -/
  | substring (hasStart hasLength : Bool)
  /-- `OVERLAY(e PLACING s FROM start [FOR length])`. -/
  | overlay (hasLength : Bool)
  /-- `TRIM([side] [what FROM] e)`. -/
  | trim (side : Option String) (hasWhat : Bool)
  /-- `[ARRAY][e, ..]`. -/
  | array (named : Bool)
  /-- `e[i]..`. -/
  | index
  /-- Access to a part of a document by one of the arrow operators. -/
  | path (operator : String)
  /-- `e COLLATE name`. -/
  | collate (name : ObjectName)
  /-- `e.key`. -/
  | field (key : Ident)
  /-- `e AT TIME ZONE zone`. -/
  | atTimeZone (zone : String)
  /-- `INTERVAL e [unit] [(precision)] [TO last] [(fraction)]`. -/
  | interval (unit : Option String) (precision : Option Nat) (last : Option String)
      (fraction : Option Nat)
  /-- `ARRAY_AGG([DISTINCT] e [ORDER BY e] [LIMIT e])`. -/
  | arrayAgg (distinct : Bool) (order : Option Direction) (hasLimit : Bool)
  /-- `LISTAGG([DISTINCT] e[, separator] [ON OVERFLOW ..]) [WITHIN GROUP (ORDER BY e, ..)]`. -/
  | listAgg (distinct hasSeparator : Bool) (overflow : Option Overflow) (order : List Direction)
  /-- An aggregate over those rows of which a condition holds. -/
  | filtered
  /-- Several sets of expressions to group by, each as long as the list says. -/
  | grouping (word : GroupingWord) (sizes : List Nat)
  /-- A function of the operands and the window that it looks at, or one without parentheses. -/
  | call (name : ObjectName) (distinct bare : Bool) (window : Option Window)
  /-- An argument of a function that is given by name. -/
  | argument (name : Ident)
  /-- All columns as an argument of a function, or all those of a table. -/
  | star (qualifier : ObjectName)
  deriving Repr, DecidableEq

/-! ### Expressions and queries -/

/-- The name of a table inside a query, and names for its first columns. -/
structure TableAlias where
  name : Ident
  columns : List Ident
  deriving Repr, DecidableEq

/-- The operators that combine the rows of two queries. -/
inductive SetOperator where
  | union
  | except
  | intersect
  deriving Repr, DecidableEq

/-- What a set operation does about equal rows: nothing said, keep all, or keep one of each. -/
inductive SetQuantifier where
  | none
  | all
  | distinct
  deriving Repr, DecidableEq

/-- The kinds of joins. -/
inductive JoinKind where
  | inner
  | left
  | right
  | full
  | cross
  | leftSemi
  | rightSemi
  | leftAnti
  | rightAnti
  | crossApply
  | outerApply
  deriving Repr, DecidableEq

/-- How a join says which rows go together. The condition of `ON` stands beside it. -/
inductive JoinRule where
  | on
  | using (columns : List Ident)
  | natural
  | none
  deriving Repr, DecidableEq

/-- The word that may follow the number of rows to skip. -/
inductive RowWord where
  | none
  | row
  | rows
  deriving Repr, DecidableEq

/-- What the rows of a query are locked for. -/
inductive Lock where
  | update
  | share
  deriving Repr, DecidableEq

/-- The new table that the rows of a query go into. -/
structure IntoTable where
  temporary : Bool
  unlogged : Bool
  tableWord : Bool
  name : ObjectName
  deriving Repr, DecidableEq

/-- A bound on the number of rows in the words of `FETCH`. -/
structure Fetch where
  quantity : Option Literal
  percent : Bool
  withTies : Bool
  deriving Repr, DecidableEq

mutual

/-- An expression. -/
inductive Expr where
  | column (name : Ident)
  | qualified (parts : List Ident)
  | literal (value : Literal)
  /-- A text behind the name of its type. -/
  | typed (type : DataType) (text : String)
  | cast (operand : Expr) (type : DataType)
  | nested (operand : Expr)
  | binary (op : BinaryOp) (left right : Expr)
  | unary (op : UnaryOp) (operand : Expr)
  | isNull (operand : Expr) (negated : Bool)
  | inList (operand : Expr) (items : List Expr) (negated : Bool)
  | inQuery (operand : Expr) (query : Query) (negated : Bool)
  | between (operand low high : Expr) (negated : Bool)
  | like (kind : LikeKind) (operand pattern : Expr) (escape : Option Char) (negated : Bool)
  | case (operand : Option Expr) (conditions results : List Expr) (otherwise : Option Expr)
  | exists (query : Query) (negated : Bool)
  | subquery (query : Query)
  | arrayOf (query : Query)
  | form (form : Form) (operands : List Expr)

/-- A query: the queries that a `WITH` clause names, a body, and what orders and cuts its rows. -/
inductive Query where
  | mk (recursive : Bool) (ctes : List Cte) (body : Body) (orderBy : List OrderItem)
      (limit offset : Option Expr) (offsetWord : RowWord) (fetch : Option Fetch)
      (lock : Option Lock)

/-- A named query of a `WITH` clause. -/
inductive Cte where
  | mk (label : TableAlias) (query : Query) (source : Option Ident)

/-- The body of a query. What has no rows here is kept as its text and its outline. -/
inductive Body where
  | select (distinct : Bool) (items : List SelectItem) (tables : List TableRef)
      (condition : Option Expr) (groupBy : List Expr) (having : Option Expr) (extras : SelectExtras)
  | query (query : Query)
  | operation (op : SetOperator) (quantifier : SetQuantifier) (left right : Body)
  | values (rowWord : Bool) (rows : List (List Expr))
  | other (text : String) (outline : Outline)

/-- The clauses of a `SELECT` that types do not depend on. -/
inductive SelectExtras where
  | mk (top : Option Top) (into : Option IntoTable) (laterals : List LateralView)
      (clusterBy distributeBy sortBy : List Expr) (qualify : Option Expr)

/-- A bound on the number of rows in front of the items of a `SELECT`. -/
inductive Top where
  | mk (quantity : Expr) (percent withTies : Bool)

/-- A table of the values that a function makes of every row. -/
inductive LateralView where
  | mk (outer : Bool) (value : Expr) (name : ObjectName) (columns : List Ident)

/-- An item of the output of a query. -/
inductive SelectItem where
  | unnamed (value : Expr)
  | named (value : Expr) (name : Ident)
  | wildcard
  | qualifiedWildcard (table : ObjectName)

/-- An expression to order by. -/
inductive OrderItem where
  | mk (value : Expr) (direction : Direction)

/-- What a query takes its rows from. -/
inductive TableRef where
  | table (name : ObjectName) (hasArgs : Bool) (args : List Expr) (label : Option TableAlias)
      (hints : List Expr)
  | derived (lateral : Bool) (query : Query) (label : Option TableAlias)
  | function (value : Expr) (label : Option TableAlias)
  | nested (tables : TableRef) (label : Option TableAlias)
  | join (left : TableRef) (kind : JoinKind) (right : TableRef) (rule : JoinRule)
      (condition : Option Expr)

end

/-! ### Statements -/

/-- The new value of a column. -/
structure Assignment where
  target : List Ident
  value : Expr

/-- What an `INSERT` does with a row that is there already. -/
inductive Conflict where
  | nothing (target : List Ident)
  | update (target : List Ident) (assignments : List Assignment) (condition : Option Expr)
  | duplicateKey (assignments : List Assignment)

/-- An `INSERT`. -/
structure Insert where
  overwrite : Bool
  intoWord : Bool
  tableWord : Bool
  table : ObjectName
  columns : List Ident
  partition : List Expr
  /-- A second list of columns, which counts for nothing. -/
  moreColumns : List Ident
  source : Query
  conflict : Option Conflict
  returning : List SelectItem

/-- The formats of files with rows. -/
inductive FileFormat where
  | textFile
  | sequenceFile
  | orc
  | parquet
  | avro
  | rcFile
  | jsonFile
  deriving Repr, DecidableEq

/-- An `INSERT` whose rows go to files. -/
structure FileInsert where
  overwrite : Bool
  localWord : Bool
  path : String
  format : Option FileFormat
  source : Query

/-- What a column definition says about a column besides its type. -/
inductive ColumnOption where
  | null
  | notNull
  | default (value : Expr)
  | unique (primary : Bool)
  | references (table : ObjectName) (columns : List Ident) (actions : String)
  | check (condition : Expr)
  | characterSet (name : ObjectName)
  | comment (text : String)

/-- A column of a new table. -/
structure ColumnDef where
  name : Ident
  type : DataType
  /-- Each option with the name that is given to it. -/
  options : List (Option Ident × ColumnOption)

/-- A condition on the rows of a new table. -/
inductive TableConstraint where
  | unique (name : Option Ident) (primary : Bool) (columns : List Ident)
  | foreignKey (name : Option Ident) (columns : List Ident) (table : ObjectName)
      (referred : List Ident) (actions : String)
  | check (name : Option Ident) (condition : Expr)

/-- A property with a name. -/
structure Property where
  name : Ident
  value : Literal

/-- How the rows of a table are written to a file. -/
inductive RowFormat where
  /-- By a class with this name. -/
  | serde (name : String)
  | delimited

/-- Which files hold the rows of a table. -/
inductive Storage where
  | formats (input output : Expr)
  | file (format : FileFormat)

/-- What becomes of the rows of a table when a transaction ends. -/
inductive OnCommit where
  | deleteRows
  | preserveRows
  | drop
  deriving Repr, DecidableEq

/-- What a `CREATE TABLE` says besides the columns and constraints. -/
structure TableOptions where
  cluster : Option String
  like : Option ObjectName
  clone : Option ObjectName
  withoutRowId : Bool
  partition : List ColumnDef
  rowFormat : Option RowFormat
  storage : Option Storage
  location : Option String
  properties : List Property
  settings : List Property
  query : Option Query
  engine : Option String
  characterSet : Option String
  collation : Option String
  onCommit : Option OnCommit

/-- A `CREATE TABLE`. -/
structure CreateTable where
  orReplace : Bool
  /-- Whether the rows stay where they are. -/
  isExternal : Bool
  /-- Whether the table is said to be for all sessions, or for one. -/
  isGlobal : Option Bool
  temporary : Bool
  ifNotExists : Bool
  name : ObjectName
  columns : List ColumnDef
  constraints : List TableConstraint
  options : TableOptions

/-- A `CREATE VIEW`. -/
structure CreateView where
  orReplace : Bool
  materialized : Bool
  name : ObjectName
  columns : List Ident
  options : List Property
  clusterBy : List Ident
  query : Query

/-- A statement. Those that nothing but their text is asked of are kept as their text. -/
inductive Statement where
  | query (query : Query)
  | insert (insert : Insert)
  | insertFiles (insert : FileInsert)
  | update (table : TableRef) (assignments : List Assignment) (source : Option TableRef)
      (condition : Option Expr) (returning : List SelectItem)
  | delete (table : TableRef) (source : Option TableRef) (condition : Option Expr)
      (returning : List SelectItem)
  | createTable (table : CreateTable)
  | createView (view : CreateView)
  | prepare (name : Ident) (types : List DataType) (statement : Statement)
  | execute (name : Ident) (args : List Expr)
  | deallocate (name : Ident) (prepareWord : Bool)
  | explain (words : String) (statement : Statement)
  | other (text : String)

end Prepared.Sql
