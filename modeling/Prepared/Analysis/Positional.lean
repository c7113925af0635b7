import Prepared.Analysis.Statement

/-!
# The analysis by position

The analysis with its tables as they are kept. The types and the names of the columns of a table
stand in two lists, and a map says which position a name has; a column of a `VALUES` list, the type
that is expected of it and a column of a table are found by counting as well. Nothing in these lists
says that they belong together, so a position may lie outside of its list. That is no error of the
analysis: the step does not come to an end (`none`).

Rules that have nothing to do with tables are those of the analysis itself. They are run with no
table in sight (`ofWalk`).
-/

namespace Prepared.Positional

open Sql

/-! ### Tables in sight -/

/-- A table in sight, with its columns in two lists and the positions of their names. -/
structure Entry where
  name : String
  /-- The number of the table among all those bound so far. -/
  index : Nat
  types : List SqlType
  names : List String
  positions : NameMap Nat

/-- Puts positions under names, counted from `count`. Of several equal names the last one counts. -/
def number (positions : NameMap Nat) (count : Nat) : List String → NameMap Nat
  | [] => positions
  | name :: names => number (positions.insert name count) (count + 1) names

/-- The tables of a query level, under their names and in the order in which they were added. -/
structure Level where
  entries : NameMap Entry
  order : List Entry

def Level.empty : Level := ⟨.empty, []⟩

/-- What the analysis knows at one point. -/
structure State (σ : Type) where
  /-- The open query levels, the innermost first. -/
  levels : List Level
  params : σ
  /-- The number of tables bound so far. -/
  tables : Nat

def State.initial {σ : Type} (params : σ) : State σ :=
  ⟨[], params, 0⟩

/-- A step of the analysis: it may fail, and it may not come to an end. -/
abbrev Step (σ : Type) := ExceptT BindError (StateT (State σ) Option)

/-! ### Steps -/

section

variable {σ α β : Type}

/-- A step that does nothing but succeed or fail. -/
def ofResult (x : Except BindError α) : Step σ α :=
  fun s => some (x, s)

/-- A step that has nothing to do with tables. -/
def ofWalk (x : Walk σ α) : Step σ α := fun s =>
  let (a, t) := x ⟨[], s.params, s.tables⟩
  some (a, ⟨s.levels, t.params, t.tables⟩)

/-- The element at a position, which must be there. -/
def element (l : List α) (i : Nat) : Step σ α :=
  fun s => l[i]?.map fun a => (.ok a, s)

/-- Puts an element behind the others of the list at a position, which must be there. -/
def push (lists : List (List α)) (i : Nat) (a : α) : Step σ (List (List α)) := do
  let list ← element lists i
  return lists.set i (list ++ [a])

/-- Two lists that belong together must be of one length. -/
def sameLength (xs : List α) (ys : List β) : Step σ Unit :=
  fun s => if xs.length = ys.length then some (.ok (), s) else none

/-- A step inside a new query level, which is closed again whatever comes of it. -/
def withLevel (x : Step σ α) : Step σ α := fun s =>
  (x { s with levels := .empty :: s.levels }).map fun (a, t) =>
    (a, { t with levels := t.levels.tail })

/-- The innermost query level. -/
def currentLevel : Step σ Level :=
  fun s => match s.levels with
    | level :: _ => some (.ok level, s)
    | [] => some (.error .noQueryLevel, s)

/-- Puts a table in sight, refused if its name is taken. -/
def Level.add (l : Level) (e : Entry) : Except BindError Level :=
  if l.entries.contains e.name then .error (.duplicateTable e.name)
  else .ok ⟨l.entries.insert e.name e, l.order ++ [e]⟩

/-- Adds a table to the innermost query level. -/
def addEntry (e : Entry) : Step σ Unit :=
  fun s => match s.levels with
    | level :: outer =>
      match level.add e with
      | .ok level => some (.ok (), { s with levels := level :: outer })
      | .error e => some (.error e, s)
    | [] => some (.error .noQueryLevel, s)

/-- Adds a table with as many types as names to the innermost query level. -/
def addTable (name : String) (index : Nat) (types : List SqlType) (names : List String) :
    Step σ Unit := do
  sameLength types names
  addEntry ⟨name, index, types, names, number .empty 0 names⟩

/-- An output, with as many names as columns. -/
def output (names : List String) (columns : List BoundExpr) : Step σ BoundQuery := do
  sameLength names columns
  return ⟨names, columns⟩

/-! ### Columns -/

/-- The column called `name`, seen from `depth` levels further in. -/
def Entry.bind (e : Entry) (name : String) (depth : Nat) : Step σ BoundColumn :=
  match e.positions.find? name with
  | some position => do return ⟨name, ← element e.types position, e.index, position, depth⟩
  | none => throw (.columnNotInBinding name e.name)

/-- The only table with a column called `name`; it is an error if there are several. -/
def Level.matching? (l : Level) (name : String) : Except BindError (Option Entry) :=
  match l.order.filter (·.positions.contains name) with
  | [] => .ok none
  | [e] => .ok (some e)
  | _ => .error (.ambiguousColumn name)

/-- The table at one query level that a reference means. -/
def Level.referent? (l : Level) (table : Option String) (column : String) :
    Except BindError (Option Entry) :=
  match table with
  | some table => .ok (l.entries.find? table)
  | none => l.matching? column

/-- The column that a reference means, with the innermost query level first. -/
def findColumn (table : Option String) (column : String) (depth : Nat) :
    List Level → Step σ BoundColumn
  | [] => throw (match table with
    | some table => .missingTable table
    | none => .columnNotFound column)
  | l :: outer => do
    match ← ofResult (l.referent? table column) with
    | some e => e.bind column depth
    | none => findColumn table column (depth + 1) outer

def resolveColumn (table : Option String) (column : String) : Step σ BoundColumn :=
  fun s => findColumn table column 0 s.levels s

/-- The column of a table called `name`, by way of its position. -/
def column? (t : Table) (name : String) : Step σ (Option Column) :=
  match t.positions.find? name with
  | some position => some <$> element t.columns position
  | none => return none

end

/-! ### Rules with tables -/

section

variable {σ : Type} [ParamHook σ]

/-- A reference to a column. -/
def bindColumnRef (parts : List Ident) : Step σ BoundExpr :=
  match parts.map Ident.folded with
  | [column] => return .column (← resolveColumn none column)
  | [table, column] => return .column (← resolveColumn (some table) column)
  | parts => throw (.unsupportedExpr (".".intercalate parts))

/-- The columns of a table as references to them. -/
def starColumns (table : String) : List String → Step σ (List BoundExpr)
  | [] => return []
  | name :: names => do
    let column ← resolveColumn (some table) name
    return .column column :: (← starColumns table names)

/-- All columns of tables, in their order. -/
def starEntries : List Entry → Step σ (List BoundExpr)
  | [] => return []
  | e :: es => do return (← starColumns e.name e.names) ++ (← starEntries es)

/-- All columns of the tables of the innermost query level, or of the one that is named. -/
def bindStar (table : Option ObjectName) : Step σ (List BoundExpr) := do
  match table with
  | some table =>
    let name ← ofResult (tableName table)
    match (← currentLevel).entries.find? name with
    | some e => starEntries [e]
    | none => throw (.missingTable name)
  | none =>
    let level ← currentLevel
    if level.order.isEmpty then throw .starWithoutTables else starEntries level.order

/-- Adds a table of the catalog to the query level. -/
def bindTable (catalog : Catalog) (name : ObjectName) (label : Option TableAlias) : Step σ Unit := do
  let name ← ofResult (tableName name)
  let table ← ofResult ((catalog.table name).mapError .catalog)
  let visible := (label.map (·.name.folded)).getD name
  let index ← ofWalk BindM.newTable
  addTable visible index (table.columns.map (·.type)) (table.columns.map (·.name))

/-- Names, the first of which are overwritten. -/
def overwrite : List String → List Ident → List String
  | _ :: names, label :: labels => label.folded :: overwrite names labels
  | names, _ => names

/-- Adds a query to the query level as a table. -/
def bindDerived (q : BoundQuery) (label : TableAlias) : Step σ Unit := do
  let names := overwrite q.names label.columns
  let index ← ofWalk BindM.newTable
  addTable label.name.folded index q.types names

/-- The outputs of two combined queries as one. -/
def combineQueries (left right : BoundQuery) : Step σ BoundQuery := do
  if left.columns.length ≠ right.columns.length then
    throw (.setOperationWidths left.columns.length right.columns.length)
  let columns ← ofWalk (combineColumns left.columns right.columns)
  output left.names columns

/-- Expressions, each brought to the type that is expected at position `i`. -/
def coerceColumn (types : List SqlType) (i : Nat) : List BoundExpr → Step σ (List BoundExpr)
  | [] => return []
  | e :: es => do
    let e ← ofWalk (e.coerce (← element types i))
    return e :: (← coerceColumn types i es)

/-- The names and first expressions of the columns of a `VALUES` list, counted from `i`. -/
def unifyColumns (expected : Option (List SqlType)) (i : Nat) :
    List (List BoundExpr) → Step σ (List String × List BoundExpr)
  | [] => return ([], [])
  | column :: columns => do
    let column ← match expected with
      | some types => coerceColumn types i column
      | none => (·.1) <$> ofWalk (BoundExpr.unify column (some .varchar))
    let (names, rest) ← unifyColumns expected (i + 1) columns
    return (("column" ++ toString (i + 1)) :: names, column.take 1 ++ rest)

end

/-! ### Expressions, queries and tables -/

section

variable {σ : Type} [ParamHook σ] (catalog : Catalog)

mutual

/-- An expression with its type. -/
def bindExpr : Expr → Step σ BoundExpr
  | .column name => bindColumnRef [name]
  | .qualified parts => bindColumnRef parts
  | .literal value => ofWalk (bindLiteral value)
  | .typed type text => do
    let target ← ofWalk (BindM.ofType (SqlType.ofDataType type))
    let value ← ofWalk (BindM.ofType (Value.parse text target))
    return .constant (Expr.typed type text).render value
  | .cast operand type => do
    let target ← ofWalk (BindM.ofType (SqlType.ofDataType type))
    let e ← bindExpr operand
    ofWalk (bindCast (Expr.cast operand type).render target e)
  | .nested operand => bindExpr operand
  | .binary op left right => do
    let l ← bindExpr left
    let r ← bindExpr right
    ofWalk (bindBinary (Expr.binary op left right).render op l r)
  | .unary op operand => do
    let e ← bindExpr operand
    ofWalk (bindUnary (Expr.unary op operand).render op e)
  | .isNull operand negated => do
    let _ ← bindExpr operand
    return predicateOf (Expr.isNull operand negated).render
  | .inList operand items negated => do
    let e ← bindExpr operand
    let es ← bindExprs items
    ofWalk (bindComparison (Expr.inList operand items negated).render (e :: es))
  | .inQuery operand query negated => do
    let e ← bindExpr operand
    let q ← bindQuery none query
    let column ← ofWalk (singleColumn q)
    ofWalk (bindComparison (Expr.inQuery operand query negated).render [e, column])
  | .between operand low high negated => do
    let e ← bindExpr operand
    let l ← bindExpr low
    let h ← bindExpr high
    ofWalk (bindComparison (Expr.between operand low high negated).render [e, l, h])
  | .like kind operand pattern escape negated => do
    let e ← bindExpr operand
    let _ ← ofWalk (e.coerce .varchar)
    let p ← bindExpr pattern
    let _ ← ofWalk (p.coerce .varchar)
    return predicateOf (Expr.like kind operand pattern escape negated).render
  | .case operand conditions results otherwise => do
    match operand with
    | some operand =>
      let e ← bindExpr operand
      let es ← bindExprs conditions
      let _ ← ofWalk (BoundExpr.unify (e :: es) (some .varchar))
    | none => bindConditions conditions
    let branches ← bindExprs results
    let last ← bindOption otherwise
    ofWalk (bindBranches (Expr.case operand conditions results otherwise).render
      (branches ++ last.toList))
  | .exists query negated => do
    let _ ← bindQuery none query
    return predicateOf (Expr.exists query negated).render
  | .subquery query => do
    let q ← bindQuery none query
    let column ← ofWalk (singleColumn q)
    return .computed (Expr.subquery query).render column.type
  | .arrayOf query => throw (.unsupportedExpr (Expr.arrayOf query).render)
  | .form form operands => throw (.unsupportedExpr (Expr.form form operands).render)

/-- Expressions with their types, from the first to the last. -/
def bindExprs : List Expr → Step σ (List BoundExpr)
  | [] => return []
  | e :: es => do
    let b ← bindExpr e
    return b :: (← bindExprs es)

/-- An expression that may be missing. -/
def bindOption : Option Expr → Step σ (Option BoundExpr)
  | some e => some <$> bindExpr e
  | none => return none

/-- Conditions, each of which must be boolean. -/
def bindConditions : List Expr → Step σ Unit
  | [] => return ()
  | e :: es => do
    let b ← bindExpr e
    let _ ← ofWalk (b.coerce .boolean)
    bindConditions es

/-- A condition, if there is one, which must be boolean. -/
def bindCondition : Option Expr → Step σ Unit
  | some e => do
    let b ← bindExpr e
    let _ ← ofWalk (b.coerce .boolean)
  | none => return ()

/-- A number of rows, if there is one. -/
def bindCount : Option Expr → Step σ Unit
  | some e => do
    let b ← bindExpr e
    let _ ← ofWalk (b.coerce .bigint)
  | none => return ()

/-- A row of a `VALUES` list from position `i` on, each expression behind those of its column. -/
def bindRow (columns : List (List BoundExpr)) (i : Nat) : List Expr → Step σ (List (List BoundExpr))
  | [] => return columns
  | e :: es => do
    let b ← bindExpr e
    let columns ← push columns i b
    bindRow columns (i + 1) es

/-- The rows of a `VALUES` list, all of the given width, behind those that are there. -/
def bindRows (width : Nat) (columns : List (List BoundExpr)) :
    List (List Expr) → Step σ (List (List BoundExpr))
  | [] => return columns
  | row :: rows => do
    if row.length ≠ width then throw .valuesWidths
    let columns ← bindRow columns 0 row
    bindRows width columns rows

/-- A query with the names and types of its output, which is brought to the expected types. -/
def bindQuery (expected : Option (List SqlType)) : Query → Step σ BoundQuery
  | .mk recursive ctes body orderBy limit offset offsetWord fetch lock => do
    if !ctes.isEmpty then
      throw (.unsupportedStatement ("WITH clause in "
        ++ (Query.mk recursive ctes body orderBy limit offset offsetWord fetch lock).render))
    withLevel do
      let output ← bindBody false expected body
      bindOrder output.names orderBy
      bindCount limit
      bindCount offset
      return output

/-- The body of a query. A `SELECT` that is combined with others has a query level of its own. -/
def bindBody (combined : Bool) (expected : Option (List SqlType)) : Body → Step σ BoundQuery
  | .select _ items tables condition groupBy having _ =>
    (if combined then withLevel else id) do
      bindTables tables
      bindCondition condition
      let _ ← bindExprs groupBy
      bindCondition having
      let q ← bindItems items
      let columns ← ofWalk (fitOutput expected q.columns)
      output q.names columns
  | .query query => bindQuery expected query
  | .operation _ _ left right => do
    let l ← bindBody true expected left
    let r ← bindBody true expected right
    combineQueries l r
  | .values _ rows => do
    let width := (rows.head?.map List.length).getD 0
    ofWalk (checkWidth expected width)
    let columns ← bindRows width (List.replicate width []) rows
    let (names, columns) ← unifyColumns expected 0 columns
    output names columns
  | .other text _ => throw (.unsupportedStatement text)

/-- The items of an output. -/
def bindItems : List SelectItem → Step σ BoundQuery
  | [] => return ⟨[], []⟩
  | .unnamed value :: items => do
    let e ← bindExpr value
    return (underOwnNames [e]).append (← bindItems items)
  | .named value name :: items => do
    let e ← bindExpr value
    return BoundQuery.append ⟨[name.folded], [e]⟩ (← bindItems items)
  | .wildcard :: items => do
    let columns ← bindStar none
    return (underOwnNames columns).append (← bindItems items)
  | .qualifiedWildcard table :: items => do
    let columns ← bindStar (some table)
    return (underOwnNames columns).append (← bindItems items)

/-- The expressions to order by that are not columns of the output. -/
def bindOrder (names : List String) : List OrderItem → Step σ Unit
  | [] => return ()
  | .mk value _ :: items => do
    if !isOutputReference names value then
      let _ ← bindExpr value
    bindOrder names items

/-- Adds the tables that a query takes its rows from to the query level. -/
def bindTableRef : TableRef → Step σ Unit
  | .table name _ _ label _ => bindTable catalog name label
  | .derived _ query label => do
    match label with
    | some label =>
      let q ← bindQuery none query
      bindDerived q label
    | none => throw .derivedTableWithoutAlias
  | .function value label => throw (.unsupportedStatement (TableRef.function value label).render)
  | .nested tables label => throw (.unsupportedStatement (TableRef.nested tables label).render)
  | .join left kind right rule condition => do
    bindTableRef left
    bindTableRef right
    if isSupported kind then bindCondition condition
    else
      throw (.unsupportedStatement ("join operator "
        ++ (kind.outline rule (outlineOption condition)).render))

/-- Adds several tables, from the first to the last. -/
def bindTables : List TableRef → Step σ Unit
  | [] => return ()
  | t :: ts => do
    bindTableRef t
    bindTables ts

end

/-! ### Statements -/

/-- The types of the columns that an `INSERT` names. -/
def namedColumnTypes (table : Table) (name : String) : List Ident → Step σ (List SqlType)
  | [] => return []
  | column :: columns => do
    match ← column? table column.folded with
    | some c => return c.type :: (← namedColumnTypes table name columns)
    | none => throw (.columnNotInTable column.folded name)

/-- The types of the columns that an `INSERT` fills: those that it names, or all. -/
def insertTypes (table : Table) (name : String) (columns : List Ident) : Step σ (List SqlType) :=
  if columns.isEmpty then return table.columns.map (·.type)
  else namedColumnTypes table name columns

/-- An `INSERT`. -/
def bindInsert (i : Insert) : Step σ Unit := do
  let name ← ofResult (tableName i.table)
  let table ← ofResult ((catalog.table name).mapError .catalog)
  let types ← insertTypes table name i.columns
  let _ ← bindQuery catalog (some types) i.source

/-- The new values of columns, each of which fits its column. -/
def bindAssignments (table : Table) (name : String) : List Assignment → Step σ Unit
  | [] => return ()
  | a :: as => do
    match a.target.getLast? with
    | none => throw .emptyAssignmentTarget
    | some target =>
      match ← column? table target.folded with
      | none => throw (.columnNotInTable target.folded name)
      | some column =>
        let b ← bindExpr catalog a.value
        let _ ← ofWalk (b.coerce column.type)
        bindAssignments table name as

/-- Adds the table that an `UPDATE` takes values from, if there is one. -/
def bindSource : Option TableRef → Step σ Unit
  | some t => bindTableRef catalog t
  | none => return ()

/-- An `UPDATE`. -/
def bindUpdate (table : TableRef) (assignments : List Assignment) (source : Option TableRef)
    (condition : Option Expr) : Step σ Unit :=
  withLevel do
    let name ← ofResult (updatedName table)
    bindTableRef catalog table
    bindSource catalog source
    bindCondition catalog condition
    let target ← ofResult ((catalog.table name).mapError .catalog)
    bindAssignments catalog target name assignments

/-- A `DELETE`. -/
def bindDelete (table : TableRef) (condition : Option Expr) : Step σ Unit :=
  withLevel do
    bindTableRef catalog table
    bindCondition catalog condition

/-- The columns that a statement gives. -/
def bindStatement (s : Statement) : Step σ Description := do
  match s with
  | .query q =>
    let output ← bindQuery catalog none q
    return ⟨output.names, output.types⟩
  | .insert i =>
    bindInsert catalog i
    return .empty
  | .update table assignments source condition _ =>
    bindUpdate catalog table assignments source condition
    return .empty
  | .delete table _ condition _ =>
    bindDelete catalog table condition
    return .empty
  | s => throw (.unsupportedStatement s.render)

/-- The columns that a statement gives, once all its parameters have types. -/
def analyzeStatement (s : Statement) : Step σ Description := do
  let description ← bindStatement catalog s
  ofWalk checkParams
  return description

/-- The columns that a statement gives on its own, and what is known of its parameters then. -/
def analyze (params : σ) (s : Statement) : Option (Except BindError Description × σ) :=
  (analyzeStatement catalog s (.initial params)).map fun (result, state) => (result, state.params)

end

/-! ### Hooks -/

/-- The type of a parameter that a statement refers to, at its position in the list of types. -/
def refer (p : ParamTypes) (number : Nat) : Option (Except BindError (SqlType × ParamTypes)) :=
  match p with
  | .absent => some (.error (.noSuchParameter number))
  | .declared types =>
    if number = 0 ∨ types.length < number then some (.error (.noSuchParameter number))
    else types[number - 1]?.map fun t => .ok (t, p)
  | .inferred types limit =>
    if number = 0 ∨ limit < number then some (.error (.noSuchParameter number))
    else
      let types := if types.length < number then ParamTypes.grow types number else types
      types[number - 1]?.map fun t =>
        let t := ParamTypes.seen t
        .ok (t, .inferred (types.set (number - 1) t) limit)

/-- The type of a parameter that is wanted to be `target`, at its position in the list of types. -/
def settle (p : ParamTypes) (number : Nat) (target : SqlType) :
    Option (Except BindError (SqlType × ParamTypes)) :=
  let known (t : SqlType) : Except BindError (SqlType × ParamTypes) :=
    if t = target then .ok (t, p) else .error (.inconsistentParameterTypes number t target)
  match p with
  | .absent => some (.error (.noSuchParameter number))
  | .declared types =>
    if number = 0 ∨ types.length < number then some (.error (.noSuchParameter number))
    else types[number - 1]?.map known
  | .inferred types limit =>
    if number = 0 ∨ types.length < number then some (.error (.noSuchParameter number))
    else types[number - 1]?.map fun t =>
      if t.isResolved then known t else .ok (target, .inferred (types.set (number - 1) target) limit)

end Prepared.Positional
