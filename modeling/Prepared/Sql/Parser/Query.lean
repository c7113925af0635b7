import Prepared.Sql.Parser.Expr
import Prepared.Sql.Outline.Statement
import Prepared.Sql.Printer.Statement

/-!
# Parsing queries

The productions follow those of the package `sqlparser` 0.28 (`PostgreSqlDialect`).
-/

namespace Prepared.Sql.Parser

/-! ### Items and tables -/

/-- An item of the output of a query. -/
def selectItem (g : Grammar) : Parser SelectItem := do
  match ← maybe star with
  | some .all => return .wildcard
  | some (.allOf table) => return .qualifiedWildcard table
  | none =>
    let value ← filtered (← g.expr 0)
    match ← newName endsItem with
    | some name => return .named value name
    | none => return .unnamed value
where
  /-- An aggregate with the condition on its rows, if there is one. -/
  filtered (value : Expr) : Parser Expr := do
    -- the word can also be a name
    match ← maybe (do expectWord "FILTER"; expect "("; expectWord "WHERE") with
    | some () =>
      let condition ← g.expr 0
      expect ")"
      return .form .filtered [value, condition]
    | none => return value

/-- A query in parentheses behind the opening one, as a table. -/
def derivedTable (g : Grammar) (lateral : Bool) : Parser TableRef := do
  let query ← g.query
  expect ")"
  return .derived lateral query (← tableAlias)

/-- Whether a table in parentheses needs them: it is joined, or in parentheses itself. -/
def isJoined : TableRef → Bool
  | .join _ _ _ _ _ => true
  | .nested _ _ => true
  | _ => false

/-- Hints on how to read a table. Without a parenthesis the word belongs to something else. -/
def hints (g : Grammar) : Parser (List Expr) := do
  match ← maybe (do expectWord "WITH"; expect "(") with
  | some () =>
    let hints ← list (g.expr 0)
    expect ")"
    return hints
  | none => return []

/-- A table without those joined to it. Behind an opening parenthesis a query is tried first. -/
def tableFactor (g : Grammar) : Parser TableRef := do
  if ← keyword "LATERAL" then
    expect "("
    derivedTable g true
  else if ← keyword "TABLE" then
    let value ← inParens (g.expr 0)
    return .function value (← tableAlias)
  else if ← symbol "(" then
    match ← maybe (derivedTable g false) with
    | some table => return table
    -- a single table in parentheses is none
    | none =>
      let tables ← g.tables
      if isJoined tables then
        expect ")"
        return .nested tables (← tableAlias)
      else failure
  else
    let name ← objectName
    let args ← if ← symbol "(" then some <$> arguments g else pure none
    let label ← tableAlias
    return .table name args.isSome (args.getD []) label (← hints g)

/-! ### Joins -/

/-- The kind of a join to the left or right, behind that word. -/
def sideJoin (outer semi anti : JoinKind) : Parser JoinKind := do
  match ← oneOf ["OUTER", "SEMI", "ANTI", "JOIN"] with
  | some "JOIN" => return outer
  | some word =>
    expectWord "JOIN"
    return if word = "OUTER" then outer else if word = "SEMI" then semi else anti
  | none => failure

/-- The kind of a join that takes a condition, if one is next. -/
def joinKind : Parser (Option JoinKind) := do
  match ← oneOf ["INNER", "JOIN", "LEFT", "RIGHT", "FULL"] with
  | some "JOIN" => return some .inner
  | some "INNER" =>
    expectWord "JOIN"
    return some .inner
  | some "LEFT" => some <$> sideJoin .left .leftSemi .leftAnti
  | some "RIGHT" => some <$> sideJoin .right .rightSemi .rightAnti
  | some _ =>
    let _ ← keyword "OUTER"
    expectWord "JOIN"
    return some .full
  | none => return none

/-- Which rows go together, with the condition of `ON`. -/
def joinRule (g : Grammar) (natural : Bool) : Parser (JoinRule × Option Expr) := do
  if natural then return (.natural, none)
  else if ← keyword "ON" then return (.on, some (← g.expr 0))
  else if ← keyword "USING" then return (.using (← columnNames), none)
  else return (.none, none)

/-- A join behind the tables to its left, if one is next. -/
def join? (g : Grammar) (left : TableRef) : Parser (Option TableRef) := do
  if ← keyword "CROSS" then
    match ← oneOf ["JOIN", "APPLY"] with
    | some word =>
      let right ← tableFactor g
      return some (.join left (if word = "JOIN" then .cross else .crossApply) right .none none)
    | none => failure
  else if ← keyword "OUTER" then
    expectWord "APPLY"
    return some (.join left .outerApply (← tableFactor g) .none none)
  else
    let natural ← keyword "NATURAL"
    match ← joinKind with
    | some kind =>
      let right ← tableFactor g
      let (rule, condition) ← joinRule g natural
      return some (.join left kind right rule condition)
    | none => if natural then failure else return none

/-- The joins behind a table, at most `n`. -/
def joins (g : Grammar) (left : TableRef) : Nat → Parser TableRef
  | 0 => return left
  | n + 1 => do
    match ← join? g left with
    | some tables => joins g tables n
    | none => return left

/-- A table and those joined to it. -/
def tables (g : Grammar) : Parser TableRef := do
  joins g (← tableFactor g) (← get).length

/-! ### Bodies -/

/-- A set of expressions to group by, in parentheses; it may be empty. -/
def groupingSet (g : Grammar) : Parser (List Expr) := do
  expect "("
  if ← symbol ")" then return []
  else
    let set ← list (g.expr 0)
    expect ")"
    return set

/-- A set of expressions to group by, or a single one without parentheses. -/
def groupingElement (g : Grammar) : Parser (List Expr) := do
  if ← nextIs "(" then groupingSet g else return [← g.expr 0]

/-- What to group by. -/
def groupItem (g : Grammar) : Parser Expr := do
  if ← wordsInOrder ["GROUPING", "SETS"] then
    return grouping .groupingSets (← inParens (list (groupingSet g)))
  else match ← oneOf ["CUBE", "ROLLUP"] with
    | some "CUBE" => return grouping .cube (← inParens (list (groupingElement g)))
    | some _ => return grouping .rollup (← inParens (list (groupingElement g)))
    | none => g.expr 0
where
  /-- Several sets of expressions to group by. -/
  grouping (word : GroupingWord) (sets : List (List Expr)) : Expr :=
    .form (.grouping word (sets.map List.length)) sets.flatten

/-- A bound on the number of rows behind the word `TOP`: a number, or more in parentheses. -/
def top (g : Grammar) : Parser Top := do
  let quantity ← match ← inParensIfAny (g.expr 0) with
    | some quantity => pure quantity
    | none => do
      match ← literal with
      | .number text long => pure (.literal (.number text long))
      | .placeholder text => pure (.literal (.placeholder text))
      | _ => failure
  let percent ← keyword "PERCENT"
  return .mk quantity percent (← wordsInOrder ["WITH", "TIES"])

/-- The new table behind the word `INTO`. -/
def intoTable : Parser IntoTable := do
  let temporary := (← oneOf ["TEMP", "TEMPORARY"]).isSome
  let unlogged ← keyword "UNLOGGED"
  let tableWord ← keyword "TABLE"
  return ⟨temporary, unlogged, tableWord, ← objectName⟩

/-- The words that end the names of the columns of a lateral view. -/
def endsLateral : List String := ["WHERE", "GROUP", "CLUSTER", "HAVING", "LATERAL"]

/-- The tables that functions make of every row, at most `n`. -/
def laterals (g : Grammar) : Nat → Parser (List LateralView)
  | 0 => return []
  | n + 1 => do
    if ← wordsInOrder ["LATERAL", "VIEW"] then
      let outer ← keyword "OUTER"
      let value ← g.expr 0
      let name ← objectName
      let columns ← list (newName endsLateral)
      return .mk outer value name (columns.filterMap id) :: (← laterals g n)
    else return []

/-- A `SELECT` behind its word. -/
def select (g : Grammar) : Parser Body := do
  let distinct ← allOrDistinct
  let top ← behind "TOP" (top g)
  let items ← list (selectItem g)
  let into ← behind "INTO" intoTable
  let tables ← behind "FROM" (list g.tables)
  let laterals ← laterals g (← get).length
  let condition ← behind "WHERE" (g.expr 0)
  let groupBy ← behindTwo "GROUP" "BY" (groupItem g)
  let clusterBy ← behindTwo "CLUSTER" "BY" (g.expr 0)
  let distributeBy ← behindTwo "DISTRIBUTE" "BY" (g.expr 0)
  let sortBy ← behindTwo "SORT" "BY" (g.expr 0)
  let having ← behind "HAVING" (g.expr 0)
  let qualify ← behind "QUALIFY" (g.expr 0)
  return .select distinct items (tables.getD []) condition groupBy having
    (.mk top into laterals clusterBy distributeBy sortBy qualify)

/-- A row of a `VALUES` list, and whether the word `ROW` stands in front of it. -/
def row (g : Grammar) : Parser (Bool × List Expr) := do
  let word ← keyword "ROW"
  return (word, ← inParens (list (g.expr 0)))

/-- A list of rows behind the word `VALUES`. -/
def values (g : Grammar) : Parser Body := do
  let rows ← list (row g)
  return .values (rows.any (·.1)) (rows.map (·.2))

/-- A whole table as the body of a query, behind its word. Its name takes up three tokens. -/
def wholeTable : Parser Body := do
  let first ← token
  let second ← anyToken?
  let third ← anyToken?
  match first, second, third with
  | .word schema, some (.symbol "."), some (.word table) =>
    return .other ("TABLE " ++ schema.value ++ "." ++ table.value)
      (outline table.value (some schema.value))
  | _, some (.symbol "."), _ => failure
  | .word table, _, _ => return .other ("TABLE " ++ table.value) (outline table.value none)
  | _, _, _ => failure
where
  /-- How a whole table is built. -/
  outline (table : String) (schema : Option String) : Outline :=
    .node "Table" [.record "Table" [
      .field "table_name" (.ofOption .text (some table)),
      .field "schema_name" (.ofOption .text schema)]]

/-- A body without the set operators behind it. -/
def simpleBody (g : Grammar) : Parser Body := do
  if ← keyword "SELECT" then select g
  else if ← symbol "(" then
    let query ← g.query
    expect ")"
    return .query query
  else if ← keyword "VALUES" then values g
  else if ← keyword "TABLE" then wholeTable
  else failure

/-- The set operator that is next, and how tight it binds. -/
def setOperator? : Parser (Option (SetOperator × Nat)) := do
  match ← peekWord? with
  | some "UNION" => return some (.union, 10)
  | some "EXCEPT" => return some (.except, 10)
  | some "INTERSECT" => return some (.intersect, 20)
  | _ => return none

/-- What a set operation does about equal rows. -/
def setQuantifier : Parser SetQuantifier := do
  match ← oneOf ["ALL", "DISTINCT"] with
  | some "ALL" => return .all
  | some _ => return .distinct
  | none => return .none

/-- The set operators behind a body that bind tighter than `level`, at most `n`. -/
def setOperators (g : Grammar) (level : Nat) (left : Body) : Nat → Parser Body
  | 0 => return left
  | n + 1 => do
    match ← setOperator? with
    | some (op, next) =>
      if next ≤ level then return left
      else
        let _ ← token
        let quantifier ← setQuantifier
        setOperators g level (.operation op quantifier left (← g.body next)) n
    | none => return left

/-- The body of a query whose set operators bind tighter than `level`. -/
def body (g : Grammar) (level : Nat) : Parser Body := do
  setOperators g level (← simpleBody g) (← get).length

/-! ### Order and bounds -/

/-- An expression to order by. -/
def orderItem (g : Grammar) : Parser OrderItem := do
  let (value, direction) ← directed g
  return .mk value direction

/-- The number of rows to skip behind the word `OFFSET`. -/
def offset (g : Grammar) : Parser (Expr × RowWord) := do
  let value ← g.expr 0
  match ← oneOf ["ROW", "ROWS"] with
  | some "ROW" => return (value, .row)
  | some _ => return (value, .rows)
  | none => return (value, .none)

/-- `LIMIT` and `OFFSET` in either order, at most `n` times both. -/
def bounds (g : Grammar) (l : Option Expr) (o : Option (Expr × RowWord)) :
    Nat → Parser (Option Expr × Option (Expr × RowWord))
  | 0 => return (l, o)
  | n + 1 => do
    let l ← if l.isNone then do pure ((← behind "LIMIT" (limit g)).join) else pure l
    let o ← if o.isNone then behind "OFFSET" (offset g) else pure o
    bounds g l o n

/-- A bound in the words of `FETCH`, behind that word. -/
def fetch : Parser Fetch := do
  let some _ ← oneOf ["FIRST", "NEXT"] | failure
  let (quantity, percent) ← do
    match ← oneOf ["ROW", "ROWS"] with
    | some _ => pure (none, false)
    | none =>
      let quantity ← literal
      let percent ← keyword "PERCENT"
      let some _ ← oneOf ["ROW", "ROWS"] | failure
      pure (some quantity, percent)
  if ← keyword "ONLY" then return ⟨quantity, percent, false⟩
  else if ← wordsInOrder ["WITH", "TIES"] then return ⟨quantity, percent, true⟩
  else failure

/-- What the rows are locked for, behind the word `FOR`. -/
def lock : Parser Lock := do
  match ← oneOf ["UPDATE", "SHARE"] with
  | some "UPDATE" => return .update
  | some _ => return .share
  | none => failure

/-! ### Queries -/

/-- A named query of a `WITH` clause. -/
def cte (g : Grammar) : Parser Cte := do
  let name ← ident
  let columns ← if (← peekWord?) = some "AS" then pure [] else columnNamesIfAny
  expectWord "AS"
  let query ← inParens g.query
  return .mk ⟨name, columns⟩ query (← behind "FROM" ident)

/-- A query. An `INSERT` can stand for one. -/
def query (g : Grammar) : Parser Query := do
  let (recursive, ctes) ← do
    if ← keyword "WITH" then
      let recursive ← keyword "RECURSIVE"
      pure (recursive, ← list (cte g))
    else pure (false, [])
  if ← keyword "INSERT" then
    let insert ← g.insert
    return .mk recursive ctes (.other insert.render insert.outline) [] none none .none none none
  else
    let body ← g.body 0
    let orderBy ← behindTwo "ORDER" "BY" (orderItem g)
    let (limit, offset) ← bounds g none none 2
    let fetch ← behind "FETCH" fetch
    return .mk recursive ctes body orderBy limit (offset.map (·.1))
      ((offset.map (·.2)).getD .none) fetch (← behind "FOR" lock)

end Prepared.Sql.Parser
