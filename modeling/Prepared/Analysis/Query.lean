import Prepared.Analysis.Coerce
import Prepared.Analysis.Name
import Prepared.Sql.Outline.Expr
import Prepared.Sql.Printer.Expr

/-!
# Typing expressions and queries

Every expression gets a type from those of its parts, and every query the names and types of its
columns. The walk goes from left to right, except that `WHERE`, `GROUP BY` and `HAVING` come before
the output: what they decide about a parameter holds for the output as well.
-/

namespace Prepared

open Sql BindM

variable {σ : Type} [ParamHook σ]

/-- The output of a query: the names and the expressions of its columns. -/
structure BoundQuery where
  names : List String
  columns : List BoundExpr

/-- The types of the columns. -/
def BoundQuery.types (q : BoundQuery) : List SqlType :=
  q.columns.map BoundExpr.type

/-! ### Rules for single forms -/

/-- An expression of type boolean over others. -/
def predicateOf (name : String) : BoundExpr :=
  .computed name .boolean

/-- A reference to a column. -/
def bindColumnRef (parts : List Ident) : Walk σ BoundExpr :=
  match parts.map Ident.folded with
  | [column] => return .column (← resolveColumn none column)
  | [table, column] => return .column (← resolveColumn (some table) column)
  | parts => throw (.unsupportedExpr (".".intercalate parts))

/-- A literal or a parameter. -/
def bindLiteral (l : Literal) : Walk σ BoundExpr :=
  match l with
  | .placeholder text =>
    match ParamTypes.number? text with
    | some number => return .parameter text number (← referParam number)
    | none => throw (.invalidParameterReference text)
  | l => return .constant l.render (← ofType (Value.ofLiteral l))

/-- A cast of an expression to a type: it decides the type of a parameter, converts a constant at
once, and is none if the type is there already. -/
def bindCast (name : String) (target : SqlType) (e : BoundExpr) : Walk σ BoundExpr :=
  if e.type = .unknown then e.coerce target
  else if e.type = target then return e
  else match e with
    | .constant _ value => return .constant name (← ofType (value.castTo target))
    | _ => return .computed name target

/-- A predicate over expressions of one type, which is text if none of them has a type. -/
def bindComparison (name : String) (es : List BoundExpr) : Walk σ BoundExpr := do
  let _ ← BoundExpr.unify es (some .varchar)
  return predicateOf name

/-- A choice between branches of one type, which is text if none of them has a type. -/
def bindBranches (name : String) (es : List BoundExpr) : Walk σ BoundExpr := do
  let (_, type) ← BoundExpr.unify es (some .varchar)
  return .computed name type

/-- An operator between two numbers. What it gives has no type if neither side has one. -/
def bindArithmetic (name : String) (op : BinaryOp) (left right : BoundExpr) : Walk σ BoundExpr := do
  let (_, type) ← BoundExpr.unify [left, right] none
  if type.isResolved && !type.isNumeric then
    throw (.unsupportedExpr ("operator does not exist: " ++ type.name ++ " " ++ op.render ++ " "
      ++ type.name))
  else return .computed name type

/-- A predicate over two others. -/
def bindConnective (name : String) (left right : BoundExpr) : Walk σ BoundExpr := do
  let _ ← left.coerce .boolean
  let _ ← right.coerce .boolean
  return predicateOf name

/-- One text behind another. A side of another type is taken as its text. -/
def bindConcat (name : String) (left right : BoundExpr) : Walk σ BoundExpr := do
  let _ ← left.coerceUnknown .varchar
  let _ ← right.coerceUnknown .varchar
  return .computed name .varchar

/-- An operator between two expressions. -/
def bindBinary (name : String) (op : BinaryOp) (left right : BoundExpr) : Walk σ BoundExpr :=
  match op with
  | .eq | .notEq | .lt | .ltEq | .gt | .gtEq => bindComparison name [left, right]
  | .plus | .minus | .multiply | .divide | .modulo => bindArithmetic name op left right
  | .and | .or => bindConnective name left right
  | .concat => bindConcat name left right
  | .other text => throw (.unsupportedExpr text)
  | .custom name => throw (.unsupportedExpr (BinaryOp.custom name).render)

/-- The opposite of a predicate. -/
def bindNot (name : String) (e : BoundExpr) : Walk σ BoundExpr := do
  let _ ← e.coerce .boolean
  return predicateOf name

/-- A number behind a sign. What has no type yet is let through. -/
def bindSign (name : String) (op : UnaryOp) (e : BoundExpr) : Walk σ BoundExpr :=
  if e.type.isResolved && !e.type.isNumeric then
    throw (.unsupportedExpr ("operator does not exist: " ++ op.render ++ " " ++ e.type.name))
  else return .computed name e.type

/-- An operator with one operand. -/
def bindUnary (name : String) (op : UnaryOp) (e : BoundExpr) : Walk σ BoundExpr :=
  match op with
  | .not => bindNot name e
  | .plus | .minus => bindSign name op e
  | op => throw (.unsupportedExpr op.render)

/-- The only column of a query that stands for a value. -/
def singleColumn (q : BoundQuery) : Walk σ BoundExpr :=
  match q.columns with
  | [column] => return column
  | _ => throw .subqueryWidth

/-- Expressions of one column, brought to their common type, as the first of them. -/
def firstUnified (es : List BoundExpr) : Walk σ (List BoundExpr) := do
  let (unified, _) ← BoundExpr.unify es (some .varchar)
  return unified.take 1

/-- The outputs of two combined queries as one: under the names of the first, each pair of columns
as one of their common type. -/
def combineColumns : List BoundExpr → List BoundExpr → Walk σ (List BoundExpr)
  | l :: ls, r :: rs => do
    let first ← firstUnified [l, r]
    return first ++ (← combineColumns ls rs)
  | _, _ => return []

/-- A set operation over two bound queries. -/
def combineQueries (left right : BoundQuery) : Walk σ BoundQuery := do
  if left.columns.length ≠ right.columns.length then
    throw (.setOperationWidths left.columns.length right.columns.length)
  return ⟨left.names, ← combineColumns left.columns right.columns⟩

/-- The columns of rows of the given width. -/
def columnsOf (width : Nat) (rows : List (List BoundExpr)) : List (List BoundExpr) :=
  (List.range width).map fun i => rows.filterMap (·[i]?)

/-- The columns of a `VALUES` list, each as its first expression: brought to the type that is
expected of it, or to the common type of the column. -/
def unifyColumns : List (List BoundExpr) → Option (List SqlType) → Walk σ (List BoundExpr)
  | [], _ => return []
  | column :: columns, some (t :: ts) => do
    let column ← BoundExpr.coerceAll t column
    return column.take 1 ++ (← unifyColumns columns (some ts))
  | column :: columns, expected => do
    let first ← firstUnified column
    return first ++ (← unifyColumns columns expected)

/-- The names of the columns of a `VALUES` list. -/
def valueNames (width : Nat) : List String :=
  (List.range width).map fun i => "column" ++ toString (i + 1)

/-- Refuses a number of columns other than the expected one. -/
def checkWidth (expected : Option (List SqlType)) (width : Nat) : Walk σ Unit :=
  match expected with
  | some types =>
    if types.length = width then return () else throw (.insertWidths types.length width)
  | none => return ()

/-- Brings an output to the types that are expected of it. -/
def fitOutput (expected : Option (List SqlType)) (columns : List BoundExpr) :
    Walk σ (List BoundExpr) := do
  checkWidth expected columns.length
  match expected with
  | some types => BoundExpr.coerceEach columns types
  | none => return columns

/-- The columns of a table as references to them. -/
def starColumns (table : String) : List Column → Walk σ (List BoundExpr)
  | [] => return []
  | c :: cs => do
    let column ← resolveColumn (some table) c.name
    return .column column :: (← starColumns table cs)

/-- All columns of tables, in their order. -/
def starBindings : List Binding → Walk σ (List BoundExpr)
  | [] => return []
  | b :: bs => do return (← starColumns b.name b.columns) ++ (← starBindings bs)

/-- All columns of the tables of the innermost query level, or of the one that is named. -/
def bindStar (table : Option ObjectName) : Walk σ (List BoundExpr) := do
  match table with
  | some table =>
    let name ← ofResult (tableName table)
    match (← currentScope).find? name with
    | some b => starBindings [b]
    | none => throw (.missingTable name)
  | none =>
    let scope ← currentScope
    if scope.isEmpty then throw .starWithoutTables else starBindings scope.bindings

/-- The output that columns are under their own names. -/
def underOwnNames (columns : List BoundExpr) : BoundQuery :=
  ⟨columns.map BoundExpr.name, columns⟩

/-- An output behind another. -/
def BoundQuery.append (q r : BoundQuery) : BoundQuery :=
  ⟨q.names ++ r.names, q.columns ++ r.columns⟩

/-- Whether an expression to order by is a column of the output, by its name or its number. -/
def isOutputReference (names : List String) : Expr → Bool
  | .column name => names.contains name.folded
  | .literal (.number _ _) => true
  | _ => false

/-- Adds a table of the catalog to the query level. -/
def bindTable (catalog : Catalog) (name : ObjectName) (label : Option TableAlias) : Walk σ Unit := do
  let name ← ofResult (tableName name)
  let table ← ofCatalog (catalog.table name)
  let visible := (label.map (·.name.folded)).getD name
  addBinding ⟨visible, ← newTable, table.columns⟩

/-- The columns of a query under the names that are given to the first of them. -/
def renamed (names : List String) (types : List SqlType) (aliases : List Ident) : List Column :=
  List.zipWith Column.mk (aliases.map Ident.folded ++ names.drop aliases.length) types

/-- Adds a query to the query level as a table. -/
def bindDerived (q : BoundQuery) (label : TableAlias) : Walk σ Unit := do
  addBinding ⟨label.name.folded, ← newTable, renamed q.names q.types label.columns⟩

/-- Whether a join of this kind can be typed. -/
def isSupported : JoinKind → Bool
  | .inner => true
  | .left => true
  | .right => true
  | .full => true
  | .cross => true
  | _ => false

/-! ### Expressions, queries and tables -/

section

variable (catalog : Catalog)

mutual

/-- An expression with its type. -/
def bindExpr : Expr → Walk σ BoundExpr
  | .column name => bindColumnRef [name]
  | .qualified parts => bindColumnRef parts
  | .literal value => bindLiteral value
  | .typed type text => do
    let target ← ofType (SqlType.ofDataType type)
    let value ← ofType (Value.parse text target)
    return .constant (Expr.typed type text).render value
  | .cast operand type => do
    let target ← ofType (SqlType.ofDataType type)
    bindCast (Expr.cast operand type).render target (← bindExpr operand)
  | .nested operand => bindExpr operand
  | .binary op left right => do
    let l ← bindExpr left
    let r ← bindExpr right
    bindBinary (Expr.binary op left right).render op l r
  | .unary op operand => do
    bindUnary (Expr.unary op operand).render op (← bindExpr operand)
  | .isNull operand negated => do
    let _ ← bindExpr operand
    return predicateOf (Expr.isNull operand negated).render
  | .inList operand items negated => do
    let e ← bindExpr operand
    let es ← bindExprs items
    bindComparison (Expr.inList operand items negated).render (e :: es)
  | .inQuery operand query negated => do
    let e ← bindExpr operand
    let column ← singleColumn (← bindQuery none query)
    bindComparison (Expr.inQuery operand query negated).render [e, column]
  | .between operand low high negated => do
    let e ← bindExpr operand
    let l ← bindExpr low
    let h ← bindExpr high
    bindComparison (Expr.between operand low high negated).render [e, l, h]
  | .like kind operand pattern escape negated => do
    let _ ← (← bindExpr operand).coerce .varchar
    let _ ← (← bindExpr pattern).coerce .varchar
    return predicateOf (Expr.like kind operand pattern escape negated).render
  | .case operand conditions results otherwise => do
    match operand with
    | some operand =>
      let e ← bindExpr operand
      let es ← bindExprs conditions
      let _ ← BoundExpr.unify (e :: es) (some .varchar)
    | none => bindConditions conditions
    let branches ← bindExprs results
    let last ← bindOption otherwise
    bindBranches (Expr.case operand conditions results otherwise).render (branches ++ last.toList)
  | .exists query negated => do
    let _ ← bindQuery none query
    return predicateOf (Expr.exists query negated).render
  | .subquery query => do
    let column ← singleColumn (← bindQuery none query)
    return .computed (Expr.subquery query).render column.type
  | .arrayOf query => throw (.unsupportedExpr (Expr.arrayOf query).render)
  | .form form operands => throw (.unsupportedExpr (Expr.form form operands).render)

/-- Expressions with their types, from the first to the last. -/
def bindExprs : List Expr → Walk σ (List BoundExpr)
  | [] => return []
  | e :: es => do
    let b ← bindExpr e
    return b :: (← bindExprs es)

/-- An expression that may be missing. -/
def bindOption : Option Expr → Walk σ (Option BoundExpr)
  | some e => some <$> bindExpr e
  | none => return none

/-- Conditions, each of which must be boolean. -/
def bindConditions : List Expr → Walk σ Unit
  | [] => return ()
  | e :: es => do
    let _ ← (← bindExpr e).coerce .boolean
    bindConditions es

/-- A condition, if there is one, which must be boolean. -/
def bindCondition : Option Expr → Walk σ Unit
  | some e => do
    let _ ← (← bindExpr e).coerce .boolean
  | none => return ()

/-- A number of rows, if there is one. -/
def bindCount : Option Expr → Walk σ Unit
  | some e => do
    let _ ← (← bindExpr e).coerce .bigint
  | none => return ()

/-- The rows of a `VALUES` list, all of the given width. -/
def bindRows (width : Nat) : List (List Expr) → Walk σ (List (List BoundExpr))
  | [] => return []
  | row :: rows => do
    if row.length ≠ width then throw .valuesWidths
    let bound ← bindExprs row
    return bound :: (← bindRows width rows)

/-- A query with the names and types of its output, which is brought to the expected types. -/
def bindQuery (expected : Option (List SqlType)) : Query → Walk σ BoundQuery
  | .mk recursive ctes body orderBy limit offset offsetWord fetch lock => do
    if !ctes.isEmpty then
      throw (.unsupportedStatement ("WITH clause in "
        ++ (Query.mk recursive ctes body orderBy limit offset offsetWord fetch lock).render))
    withScope do
      let output ← bindBody false expected body
      bindOrder output.names orderBy
      bindCount limit
      bindCount offset
      return output

/-- The body of a query. A `SELECT` that is combined with others has a query level of its own. -/
def bindBody (combined : Bool) (expected : Option (List SqlType)) : Body → Walk σ BoundQuery
  | .select _ items tables condition groupBy having _ =>
    (if combined then withScope else id) do
      bindTables tables
      bindCondition condition
      let _ ← bindExprs groupBy
      bindCondition having
      let output ← bindItems items
      return ⟨output.names, ← fitOutput expected output.columns⟩
  | .query query => bindQuery expected query
  | .operation _ _ left right => do
    let l ← bindBody true expected left
    let r ← bindBody true expected right
    combineQueries l r
  | .values _ rows => do
    let width := (rows.head?.map List.length).getD 0
    checkWidth expected width
    let bound ← bindRows width rows
    return ⟨valueNames width, ← unifyColumns (columnsOf width bound) expected⟩
  | .other text _ => throw (.unsupportedStatement text)

/-- The items of an output. -/
def bindItems : List SelectItem → Walk σ BoundQuery
  | [] => return ⟨[], []⟩
  | .unnamed value :: items => do
    let e ← bindExpr value
    return (underOwnNames [e]).append (← bindItems items)
  | .named value name :: items => do
    let e ← bindExpr value
    return BoundQuery.append ⟨[name.folded], [e]⟩ (← bindItems items)
  | .wildcard :: items => do
    let columns ← bindStar none
    return (underOwnNames columns).append (← bindItems items)
  | .qualifiedWildcard table :: items => do
    let columns ← bindStar (some table)
    return (underOwnNames columns).append (← bindItems items)

/-- The expressions to order by that are not columns of the output. -/
def bindOrder (names : List String) : List OrderItem → Walk σ Unit
  | [] => return ()
  | .mk value _ :: items => do
    if !isOutputReference names value then
      let _ ← bindExpr value
    bindOrder names items

/-- Adds the tables that a query takes its rows from to the query level. -/
def bindTableRef : TableRef → Walk σ Unit
  | .table name _ _ label _ => bindTable catalog name label
  | .derived _ query label => do
    match label with
    | some label => bindDerived (← bindQuery none query) label
    | none => throw .derivedTableWithoutAlias
  | .function value label => throw (.unsupportedStatement (TableRef.function value label).render)
  | .nested tables label => throw (.unsupportedStatement (TableRef.nested tables label).render)
  | .join left kind right rule condition => do
    bindTableRef left
    bindTableRef right
    if isSupported kind then bindCondition condition
    else
      throw (.unsupportedStatement ("join operator "
        ++ (kind.outline rule (outlineOption condition)).render))

/-- Adds several tables, from the first to the last. -/
def bindTables : List TableRef → Walk σ Unit
  | [] => return ()
  | t :: ts => do
    bindTableRef t
    bindTables ts

end

end

end Prepared
