import Prepared.Sql.Printer.Atom

/-!
# Text of expressions and queries

The written form: keywords in capitals, single spaces, lists with commas. It is what a statement
that was kept for later is read from again.

It is the form in which the package `sqlparser` 0.28 writes a syntax tree, which is followed also
where it is ambiguous: nothing is put between a sign and the sign behind it.
-/

namespace Prepared.Sql

/-- The branches of a `CASE`. -/
def renderBranches : List String → List String → String
  | condition :: conditions, result :: results =>
    " WHEN " ++ condition ++ " THEN " ++ result ++ renderBranches conditions results
  | _, _ => ""

mutual

/-- An expression as it is written. -/
def Expr.render : Expr → String
  | .column name => name.render
  | .qualified parts => ObjectName.render parts
  | .literal value => value.render
  | .typed type text => type.render ++ " " ++ quoted '\'' text
  | .cast operand type => "CAST(" ++ operand.render ++ " AS " ++ type.render ++ ")"
  | .nested operand => "(" ++ operand.render ++ ")"
  | .binary op left right => left.render ++ " " ++ op.render ++ " " ++ right.render
  | .unary op operand => op.apply operand.render
  | .isNull operand negated => operand.render ++ " IS " ++ notWord negated ++ "NULL"
  | .inList operand items negated =>
    operand.render ++ " " ++ notWord negated ++ "IN " ++ parenthesised (renderExprs items)
  | .inQuery operand query negated =>
    operand.render ++ " " ++ notWord negated ++ "IN (" ++ query.render ++ ")"
  | .between operand low high negated =>
    operand.render ++ " " ++ notWord negated ++ "BETWEEN " ++ low.render ++ " AND " ++ high.render
  | .like kind operand pattern escape negated =>
    operand.render ++ " " ++ notWord negated ++ kind.render ++ " " ++ pattern.render
      ++ renderEscape escape
  | .case operand conditions results otherwise =>
    "CASE" ++ renderOption " " operand
      ++ renderBranches (renderExprs conditions) (renderExprs results)
      ++ renderOption " ELSE " otherwise ++ " END"
  | .exists query negated => notWord negated ++ "EXISTS (" ++ query.render ++ ")"
  | .subquery query => "(" ++ query.render ++ ")"
  | .arrayOf query => "ARRAY(" ++ query.render ++ ")"
  | .form form operands => form.render (renderExprs operands)

/-- The texts of expressions. -/
def renderExprs : List Expr → List String
  | [] => []
  | e :: es => e.render :: renderExprs es

/-- The text of an expression that may be missing, behind `before`. -/
def renderOption (before : String) : Option Expr → String
  | some e => before ++ e.render
  | none => ""

/-- The texts of rows, without parentheses. -/
def renderRows : List (List Expr) → List String
  | [] => []
  | row :: rows => commaSeparated (renderExprs row) :: renderRows rows

/-- A query as it is written. -/
def Query.render : Query → String
  | .mk recursive ctes body orderBy limit offset offsetWord fetch lock =>
    (if ctes.isEmpty then ""
      else
        "WITH " ++ (if recursive then "RECURSIVE " else "") ++ commaSeparated (renderCtes ctes)
          ++ " ")
    ++ body.render
    ++ renderList " ORDER BY " (renderOrder orderBy)
    ++ renderOption " LIMIT " limit
    ++ renderOption " OFFSET " offset
    ++ offsetWord.render
    ++ whenSome " " Fetch.render fetch
    ++ whenSome " " Lock.render lock

/-- The texts of named queries. -/
def renderCtes : List Cte → List String
  | [] => []
  | .mk label query source :: ctes =>
    (label.render ++ " AS (" ++ query.render ++ ")" ++ whenSome " FROM " Ident.render source)
      :: renderCtes ctes

/-- The texts of expressions to order by. -/
def renderOrder : List OrderItem → List String
  | [] => []
  | .mk value direction :: items => (value.render ++ direction.render) :: renderOrder items

/-- The body of a query as it is written. -/
def Body.render : Body → String
  | .select distinct items tables condition groupBy having
      (.mk top into laterals clusterBy distributeBy sortBy qualify) =>
    "SELECT " ++ distinctWord distinct
      ++ (match top with | some top => top.render ++ " " | none => "")
      ++ commaSeparated (renderItems items) ++ whenSome " " IntoTable.render into
      ++ renderList " FROM " (renderTables tables)
      ++ renderLaterals laterals
      ++ renderOption " WHERE " condition
      ++ renderList " GROUP BY " (renderExprs groupBy)
      ++ renderList " CLUSTER BY " (renderExprs clusterBy)
      ++ renderList " DISTRIBUTE BY " (renderExprs distributeBy)
      ++ renderList " SORT BY " (renderExprs sortBy)
      ++ renderOption " HAVING " having
      ++ renderOption " QUALIFY " qualify
  | .query query => "(" ++ query.render ++ ")"
  | .operation op quantifier left right =>
    left.render ++ " " ++ op.render ++ quantifier.render ++ " " ++ right.render
  | .values rowWord rows =>
    let open_ := if rowWord then "ROW(" else "("
    "VALUES " ++ commaSeparated ((renderRows rows).map fun row => open_ ++ row ++ ")")
  | .other text _ => text

/-- A bound on the number of rows in front of the items of a `SELECT`. -/
def Top.render : Top → String
  | .mk quantity percent withTies =>
    "TOP (" ++ quantity.render ++ ")" ++ (if percent then " PERCENT" else "")
      ++ (if withTies then " WITH TIES" else "")

/-- Tables that functions make of every row, one behind the other. -/
def renderLaterals : List LateralView → String
  | [] => ""
  | .mk outer value name columns :: laterals =>
    " LATERAL VIEW" ++ (if outer then " OUTER" else "") ++ " " ++ value.render ++ " "
      ++ ObjectName.render name ++ renderList " AS " (columns.map Ident.render)
      ++ renderLaterals laterals

/-- The texts of the items of an output. -/
def renderItems : List SelectItem → List String
  | [] => []
  | .unnamed value :: items => value.render :: renderItems items
  | .named value name :: items => (value.render ++ " AS " ++ name.render) :: renderItems items
  | .wildcard :: items => "*" :: renderItems items
  | .qualifiedWildcard table :: items => (ObjectName.render table ++ ".*") :: renderItems items

/-- What a query takes its rows from, as it is written. -/
def TableRef.render : TableRef → String
  | .table name hasArgs args label hints =>
    ObjectName.render name ++ (if hasArgs then parenthesised (renderExprs args) else "")
      ++ renderAlias label
      ++ (if hints.isEmpty then "" else " WITH " ++ parenthesised (renderExprs hints))
  | .derived lateral query label =>
    (if lateral then "LATERAL " else "") ++ "(" ++ query.render ++ ")" ++ renderAlias label
  | .function value label => "TABLE(" ++ value.render ++ ")" ++ renderAlias label
  | .nested tables label => "(" ++ tables.render ++ ")" ++ renderAlias label
  | .join left kind right rule condition =>
    left.render ++ " " ++ (if rule = .natural then "NATURAL " else "") ++ kind.render ++ " "
      ++ right.render
      ++ (match rule with
        | .using columns => " USING" ++ renderColumns columns
        | _ => "")
      ++ renderOption " ON " condition

/-- The texts of tables. -/
def renderTables : List TableRef → List String
  | [] => []
  | t :: ts => t.render :: renderTables ts

end

end Prepared.Sql
