import Prepared.Sql.Outline.Atom
import Prepared.Sql.Syntax

/-!
# Outlines of expressions and queries

The constructors and their fields are those of the syntax tree of the package `sqlparser` 0.28.
-/

namespace Prepared.Sql

/-- An expression with the given outline as an argument of a function. -/
def Expr.asArgument (e : Expr) (o : Outline) : Outline :=
  match e with
  | .form (.star _) _ => o
  | .form (.argument _) _ => o
  | _ => .node "Expr" [o]

/-- The name of a table in a query, and names for its first columns. -/
def TableAlias.outline (a : TableAlias) : Outline :=
  .record "TableAlias" [.field "name" a.name.outline, .field "columns" (identsOutline a.columns)]

/-- A bound in the words of `FETCH`. -/
def Fetch.outline (f : Fetch) : Outline :=
  .record "Fetch" [
    .field "with_ties" (.bool f.withTies), .field "percent" (.bool f.percent),
    .field "quantity" (.ofOption (fun l => .node "Value" [l.outline]) f.quantity)]

/-- The new table that the rows of a query go into. -/
def IntoTable.outline (t : IntoTable) : Outline :=
  .record "SelectInto" [
    .field "temporary" (.bool t.temporary), .field "unlogged" (.bool t.unlogged),
    .field "table" (.bool t.tableWord), .field "name" t.name.outline]

/-- What the rows of a query are locked for. -/
def Lock.outline : Lock → Outline
  | update => .atom "Update"
  | share => .atom "Share"

/-- The word behind a number of rows. -/
def RowWord.outline : RowWord → Outline
  | none => .atom "None"
  | row => .atom "Row"
  | rows => .atom "Rows"

/-- A set operator. -/
def SetOperator.outline (op : SetOperator) : Outline :=
  .atom (wordLabel op.render)

/-- What a set operation does about equal rows. -/
def SetQuantifier.outline : SetQuantifier → Outline
  | none => .atom "None"
  | all => .atom "All"
  | distinct => .atom "Distinct"

/-- A set operation over two bodies. -/
def operationOutline (op : SetOperator) (quantifier : SetQuantifier) (left right : Outline) :
    Outline :=
  .record "SetOperation" [
    .field "op" op.outline, .field "set_quantifier" quantifier.outline, .field "left" left,
    .field "right" right]

/-- All columns of the output; none of them is left out. -/
def starOutline (name : String) (qualifier : List Outline) : Outline :=
  .node name (qualifier ++ [.record "WildcardAdditionalOptions" [
    .field "opt_exclude" (.atom "None"), .field "opt_except" (.atom "None")]])

/-- A join of a kind that a rule says more about, or of one that has none. The rule holds the
outline of the condition of `ON`. -/
def JoinKind.outline (kind : JoinKind) (rule : JoinRule) (condition : Option Outline) : Outline :=
  match kind with
  | inner => withRule "Inner"
  | left => withRule "LeftOuter"
  | right => withRule "RightOuter"
  | full => withRule "FullOuter"
  | cross => .atom "CrossJoin"
  | leftSemi => withRule "LeftSemi"
  | rightSemi => withRule "RightSemi"
  | leftAnti => withRule "LeftAnti"
  | rightAnti => withRule "RightAnti"
  | crossApply => .atom "CrossApply"
  | outerApply => .atom "OuterApply"
where
  /-- The kind with the rule that says which rows go together. -/
  withRule (name : String) : Outline :=
    .node name [match rule with
      | .on => .node "On" condition.toList
      | .using columns => .node "Using" [identsOutline columns]
      | .natural => .atom "Natural"
      | .none => .atom "None"]

/-- A table joined to others, before the tables that follow it. -/
def joinOutline (relation operator : Outline) : Outline :=
  .record "Join" [.field "relation" relation, .field "join_operator" operator]

/-- Tables joined to a first one. -/
def joinedOutline (relation : Outline) (joins : List Outline) : Outline :=
  .record "TableWithJoins" [.field "relation" relation, .field "joins" (.list joins)]

/-- A pattern match under its name. -/
def LikeKind.label : LikeKind → String
  | like => "Like"
  | ilike => "ILike"

mutual

/-- An expression. -/
def Expr.outline : Expr → Outline
  | .column name => .node "Identifier" [name.outline]
  | .qualified parts => .node "CompoundIdentifier" [identsOutline parts]
  | .literal value => .node "Value" [value.outline]
  | .typed type text =>
    .record "TypedString" [.field "data_type" type.outline, .field "value" (.text text)]
  | .cast operand type =>
    .record "Cast" [.field "expr" operand.outline, .field "data_type" type.outline]
  | .nested operand => .node "Nested" [operand.outline]
  | .binary op left right =>
    .record "BinaryOp" [
      .field "left" left.outline, .field "op" op.outline, .field "right" right.outline]
  | .unary op operand =>
    .record "UnaryOp" [.field "op" op.outline, .field "expr" operand.outline]
  | .isNull operand negated =>
    .node (if negated then "IsNotNull" else "IsNull") [operand.outline]
  | .inList operand items negated =>
    .record "InList" [
      .field "expr" operand.outline, .field "list" (.list (outlines items)),
      .field "negated" (.bool negated)]
  | .inQuery operand query negated =>
    .record "InSubquery" [
      .field "expr" operand.outline, .field "subquery" query.outline,
      .field "negated" (.bool negated)]
  | .between operand low high negated =>
    .record "Between" [
      .field "expr" operand.outline, .field "negated" (.bool negated), .field "low" low.outline,
      .field "high" high.outline]
  | .like kind operand pattern escape negated =>
    .record kind.label [
      .field "negated" (.bool negated), .field "expr" operand.outline,
      .field "pattern" pattern.outline, .field "escape_char" (.ofOption .char escape)]
  | .case operand conditions results otherwise =>
    .record "Case" [
      .field "operand" (.option (outlineOption operand)),
      .field "conditions" (.list (outlines conditions)),
      .field "results" (.list (outlines results)),
      .field "else_result" (.option (outlineOption otherwise))]
  | .exists query negated =>
    .record "Exists" [.field "subquery" query.outline, .field "negated" (.bool negated)]
  | .subquery query => .node "Subquery" [query.outline]
  | .arrayOf query => .node "ArraySubquery" [query.outline]
  | .form form operands => form.outline (outlines operands) (outlineArgs operands)

/-- Expressions. -/
def outlines : List Expr → List Outline
  | [] => []
  | e :: es => e.outline :: outlines es

/-- Expressions as arguments of a function. -/
def outlineArgs : List Expr → List Outline
  | [] => []
  | e :: es => e.asArgument e.outline :: outlineArgs es

/-- An expression that may be missing. -/
def outlineOption : Option Expr → Option Outline
  | some e => some e.outline
  | none => none

/-- The rows of a `VALUES` list. -/
def outlineRows : List (List Expr) → List Outline
  | [] => []
  | row :: rows => .list (outlines row) :: outlineRows rows

/-- A query. -/
def Query.outline : Query → Outline
  | .mk recursive ctes body orderBy limit offset offsetWord fetch lock =>
    .record "Query" [
      .field "with" (.option (if ctes.isEmpty then none
        else some (.record "With" [
          .field "recursive" (.bool recursive), .field "cte_tables" (.list (outlineCtes ctes))]))),
      .field "body" body.outline,
      .field "order_by" (.list (outlineOrder orderBy)),
      .field "limit" (.option (outlineOption limit)),
      .field "offset" (.option ((outlineOption offset).map fun value => .record "Offset" [
        .field "value" value, .field "rows" offsetWord.outline])),
      .field "fetch" (.ofOption Fetch.outline fetch),
      .field "lock" (.ofOption Lock.outline lock)]

/-- Named queries. -/
def outlineCtes : List Cte → List Outline
  | [] => []
  | .mk label query source :: ctes =>
    .record "Cte" [
      .field "alias" label.outline, .field "query" query.outline,
      .field "from" (.ofOption Ident.outline source)] :: outlineCtes ctes

/-- Expressions to order by. -/
def outlineOrder : List OrderItem → List Outline
  | [] => []
  | .mk value direction :: items =>
    directedOutline [direction] [value.outline] ++ outlineOrder items

/-- The body of a query. -/
def Body.outline : Body → Outline
  | .select distinct items tables condition groupBy having
      (.mk top into laterals clusterBy distributeBy sortBy qualify) =>
    .node "Select" [.record "Select" [
      .field "distinct" (.bool distinct),
      .field "top" (match top with
        | some top => .node "Some" [top.outline]
        | none => .atom "None"),
      .field "projection" (.list (outlineItems items)),
      .field "into" (.ofOption IntoTable.outline into),
      .field "from" (.list (outlineTables tables)),
      .field "lateral_views" (.list (outlineLaterals laterals)),
      .field "selection" (.option (outlineOption condition)),
      .field "group_by" (.list (outlines groupBy)),
      .field "cluster_by" (.list (outlines clusterBy)),
      .field "distribute_by" (.list (outlines distributeBy)),
      .field "sort_by" (.list (outlines sortBy)),
      .field "having" (.option (outlineOption having)),
      .field "qualify" (.option (outlineOption qualify))]]
  | .query query => .node "Query" [query.outline]
  | .operation op quantifier left right =>
    operationOutline op quantifier left.outline right.outline
  | .values rowWord rows =>
    .node "Values" [.record "Values" [
      .field "explicit_row" (.bool rowWord), .field "rows" (.list (outlineRows rows))]]
  | .other _ outline => outline

/-- A bound on the number of rows in front of the items of a `SELECT`. -/
def Top.outline : Top → Outline
  | .mk quantity percent withTies =>
    .record "Top" [
      .field "with_ties" (.bool withTies), .field "percent" (.bool percent),
      .field "quantity" (.node "Some" [quantity.outline])]

/-- Tables that functions make of every row. -/
def outlineLaterals : List LateralView → List Outline
  | [] => []
  | .mk outer value name columns :: laterals =>
    .record "LateralView" [
      .field "lateral_view" value.outline,
      .field "lateral_view_name" (ObjectName.outline name),
      .field "lateral_col_alias" (identsOutline columns),
      .field "outer" (.bool outer)] :: outlineLaterals laterals

/-- The items of an output. -/
def outlineItems : List SelectItem → List Outline
  | [] => []
  | .unnamed value :: items => .node "UnnamedExpr" [value.outline] :: outlineItems items
  | .named value name :: items =>
    .record "ExprWithAlias" [.field "expr" value.outline, .field "alias" name.outline]
      :: outlineItems items
  | .wildcard :: items => starOutline "Wildcard" [] :: outlineItems items
  | .qualifiedWildcard table :: items =>
    starOutline "QualifiedWildcard" [ObjectName.outline table] :: outlineItems items

/-- What a query takes its rows from: the first table, and the joins behind it. -/
def TableRef.outlineParts : TableRef → Outline × List Outline
  | .table name hasArgs args label hints =>
    (.record "Table" [
      .field "name" (ObjectName.outline name),
      .field "alias" (.ofOption TableAlias.outline label),
      .field "args" (.option (if hasArgs then
        some (.list ((outlineArgs args).map argumentOutline)) else none)),
      .field "with_hints" (.list (outlines hints))], [])
  | .derived lateral query label =>
    (.record "Derived" [
      .field "lateral" (.bool lateral), .field "subquery" query.outline,
      .field "alias" (.ofOption TableAlias.outline label)], [])
  | .function value label =>
    (.record "TableFunction" [
      .field "expr" value.outline, .field "alias" (.ofOption TableAlias.outline label)], [])
  | .nested tables label =>
    let (relation, joins) := tables.outlineParts
    (.record "NestedJoin" [
      .field "table_with_joins" (joinedOutline relation joins),
      .field "alias" (.ofOption TableAlias.outline label)], [])
  | .join left kind right rule condition =>
    let (relation, joins) := left.outlineParts
    let operator := kind.outline rule (outlineOption condition)
    (relation, joins ++ [joinOutline right.outlineParts.1 operator])

/-- Tables that a query takes its rows from. -/
def outlineTables : List TableRef → List Outline
  | [] => []
  | t :: ts =>
    let (relation, joins) := t.outlineParts
    joinedOutline relation joins :: outlineTables ts

end

end Prepared.Sql
