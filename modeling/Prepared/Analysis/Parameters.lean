import Prepared.Analysis.Statement

/-!
# The parameters that a statement refers to

The numbers of the placeholders in a statement, in the order of the text. Only those parts count that
the analysis reads: a placeholder in a clause that it passes over is not among them, and neither is
one in a form of expression or of table that has no types here.
-/

namespace Prepared.Sql

/-- The number of the parameter that a literal stands for. -/
def Literal.parameter? : Literal → Option Nat
  | .placeholder text => ParamTypes.number? text
  | _ => none

mutual

/-- The parameters that an expression refers to. -/
def Expr.parameters : Expr → List Nat
  | .literal value => value.parameter?.toList
  | .cast operand _ => operand.parameters
  | .nested operand => operand.parameters
  | .binary _ left right => left.parameters ++ right.parameters
  | .unary _ operand => operand.parameters
  | .isNull operand _ => operand.parameters
  | .inList operand items _ => operand.parameters ++ parametersOfAll items
  | .inQuery operand query _ => operand.parameters ++ query.parameters
  | .between operand low high _ => operand.parameters ++ low.parameters ++ high.parameters
  | .like _ operand pattern _ _ => operand.parameters ++ pattern.parameters
  | .case operand conditions results otherwise =>
    parametersOfOption operand ++ parametersOfAll conditions ++ parametersOfAll results
      ++ parametersOfOption otherwise
  | .exists query _ => query.parameters
  | .subquery query => query.parameters
  | _ => []

/-- Those of several expressions, from left to right. -/
def parametersOfAll : List Expr → List Nat
  | [] => []
  | e :: es => e.parameters ++ parametersOfAll es

/-- Those of an expression that may be missing. -/
def parametersOfOption : Option Expr → List Nat
  | some e => e.parameters
  | none => []

/-- Those of the rows of a `VALUES`. -/
def parametersOfRows : List (List Expr) → List Nat
  | [] => []
  | row :: rows => parametersOfAll row ++ parametersOfRows rows

/-- The parameters that a query refers to. -/
def Query.parameters : Query → List Nat
  | .mk _ _ body orderBy limit offset _ _ _ =>
    body.parameters ++ parametersOfOrder orderBy ++ parametersOfOption limit
      ++ parametersOfOption offset

/-- In the order in which the clauses are bound: the output comes last. -/
def Body.parameters : Body → List Nat
  | .select _ items tables condition groupBy having _ =>
    parametersOfTables tables ++ parametersOfOption condition ++ parametersOfAll groupBy
      ++ parametersOfOption having ++ parametersOfItems items
  | .query query => query.parameters
  | .operation _ _ left right => left.parameters ++ right.parameters
  | .values _ rows => parametersOfRows rows
  | .other _ _ => []

/-- Those of an output. Wildcards have none. -/
def parametersOfItems : List SelectItem → List Nat
  | [] => []
  | .unnamed value :: items => value.parameters ++ parametersOfItems items
  | .named value _ :: items => value.parameters ++ parametersOfItems items
  | .wildcard :: items => parametersOfItems items
  | .qualifiedWildcard _ :: items => parametersOfItems items

/-- Those of an `ORDER BY`. -/
def parametersOfOrder : List OrderItem → List Nat
  | [] => []
  | .mk value _ :: items => value.parameters ++ parametersOfOrder items

/-- Those of subqueries and join conditions in a `FROM`. -/
def TableRef.parameters : TableRef → List Nat
  | .derived _ query _ => query.parameters
  | .join left _ right _ condition =>
    left.parameters ++ right.parameters ++ parametersOfOption condition
  | _ => []

/-- Those of all tables of a `FROM`. -/
def parametersOfTables : List TableRef → List Nat
  | [] => []
  | t :: ts => t.parameters ++ parametersOfTables ts

end

/-- The parameters that a table to take values from refers to, if there is one. -/
def parametersOfSource : Option TableRef → List Nat
  | some t => t.parameters
  | none => []

/-- The parameters that a statement refers to. -/
def Statement.parameters : Statement → List Nat
  | .query q => q.parameters
  | .insert i => i.source.parameters
  | .update table assignments source condition _ =>
    table.parameters ++ parametersOfSource source ++ parametersOfOption condition
      ++ assignments.flatMap fun a => a.value.parameters
  | .delete table _ condition _ => table.parameters ++ parametersOfOption condition
  | _ => []

end Prepared.Sql
