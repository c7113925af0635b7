import Prepared.Sql.Syntax
import Prepared.Text.LowerCase

/-!
# Text of names, literals, types and operators

The parts of the written form that hold no expressions, and for every `Form` the pattern in which
its operands are written.

The patterns are those in which the package `sqlparser` 0.28 writes its syntax trees; results about
printed texts trust them.
-/

namespace Prepared.Sql

/-! ### Lists and quotes -/

/-- The texts with a comma and a space between them. -/
def commaSeparated (texts : List String) : String :=
  ", ".intercalate texts

/-- The texts in parentheses, with commas between them. -/
def parenthesised (texts : List String) : String :=
  "(" ++ commaSeparated texts ++ ")"

/-- The text of something that may be missing, behind `before`. -/
def whenSome {α : Type} (before : String) (render : α → String) : Option α → String
  | some a => before ++ render a
  | none => ""

/-- The texts with commas between them behind `before`, or nothing if there are none. -/
def renderList (before : String) (texts : List String) : String :=
  if texts.isEmpty then "" else before ++ commaSeparated texts

/-- The characters of `s` with every `quote` written twice. -/
def doubleQuotes (quote : Char) : List Char → List Char
  | [] => []
  | c :: s => if c = quote then c :: c :: doubleQuotes quote s else c :: doubleQuotes quote s

/-- The text `s` between quotes, with those inside written twice. -/
def quoted (quote : Char) (s : String) : String :=
  String.ofList (quote :: doubleQuotes quote s.toList ++ [quote])

/-- The characters of `s` as they are written in a string with escapes. -/
def escapeChars : List Char → List Char
  | [] => []
  | '\\' :: s => '\\' :: '\\' :: escapeChars s
  | '\'' :: s => '\\' :: '\'' :: escapeChars s
  | '\n' :: s => '\\' :: 'n' :: escapeChars s
  | '\t' :: s => '\\' :: 't' :: escapeChars s
  | '\r' :: s => '\\' :: 'r' :: escapeChars s
  | c :: s => c :: escapeChars s

/-- The text `s` as a string with escapes. -/
def escapedString (s : String) : String :=
  "E'" ++ String.ofList (escapeChars s.toList) ++ "'"

/-! ### Names and literals -/

/-- A name as it is written. -/
def Ident.render (i : Ident) : String :=
  match i.quote with
  | none => i.value
  | some '[' => "[" ++ i.value ++ "]"
  | some q => quoted q i.value

/-- A qualified name as it is written. -/
def ObjectName.render (name : ObjectName) : String :=
  ".".intercalate (name.map Ident.render)

/-- A list of names in parentheses. -/
def renderColumns (columns : List Ident) : String :=
  parenthesised (columns.map Ident.render)

/-- A list of names in parentheses behind a space, or nothing. -/
def renderColumnsIfAny (columns : List Ident) : String :=
  if columns.isEmpty then "" else " " ++ renderColumns columns

/-- A literal as it is written. -/
def Literal.render : Literal → String
  | number text long => if long then text ++ "L" else text
  | singleQuoted text => quoted '\'' text
  | doubleQuoted text => "\"" ++ text ++ "\""
  | escaped text => escapedString text
  | national text => "N'" ++ text ++ "'"
  | hex text => "X'" ++ text ++ "'"
  | boolean value => if value then "true" else "false"
  | null => "NULL"
  | placeholder text => text
  | bare text => text

/-! ### Types -/

/-- The spelling of an integer type. -/
def IntegerWord.render : IntegerWord → String
  | tinyint => "TINYINT"
  | smallint => "SMALLINT"
  | mediumint => "MEDIUMINT"
  | int => "INT"
  | integer => "INTEGER"
  | bigint => "BIGINT"

/-- The unit of a length. -/
def LengthUnit.render : LengthUnit → String
  | characters => "CHARACTERS"
  | octets => "OCTETS"

/-- The length of a character type. -/
def CharLength.render (l : CharLength) : String :=
  toString l.length ++ whenSome " " LengthUnit.render l.unit

/-- The length or precision of a type, in parentheses. -/
def renderArg {α : Type} (render : α → String) : Option α → String
  | some a => "(" ++ render a ++ ")"
  | none => ""

/-- The spelling of a type of short texts. -/
def CharWord.render : CharWord → String
  | character => "CHARACTER"
  | char => "CHAR"
  | characterVarying => "CHARACTER VARYING"
  | charVarying => "CHAR VARYING"
  | varchar => "VARCHAR"

/-- The spelling of a type of long texts or of bytes. -/
def LargeWord.render : LargeWord → String
  | characterLargeObject => "CHARACTER LARGE OBJECT"
  | charLargeObject => "CHAR LARGE OBJECT"
  | clob => "CLOB"
  | binary => "BINARY"
  | varbinary => "VARBINARY"
  | blob => "BLOB"

/-- The spelling of a type of exact numbers. -/
def ExactWord.render : ExactWord → String
  | numeric => "NUMERIC"
  | decimal => "DECIMAL"
  | dec => "DEC"

/-- The number of all digits and of those behind the point, without a space between. -/
def renderDigits (precision scale : Option Nat) : String :=
  renderArg (fun p => toString p ++ whenSome "," toString scale) precision

/-- The name of a type of points in time with its precision and what it says of a zone. -/
def renderTime (name : String) (precision : Option Nat) : ZoneRule → String
  | .silent => name ++ renderArg toString precision
  | .zoned => name ++ renderArg toString precision ++ " WITH TIME ZONE"
  | .unzoned => name ++ renderArg toString precision ++ " WITHOUT TIME ZONE"
  | .suffix => name ++ "TZ" ++ renderArg toString precision

/-- Texts in quotes, in parentheses. -/
def renderTexts (texts : List String) : String :=
  parenthesised (texts.map (quoted '\''))

/-- A type as it is written. -/
def DataType.render : DataType → String
  | boolean => "BOOLEAN"
  | integer word width unsigned =>
    word.render ++ renderArg toString width ++ (if unsigned then " UNSIGNED" else "")
  | float precision => "FLOAT" ++ renderArg toString precision
  | real => "REAL"
  | double => "DOUBLE"
  | doublePrecision => "DOUBLE PRECISION"
  | exact word precision scale => word.render ++ renderDigits precision scale
  | char word length => word.render ++ renderArg CharLength.render length
  | nvarchar length => "NVARCHAR" ++ renderArg toString length
  | large word length => word.render ++ renderArg toString length
  | text => "TEXT"
  | string => "STRING"
  | uuid => "UUID"
  | bytea => "BYTEA"
  | regclass => "REGCLASS"
  | date => "DATE"
  | interval => "INTERVAL"
  | datetime precision => "DATETIME" ++ renderArg toString precision
  | time precision zone => renderTime "TIME" precision zone
  | timestamp precision zone => renderTime "TIMESTAMP" precision zone
  | enumeration texts => "ENUM" ++ renderTexts texts
  | set texts => "SET" ++ renderTexts texts
  | custom name modifiers =>
    name.render ++ if modifiers.isEmpty then "" else parenthesised modifiers
  | array element => element.render ++ "[]"

/-! ### Operators and forms -/

/-- An operator between two operands. -/
def BinaryOp.render : BinaryOp → String
  | eq => "="
  | notEq => "<>"
  | lt => "<"
  | ltEq => "<="
  | gt => ">"
  | gtEq => ">="
  | plus => "+"
  | minus => "-"
  | multiply => "*"
  | divide => "/"
  | modulo => "%"
  | and => "AND"
  | or => "OR"
  | concat => "||"
  | other text => text
  | custom name => "OPERATOR(" ++ ".".intercalate name ++ ")"

/-- An operator with one operand. -/
def UnaryOp.render : UnaryOp → String
  | not => "NOT"
  | plus => "+"
  | minus => "-"
  | factorial => "!"
  | other text => text

/-- An operator with its operand. -/
def UnaryOp.apply : UnaryOp → String → String
  | factorial, operand => operand ++ "!"
  | not, operand => "NOT " ++ operand
  | op, operand => op.render ++ operand

/-- The word that turns a predicate around, and the space behind it. -/
def notWord (negated : Bool) : String :=
  if negated then "NOT " else ""

/-- The word `DISTINCT` and the space behind it. -/
def distinctWord (distinct : Bool) : String :=
  if distinct then "DISTINCT " else ""

/-- The character that takes away the meaning of a wildcard. -/
def renderEscape : Option Char → String :=
  whenSome " ESCAPE '" fun c => String.singleton c ++ "'"

/-- A truth value that `IS` tests for. -/
def Truth.render : Truth → String
  | isTrue => "TRUE"
  | isFalse => "FALSE"
  | isUnknown => "UNKNOWN"

/-- The name of a kind of pattern matching. -/
def LikeKind.render : LikeKind → String
  | like => "LIKE"
  | ilike => "ILIKE"

/-- An optional operand behind a word. -/
def renderClause (word : String) (present : Bool) : List String → String
  | [] => ""
  | operand :: _ => if present then " " ++ word ++ " " ++ operand else ""

/-- The directions of an order, each behind a space. -/
def Direction.render (d : Direction) : String :=
  (match d.ascending with | some true => " ASC" | some false => " DESC" | none => "")
    ++ match d.nullsFirst with
      | some true => " NULLS FIRST"
      | some false => " NULLS LAST"
      | none => ""

/-- Expressions to order by, with their directions. -/
def renderDirected (directions : List Direction) (operands : List String) : String :=
  commaSeparated (List.zipWith (fun operand d => operand ++ d.render) operands directions)

/-- The word for what the distance of a bound is counted in. -/
def FrameUnit.render : FrameUnit → String
  | rows => "ROWS"
  | range => "RANGE"
  | groups => "GROUPS"

/-- How many operands a bound has: its distance, or none. -/
def FrameBound.operands : FrameBound → Nat
  | preceding true => 1
  | following true => 1
  | _ => 0

/-- A bound of a window with its distance. -/
def FrameBound.render (bound : FrameBound) (operands : List String) : String :=
  match bound with
  | currentRow => "CURRENT ROW"
  | preceding true => operands.headD "" ++ " PRECEDING"
  | preceding false => "UNBOUNDED PRECEDING"
  | following true => operands.headD "" ++ " FOLLOWING"
  | following false => "UNBOUNDED FOLLOWING"

/-- The bounds of a window with their distances. -/
def Frame.render (f : Frame) (operands : List String) : String :=
  let start := f.start.render operands
  match f.finish with
  | none => f.unit.render ++ " " ++ start
  | some finish =>
    f.unit.render ++ " BETWEEN " ++ start ++ " AND "
      ++ finish.render (operands.drop f.start.operands)

/-- How many operands a window has. -/
def Window.operands (w : Window) : Nat :=
  w.partition + w.order.length
    + match w.frame with
      | some f => f.start.operands + (f.finish.map FrameBound.operands).getD 0
      | none => 0

/-- A window with the texts of its operands. -/
def Window.render (w : Window) (operands : List String) : String :=
  let partition := operands.take w.partition
  let others := operands.drop w.partition
  let clauses :=
    (if partition.isEmpty then [] else ["PARTITION BY " ++ commaSeparated partition])
    ++ (if w.order.isEmpty then [] else ["ORDER BY " ++ renderDirected w.order others])
    ++ (w.frame.map fun f => f.render (others.drop w.order.length)).toList
  " OVER (" ++ " ".intercalate clauses ++ ")"

/-- What is done about a list of texts that gets too long, with the filler if there is one. -/
def Overflow.render (overflow : Overflow) (operands : List String) : String :=
  match overflow with
  | error => " ON OVERFLOW ERROR"
  | truncate hasFiller withCount =>
    " ON OVERFLOW TRUNCATE" ++ (if hasFiller then " " ++ operands.headD "" else "")
      ++ (if withCount then " WITH COUNT" else " WITHOUT COUNT")

/-- The list cut into parts of the given lengths. -/
def splitSizes {α : Type} : List Nat → List α → List (List α)
  | [], _ => []
  | n :: ns, s => s.take n :: splitSizes ns (s.drop n)

/-- A set of expressions to group by. A set of one needs no parentheses where `bare` is true. -/
def renderSet (bare : Bool) (operands : List String) : String :=
  match bare, operands with
  | true, [operand] => operand
  | _, operands => parenthesised operands

/-- Sets of expressions to group by, with the word in front of them. -/
def GroupingWord.render (word : GroupingWord) (sets : List (List String)) : String :=
  match word with
  | groupingSets => "GROUPING SETS " ++ parenthesised (sets.map (renderSet false))
  | cube => "CUBE " ++ parenthesised (sets.map (renderSet true))
  | rollup => "ROLLUP " ++ parenthesised (sets.map (renderSet true))

/-- A list of texts that an aggregate makes of the operands. -/
def renderListAgg (distinct hasSeparator : Bool) (overflow : Option Overflow)
    (order : List Direction) (operands : List String) : String :=
  let others := operands.drop 1
  let rest := if hasSeparator then others.drop 1 else others
  "LISTAGG(" ++ distinctWord distinct ++ operands.headD ""
    ++ (if hasSeparator then ", " ++ others.headD "" else "")
    ++ whenSome "" (fun o => o.render rest) overflow ++ ")"
    ++ if order.isEmpty then ""
      else
        " WITHIN GROUP (ORDER BY "
          ++ renderDirected order (operands.drop (operands.length - order.length)) ++ ")"

/-- A call of a function with the texts of its arguments and of the operands of its window. -/
def renderCall (name : ObjectName) (distinct bare : Bool) (window : Option Window)
    (operands : List String) : String :=
  let args := operands.length - (window.map Window.operands).getD 0
  name.render
    ++ (if bare then ""
      else "(" ++ distinctWord distinct ++ commaSeparated (operands.take args) ++ ")")
    ++ whenSome "" (fun w => w.render (operands.drop args)) window

/-- A form with the text of its operands, in the order in which they are written. -/
def Form.render (form : Form) (operands : List String) : String :=
  let first := operands.headD ""
  let others := operands.drop 1
  let second := others.headD ""
  match form with
  | tuple => parenthesised operands
  | any => "ANY(" ++ first ++ ")"
  | all => "ALL(" ++ first ++ ")"
  | truthTest truth negated => first ++ " IS " ++ notWord negated ++ truth.render
  | distinctFrom negated => first ++ " IS " ++ notWord negated ++ "DISTINCT FROM " ++ second
  | similarTo escape negated =>
    first ++ " " ++ notWord negated ++ "SIMILAR TO " ++ second ++ renderEscape escape
  | inUnnest negated => first ++ " " ++ notWord negated ++ "IN UNNEST(" ++ second ++ ")"
  | softCast word type => word ++ "(" ++ first ++ " AS " ++ type.render ++ ")"
  | extract unit => "EXTRACT(" ++ unit ++ " FROM " ++ first ++ ")"
  | rounding word unit => word ++ "(" ++ first ++ whenSome " TO " id unit ++ ")"
  | position => "POSITION(" ++ first ++ " IN " ++ second ++ ")"
  | substring hasStart hasLength =>
    "SUBSTRING(" ++ first ++ renderClause "FROM" hasStart others
      ++ renderClause "FOR" hasLength (if hasStart then others.drop 1 else others) ++ ")"
  | overlay hasLength =>
    "OVERLAY(" ++ first ++ " PLACING " ++ second ++ renderClause "FROM" true (others.drop 1)
      ++ renderClause "FOR" hasLength (others.drop 2) ++ ")"
  | trim side hasWhat =>
    "TRIM(" ++ (match side with | some side => side ++ " " | none => "")
      ++ (if hasWhat then first ++ " FROM " ++ second else first) ++ ")"
  | array named => (if named then "ARRAY" else "") ++ "[" ++ commaSeparated operands ++ "]"
  | index => first ++ String.join (others.map fun i => "[" ++ i ++ "]")
  | path operator =>
    if operator = ":" then first ++ operator ++ second
    else first ++ " " ++ operator ++ " " ++ second
  | collate name => first ++ " COLLATE " ++ name.render
  | field key => first ++ "." ++ key.render
  | atTimeZone zone => first ++ " AT TIME ZONE '" ++ zone ++ "'"
  | interval (some "SECOND") (some precision) none (some fraction) =>
    "INTERVAL " ++ first ++ " SECOND (" ++ toString precision ++ ", " ++ toString fraction ++ ")"
  | interval unit precision last fraction =>
    "INTERVAL " ++ first ++ whenSome " " id unit ++ whenSome "" renderPrecision precision
      ++ whenSome " TO " id last ++ whenSome "" renderPrecision fraction
  | arrayAgg distinct order hasLimit =>
    "ARRAY_AGG(" ++ distinctWord distinct ++ first
      ++ whenSome " ORDER BY " (fun d => second ++ d.render) order
      ++ renderClause "LIMIT" hasLimit (if order.isSome then others.drop 1 else others) ++ ")"
  | listAgg distinct hasSeparator overflow order =>
    renderListAgg distinct hasSeparator overflow order operands
  | filtered => first ++ " FILTER (WHERE " ++ second ++ ")"
  | grouping word sizes => word.render (splitSizes sizes operands)
  | call name distinct bare window => renderCall name distinct bare window operands
  | argument name => name.render ++ " => " ++ first
  | star qualifier => if qualifier.isEmpty then "*" else qualifier.render ++ ".*"
where
  /-- A precision in parentheses behind a space. -/
  renderPrecision (n : Nat) : String := " (" ++ toString n ++ ")"

/-! ### Words of queries -/

/-- The name of a table in a query, with the names of its columns. -/
def TableAlias.render (a : TableAlias) : String :=
  a.name.render ++ renderColumnsIfAny a.columns

/-- The name of a table behind the word that gives it. -/
def renderAlias : Option TableAlias → String :=
  whenSome " AS " TableAlias.render

/-- An operator that combines two queries. -/
def SetOperator.render : SetOperator → String
  | union => "UNION"
  | except => "EXCEPT"
  | intersect => "INTERSECT"

/-- What a set operation does about equal rows, behind a space. -/
def SetQuantifier.render : SetQuantifier → String
  | none => ""
  | all => " ALL"
  | distinct => " DISTINCT"

/-- The words of a join. -/
def JoinKind.render : JoinKind → String
  | inner => "JOIN"
  | left => "LEFT JOIN"
  | right => "RIGHT JOIN"
  | full => "FULL JOIN"
  | cross => "CROSS JOIN"
  | leftSemi => "LEFT SEMI JOIN"
  | rightSemi => "RIGHT SEMI JOIN"
  | leftAnti => "LEFT ANTI JOIN"
  | rightAnti => "RIGHT ANTI JOIN"
  | crossApply => "CROSS APPLY"
  | outerApply => "OUTER APPLY"

/-- The word behind a number of rows. -/
def RowWord.render : RowWord → String
  | none => ""
  | row => " ROW"
  | rows => " ROWS"

/-- A bound in the words of `FETCH`. -/
def Fetch.render (f : Fetch) : String :=
  let quantity := match f.quantity with
    | some q => " " ++ q.render ++ (if f.percent then " PERCENT" else "")
    | none => ""
  "FETCH FIRST" ++ quantity ++ " ROWS " ++ if f.withTies then "WITH TIES" else "ONLY"

/-- What the rows of a query are locked for. -/
def Lock.render : Lock → String
  | update => "FOR UPDATE"
  | share => "FOR SHARE"

/-- The new table that the rows of a query go into. -/
def IntoTable.render (t : IntoTable) : String :=
  "INTO" ++ (if t.temporary then " TEMPORARY" else "") ++ (if t.unlogged then " UNLOGGED" else "")
    ++ (if t.tableWord then " TABLE" else "") ++ " " ++ t.name.render

end Prepared.Sql
