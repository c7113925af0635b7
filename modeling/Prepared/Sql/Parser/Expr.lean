import Prepared.Sql.Parser.DataType

/-!
# Parsing expressions

An expression is an operand and the operators behind it, as long as these bind tighter than the
level that is asked for. Operators of one level group to the left.

The productions follow those of the package `sqlparser` 0.28 (`PostgreSqlDialect`).
-/

namespace Prepared.Sql.Parser

/-! ### How tight operators bind -/

/-- The level of predicates: comparisons, `IN` and `BETWEEN`. -/
def predicateLevel : Nat := 20

/-- The level of pattern matching. -/
def likeLevel : Nat := 19

/-- The level of the operand of `NOT`. -/
def notLevel : Nat := 15

/-- The level of sums, and of the operand of a sign. -/
def sumLevel : Nat := 30

/-- The level of a symbol between or behind operands. -/
def symbolLevel (text : String) : Nat :=
  if ["=", "<", "<=", "<>", ">", ">=", "<=>", "~", "~*", "!~", "!~*"].contains text then
    predicateLevel
  else if text = "|" then 21
  else if ["^", "#", "<<", ">>"].contains text then 22
  else if text = "&" then 23
  else if ["+", "-"].contains text then sumLevel
  else if ["*", "/", "%", "||"].contains text then 40
  else if ["::", "[", "->", "->>", "#>", "#>>", "!", ":"].contains text then 50
  else 0

/-- The level of the predicate that begins with a keyword. -/
def predicateWordLevel : String → Nat
  | "IN" => predicateLevel
  | "BETWEEN" => predicateLevel
  | "LIKE" => likeLevel
  | "ILIKE" => likeLevel
  | "SIMILAR" => likeLevel
  | _ => 0

/-- The level of a keyword between or behind operands, with the keywords that follow it. -/
def wordLevel (word : String) (second third : Option String) : Nat :=
  match word with
  | "OR" => 5
  | "AND" => 10
  | "XOR" => 24
  | "IS" => 17
  | "OPERATOR" => predicateLevel
  | "AT" => if second = some "TIME" ∧ third = some "ZONE" then predicateLevel else 0
  | "NOT" => predicateWordLevel (second.getD "")
  | word => predicateWordLevel word

/-- How tight the next token binds as an operator; zero if it is none. -/
def nextLevel : Parser Nat := do
  let wordAt (n : Nat) : Parser (Option String) := do return (← peekAt? n).bind Token.keyword?
  match ← peek? with
  | some (.symbol text) => return symbolLevel text
  | some t =>
    match t.keyword? with
    | some word => return wordLevel word (← wordAt 1) (← wordAt 2)
    | none => return 0
  | none => return 0

/-! ### Operators -/

/-- The operator between two operands that a token is. -/
def binaryOp? (t : Token) : Option BinaryOp :=
  match t with
  | .symbol "=" => some .eq
  | .symbol "<>" => some .notEq
  | .symbol "<" => some .lt
  | .symbol "<=" => some .ltEq
  | .symbol ">" => some .gt
  | .symbol ">=" => some .gtEq
  | .symbol "+" => some .plus
  | .symbol "-" => some .minus
  | .symbol "*" => some .multiply
  | .symbol "/" => some .divide
  | .symbol "%" => some .modulo
  | .symbol "||" => some .concat
  | .symbol text =>
    if ["<=>", "|", "^", "&", "<<", ">>", "#", "~", "~*", "!~", "!~*"].contains text then
      some (.other text)
    else none
  | t =>
    match t.keyword? with
    | some "AND" => some .and
    | some "OR" => some .or
    | some "XOR" => some (.other "XOR")
    | _ => none

/-- The symbols that are operators in front of an operand. -/
def signs : List String := ["+", "-", "~", "@", "!!", "|/", "||/"]

/-- The operator with one operand that a symbol is. -/
def signOp : String → UnaryOp
  | "+" => .plus
  | "-" => .minus
  | text => .other text

/-- The parts of the name of an operator, with points between, at most `n`. -/
def operatorName : Nat → Parser (List String)
  | 0 => failure
  | n + 1 => do
    let part ← token
    if ← symbol "." then return part.plain :: (← operatorName n) else return [part.plain]

/-- The right operand of an operator, which may be `ANY` or `ALL` of an expression. -/
def rightOperand (g : Grammar) (level : Nat) : Parser Expr := do
  match ← oneOf ["ANY", "ALL"] with
  | some word =>
    let operand ← inParens (g.expr level)
    return .form (if word = "ANY" then .any else .all) [operand]
  | none => g.expr level

/-! ### Forms behind a word -/

/-- A unit of time. -/
def timeUnit : Parser String := do
  match ← oneOf timeUnits with
  | some unit => return unit
  | none => failure

/-- The directions of an expression to order by. -/
def direction : Parser Direction := do
  let ascending := (← oneOf ["ASC", "DESC"]).map (· == "ASC")
  if ← wordsInOrder ["NULLS", "FIRST"] then return ⟨ascending, some true⟩
  else if ← wordsInOrder ["NULLS", "LAST"] then return ⟨ascending, some false⟩
  else return ⟨ascending, none⟩

/-- An expression to order by, with its directions. -/
def directed (g : Grammar) : Parser (Expr × Direction) := do
  let value ← g.expr 0
  return (value, ← direction)

/-- The parts of what stands behind two keywords, with commas between, or none. -/
def behindTwo {α : Type} (first second : String) (p : Parser α) : Parser (List α) := do
  if ← wordsInOrder [first, second] then list p else return []

/-- A text of one character. -/
def literalChar : Parser Char := do
  let text ← literalText
  match text.toList with
  | [c] => if c.toNat < 128 then return c else failure
  | _ => failure

/-- The character that takes away the meaning of a wildcard. -/
def escapeChar : Parser (Option Char) :=
  behind "ESCAPE" literalChar

/-- Whether a query in parentheses begins here. -/
def nextIsQuery : Parser Bool := do
  let word ← peekWord?
  return word = some "SELECT" ∨ word = some "WITH"

/-- The branches of a `CASE` behind the word `WHEN`, at most `n`. -/
def branches (g : Grammar) : Nat → Parser (List (Expr × Expr))
  | 0 => failure
  | n + 1 => do
    let condition ← g.expr 0
    expectWord "THEN"
    let result ← g.expr 0
    if ← keyword "WHEN" then return (condition, result) :: (← branches g n)
    else return [(condition, result)]

/-- A `CASE` behind its first word. -/
def caseForm (g : Grammar) : Parser Expr := do
  let operand ← do
    if ← keyword "WHEN" then pure none
    else
      let operand ← g.expr 0
      expectWord "WHEN"
      pure (some operand)
  let branches ← branches g ((← get).length + 1)
  let otherwise ← behind "ELSE" (g.expr 0)
  expectWord "END"
  return .case operand (branches.map (·.1)) (branches.map (·.2)) otherwise

/-- The operand and the type of a cast, in parentheses. -/
def castBody (g : Grammar) : Parser (Expr × DataType) :=
  inParens do
    let operand ← g.expr 0
    expectWord "AS"
    return (operand, ← g.dataType)

/-- A cast that yields null instead of failing, behind its word. -/
def softCastForm (g : Grammar) (word : String) : Parser Expr := do
  let (operand, type) ← castBody g
  return .form (.softCast word type) [operand]

/-- An `EXISTS` behind the word. -/
def existsForm (g : Grammar) (negated : Bool) : Parser Expr := do
  let query ← inParens g.query
  return .exists query negated

/-- A part of a point in time. -/
def extractForm (g : Grammar) : Parser Expr :=
  inParens do
    let unit ← timeUnit
    expectWord "FROM"
    return .form (.extract unit) [← g.expr 0]

/-- A rounding of a number or of a point in time. -/
def roundingForm (g : Grammar) (word : String) : Parser Expr :=
  inParens do
    let operand ← g.expr 0
    return .form (.rounding word (← behind "TO" timeUnit)) [operand]

/-- The position of one text in another. -/
def positionForm (g : Grammar) : Parser Expr :=
  inParens do
    let operand ← g.expr predicateLevel
    expectWord "IN"
    return .form .position [operand, ← g.expr 0]

/-- An expression behind a word or a comma, if one of them is next. -/
def behindOrComma (g : Grammar) (word : String) : Parser (Option Expr) := do
  if ← keyword word then some <$> g.expr 0
  else if ← symbol "," then some <$> g.expr 0
  else return none

/-- A part of a text. -/
def substringForm (g : Grammar) : Parser Expr :=
  inParens do
    let operand ← g.expr 0
    let start ← behindOrComma g "FROM"
    let length ← behindOrComma g "FOR"
    return .form (.substring start.isSome length.isSome) (operand :: start.toList ++ length.toList)

/-- A text with a part replaced. -/
def overlayForm (g : Grammar) : Parser Expr :=
  inParens do
    let operand ← g.expr 0
    expectWord "PLACING"
    let replacement ← g.expr 0
    expectWord "FROM"
    let start ← g.expr 0
    let length ← behind "FOR" (g.expr 0)
    return .form (.overlay length.isSome) ([operand, replacement, start] ++ length.toList)

/-- A text without characters at its ends. -/
def trimForm (g : Grammar) : Parser Expr :=
  inParens do
    let side ← oneOf ["BOTH", "LEADING", "TRAILING"]
    let first ← g.expr 0
    match ← behind "FROM" (g.expr 0) with
    | some operand => return .form (.trim side true) [first, operand]
    | none => return .form (.trim side false) [first]

/-- An interval behind its word. Seconds have both precisions in one pair of parentheses. -/
def intervalForm (g : Grammar) : Parser Expr := do
  let value ← g.intervalValue
  match ← oneOf intervalUnits with
  | some "SECOND" =>
    let (precision, fraction) ← digits
    return .form (.interval (some "SECOND") precision none fraction) [value]
  | unit =>
    let precision ← precision
    let last ← behind "TO" timeUnit
    let fraction ← if last = some "SECOND" then Parser.precision else pure none
    return .form (.interval unit precision last fraction) [value]

/-- The elements of an array behind the opening bracket. -/
def arrayForm (g : Grammar) (named : Bool) : Parser Expr := do
  if ← symbol "]" then return .form (.array named) []
  else
    let elements ← list (g.expr 0)
    expect "]"
    return .form (.array named) elements

/-- A bound on a number of rows behind the word `LIMIT`; `ALL` is none. -/
def limit (g : Grammar) : Parser (Option Expr) := do
  if ← keyword "ALL" then return none else some <$> g.expr 0

/-- An array of the values of an expression. -/
def arrayAggForm (g : Grammar) : Parser Expr :=
  inParens do
    let distinct ← keyword "DISTINCT"
    let value ← g.expr 0
    let order ← if ← wordsInOrder ["ORDER", "BY"] then some <$> directed g else pure none
    let limit := (← behind "LIMIT" (limit g)).join
    return .form (.arrayAgg distinct (order.map (·.2)) limit.isSome)
      (value :: (order.map (·.1)).toList ++ limit.toList)

/-- Whether a text in quotes is next. -/
def nextIsQuoted : Parser Bool := do
  match ← peek? with
  | some (.singleQuoted _) => return true
  | some (.escaped _) => return true
  | some (.national _) => return true
  | some (.hex _) => return true
  | _ => return false

/-- What is done about a list that gets too long, behind the words that say so. A filler begins
with a text in quotes. -/
def overflow (g : Grammar) : Parser (Overflow × Option Expr) := do
  if ← keyword "ERROR" then return (.error, none)
  else
    expectWord "TRUNCATE"
    let filler ← if ← nextIsQuoted then some <$> g.expr 0 else pure none
    match ← oneOf ["WITH", "WITHOUT"] with
    | some word =>
      expectWord "COUNT"
      return (.truncate filler.isSome (word == "WITH"), filler)
    | none => failure

/-- Whether rows are to be told apart: `ALL` and `DISTINCT` exclude each other. -/
def allOrDistinct : Parser Bool := do
  let all ← keyword "ALL"
  let distinct ← keyword "DISTINCT"
  if all && distinct then failure else return distinct

/-- A list of the values of an expression as one text. -/
def listAggForm (g : Grammar) : Parser Expr := do
  expect "("
  let distinct ← allOrDistinct
  let value ← g.expr 0
  let separator ← if ← symbol "," then some <$> g.expr 0 else pure none
  let overflow ← if ← wordsInOrder ["ON", "OVERFLOW"] then some <$> overflow g else pure none
  expect ")"
  let order ← do
    if ← wordsInOrder ["WITHIN", "GROUP"] then
      inParens do
        expectWord "ORDER"
        expectWord "BY"
        list (directed g)
    else pure []
  return .form (.listAgg distinct separator.isSome (overflow.map (·.1)) (order.map (·.2)))
    (value :: separator.toList ++ (overflow.bind (·.2)).toList ++ order.map (·.1))

/-! ### Names and calls -/

/-- What stands behind a point in front of a star. -/
inductive Star where
  | all
  | allOf (table : ObjectName)

/-- The parts of a name behind its first one up to a star, at most `n`. -/
def starQualifier : Nat → Parser (List Ident)
  | 0 => failure
  | n + 1 => do
    expect "."
    match ← token with
    | .symbol "*" => return []
    | .word i => return i :: (← starQualifier n)
    | _ => failure

/-- All columns, or all columns of a table. -/
def star : Parser Star := do
  if ← symbol "*" then return .all
  else match ← token with
    | .word i => return .allOf (i :: (← starQualifier ((← get).length + 1)))
    | _ => failure

/-- An expression, all columns, or all columns of a table, as an argument of a function. -/
def starOrExpr (g : Grammar) : Parser Expr := do
  match ← maybe star with
  | some .all => return .form (.star []) []
  | some (.allOf table) => return .form (.star table) []
  | none => g.expr 0

/-- An argument of a function, which may be given by name. -/
def argument (g : Grammar) : Parser Expr := do
  if (← peekAt? 1) == some (.symbol "=>") then
    let name ← ident
    expect "=>"
    return .form (.argument name) [← starOrExpr g]
  else starOrExpr g

/-- The arguments of a function behind the opening parenthesis. -/
def arguments (g : Grammar) : Parser (List Expr) := do
  if ← symbol ")" then return []
  else
    let args ← list (argument g)
    expect ")"
    return args

/-! ### Windows -/

/-- A bound of a window, with its distance if it has one. A text stands for an interval. -/
def frameBound (g : Grammar) : Parser (FrameBound × Option Expr) := do
  if ← wordsInOrder ["CURRENT", "ROW"] then return (.currentRow, none)
  else
    let distance ← do
      if ← keyword "UNBOUNDED" then pure none
      else match ← peek? with
        | some (.singleQuoted _) => some <$> intervalForm g
        | _ => some <$> g.expr 0
    match ← oneOf ["PRECEDING", "FOLLOWING"] with
    | some "PRECEDING" => return (.preceding distance.isSome, distance)
    | some _ => return (.following distance.isSome, distance)
    | none => failure

/-- The rows of a window around the current one, with the distances of the bounds. -/
def frame (g : Grammar) : Parser (Frame × List Expr) := do
  let unit ← match ← oneOf ["ROWS", "RANGE", "GROUPS"] with
    | some "ROWS" => pure FrameUnit.rows
    | some "RANGE" => pure FrameUnit.range
    | some _ => pure FrameUnit.groups
    | none => failure
  if ← keyword "BETWEEN" then
    let (start, first) ← frameBound g
    expectWord "AND"
    let (finish, last) ← frameBound g
    return (⟨unit, start, some finish⟩, first.toList ++ last.toList)
  else
    let (start, first) ← frameBound g
    return (⟨unit, start, none⟩, first.toList)

/-- A window behind the word `OVER`, with its operands. -/
def window (g : Grammar) : Parser (Window × List Expr) := do
  expect "("
  let partition ← behindTwo "PARTITION" "BY" (g.expr 0)
  let order ← behindTwo "ORDER" "BY" (directed g)
  let frame ← do
    if ← symbol ")" then pure none
    else
      let frame ← frame g
      expect ")"
      pure (some frame)
  return (⟨partition.length, order.map (·.2), frame.map (·.1)⟩,
    partition ++ order.map (·.1) ++ (frame.map (·.2)).getD [])

/-! ### Calls and names -/

/-- The arguments of the function called `name`, in parentheses, and the window that it looks at. -/
def callForm (g : Grammar) (name : ObjectName) : Parser Expr := do
  expect "("
  let distinct ← allOrDistinct
  let args ← arguments g
  match ← behind "OVER" (window g) with
  | some (window, operands) => return .form (.call name distinct false window) (args ++ operands)
  | none => return .form (.call name distinct false none) args

/-- A function that is called with or without parentheses. -/
def timeForm (g : Grammar) (name : Ident) : Parser Expr := do
  let args ← if ← symbol "(" then arguments g else pure []
  return .form (.call [name] false false none) args

/-- A function that is called without parentheses. -/
def bareForm (name : Ident) : Expr :=
  .form (.call [name] false true none) []

/-- The words behind the points of a name, at most `n`. -/
def pathWords : Nat → Parser (List Ident)
  | 0 => return []
  | n + 1 => do
    if ← symbol "." then
      match ← token with
      | .word i => return i :: (← pathWords n)
      | _ => failure
    else return []

/-- A name, a qualified name, or a call. -/
def nameForm (g : Grammar) (name : Ident) : Parser Expr := do
  let path ← pathWords (← get).length
  if ← nextIs "(" then callForm g (name :: path)
  else if path.isEmpty then return .column name
  else return .qualified (name :: path)

/-- The expression that begins with a word. -/
def wordForm (g : Grammar) (name : Ident) : Parser Expr :=
  match Token.keyword? (.word name) with
  | some "TRUE" => return .literal (.boolean true)
  | some "FALSE" => return .literal (.boolean false)
  | some "NULL" => return .literal .null
  | some "CURRENT_CATALOG" => return bareForm name
  | some "CURRENT_USER" => return bareForm name
  | some "SESSION_USER" => return bareForm name
  | some "USER" => return bareForm name
  | some "CURRENT_TIMESTAMP" => timeForm g name
  | some "CURRENT_TIME" => timeForm g name
  | some "CURRENT_DATE" => timeForm g name
  | some "LOCALTIME" => timeForm g name
  | some "LOCALTIMESTAMP" => timeForm g name
  | some "CASE" => caseForm g
  | some "CAST" => do
    let (operand, type) ← castBody g
    return .cast operand type
  | some "TRY_CAST" => softCastForm g "TRY_CAST"
  | some "SAFE_CAST" => softCastForm g "SAFE_CAST"
  | some "EXISTS" => existsForm g false
  | some "EXTRACT" => extractForm g
  | some "CEIL" => roundingForm g "CEIL"
  | some "FLOOR" => roundingForm g "FLOOR"
  | some "POSITION" => positionForm g
  | some "SUBSTRING" => substringForm g
  | some "OVERLAY" => overlayForm g
  | some "TRIM" => trimForm g
  | some "INTERVAL" => intervalForm g
  | some "ARRAY_AGG" => arrayAggForm g
  | some "LISTAGG" => listAggForm g
  | some "ARRAY" => do
    if ← symbol "[" then arrayForm g true
    else if ← nextIs "(" then return .arrayOf (← inParens g.query)
    else nameForm g name
  | some "NOT" => do
    if ← keyword "EXISTS" then existsForm g true else return .unary .not (← g.expr notLevel)
  | _ => nameForm g name

/-! ### Operands -/

/-- A text behind the name of its type, or an interval. -/
def typedText (g : Grammar) : Parser Expr := do
  match ← g.dataType with
  | .interval => intervalForm g
  | type => if isBuiltIn type then return .typed type (← literalText) else failure

/-- What stands in parentheses behind the opening one: a query, an expression, or several. A name
behind a point takes a part of it. -/
def parenForm (g : Grammar) : Parser Expr := do
  let inner ← do
    if ← nextIsQuery then pure (Expr.subquery (← g.query))
    else match ← list (g.expr 0) with
      | [e] => pure (Expr.nested e)
      | es => pure (Expr.form .tuple es)
  expect ")"
  if ← symbol "." then
    match ← token with
    | .word key => return .form (.field key) [inner]
    | _ => failure
  else return inner

/-- The operand that begins with the next token, when no type with a text behind it is next. -/
def plainOperand (g : Grammar) : Parser Expr := do
  match ← peek? with
  | some (.symbol "(") =>
    let _ ← token
    parenForm g
  | some (.symbol "[") =>
    let _ ← token
    arrayForm g false
  | some (.word name) =>
    let _ ← token
    wordForm g name
  | some (.symbol text) =>
    if signs.contains text then
      let _ ← token
      return .unary (signOp text) (← g.expr sumLevel)
    else return .literal (← literal)
  | _ => return .literal (← literal)

/-- The operand that an expression begins with. The name of a collation may stand behind every one
but a text with its type. -/
def operand (g : Grammar) : Parser Expr := do
  -- the names of types are words like others, so a type counts only with a text behind it
  match ← maybe (typedText g) with
  | some e => return e
  | none =>
    let e ← plainOperand g
    match ← behind "COLLATE" objectName with
    | some name => return .form (.collate name) [e]
    | none => return e

/-! ### Operators behind an operand -/

/-- What `IS` tests for, behind the word. -/
def isTest (g : Grammar) (left : Expr) : Parser Expr := do
  let negated ← keyword "NOT"
  if ← wordsInOrder ["DISTINCT", "FROM"] then
    return .form (.distinctFrom negated) [left, ← g.expr 0]
  else match ← oneOf ["NULL", "TRUE", "FALSE", "UNKNOWN"] with
    | some "NULL" => return .isNull left negated
    | some "TRUE" => return .form (.truthTest .isTrue negated) [left]
    | some "FALSE" => return .form (.truthTest .isFalse negated) [left]
    | some _ => return .form (.truthTest .isUnknown negated) [left]
    | none => failure

/-- What stands behind `IN`. -/
def membership (g : Grammar) (left : Expr) (negated : Bool) : Parser Expr := do
  -- the values of an array in the place of a list
  if ← keyword "UNNEST" then
    let values ← inParens (g.expr 0)
    return .form (.inUnnest negated) [left, values]
  else inParens do
    if ← nextIsQuery then return .inQuery left (← g.query) negated
    else return .inList left (← list (g.expr 0)) negated

/-- A predicate behind its left operand. -/
def predicate (g : Grammar) (left : Expr) : Parser Expr := do
  let negated ← keyword "NOT"
  match ← oneOf ["IN", "BETWEEN", "LIKE", "ILIKE", "SIMILAR"] with
  | some "IN" => membership g left negated
  | some "BETWEEN" =>
    let low ← g.expr predicateLevel
    expectWord "AND"
    return .between left low (← g.expr predicateLevel) negated
  | some "LIKE" =>
    let pattern ← g.expr likeLevel
    return .like .like left pattern (← escapeChar) negated
  | some "ILIKE" =>
    let pattern ← g.expr likeLevel
    return .like .ilike left pattern (← escapeChar) negated
  | some _ =>
    expectWord "TO"
    let pattern ← g.expr likeLevel
    return .form (.similarTo (← escapeChar) negated) [left, pattern]
  | none => failure

/-- The indices of an element behind the first opening bracket, at most `n`. -/
def indices (g : Grammar) : Nat → Parser (List Expr)
  | 0 => failure
  | n + 1 => do
    let i ← g.expr 0
    expect "]"
    if ← symbol "[" then return i :: (← indices g n) else return [i]

/-- An operator that is a symbol other than those between two operands. -/
def symbolOperator (g : Grammar) (left : Expr) : Parser Expr := do
  match ← token with
  | .symbol "::" => return .cast left (← g.dataType)
  | .symbol "!" => return .unary .factorial left
  | .symbol "[" => return .form .index (left :: (← indices g ((← get).length + 1)))
  | .symbol ":" => return .form (.path ":") [left, .literal (← literal)]
  | .symbol text => return .form (.path text) [left, ← g.expr 0]
  | _ => failure

/-- An operator of the given level behind its left operand. -/
def extend (g : Grammar) (left : Expr) (level : Nat) : Parser Expr := do
  match (← peek?).bind binaryOp? with
  | some op =>
    let _ ← token
    return .binary op left (← rightOperand g level)
  | none =>
    match ← peekWord? with
    | none => symbolOperator g left
    | some "OPERATOR" =>
      let _ ← token
      let name ← inParens (operatorName ((← get).length + 1))
      return .binary (.custom name) left (← rightOperand g level)
    | some "IS" =>
      let _ ← token
      isTest g left
    | some "AT" =>
      let _ ← token
      expectWord "TIME"
      expectWord "ZONE"
      return .form (.atTimeZone (← quotedText)) [left]
    | some _ => predicate g left

/-- The operators behind an operand that bind tighter than `level`, at most `n`. -/
def operators (g : Grammar) (level : Nat) (left : Expr) : Nat → Parser Expr
  | 0 => return left
  | n + 1 => do
    let next ← nextLevel
    if next ≤ level then return left else operators g level (← extend g left next) n

/-- An expression whose operators bind tighter than `level`. -/
def expr (g : Grammar) (level : Nat) : Parser Expr := do
  operators g level (← operand g) (← get).length

/-- The operators of the value of an interval, at most `n`, up to a connective. -/
def intervalOperators (g : Grammar) (left : Expr) : Nat → Parser Expr
  | 0 => return left
  | n + 1 => do
    let next ← nextLevel
    let word ← peekWord?
    if next = 0 ∨ word = some "AND" ∨ word = some "OR" ∨ word = some "XOR" then return left
    else intervalOperators g (← extend g left next) n

/-- The value of an interval. -/
def intervalValue (g : Grammar) : Parser Expr := do
  intervalOperators g (← operand g) (← get).length

end Prepared.Sql.Parser
