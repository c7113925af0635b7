import Prepared.Sql.Printer.Atom

/-!
# Outlines of names, literals, types and forms

The constructors of the outline are those of the syntax tree of the package `sqlparser` 0.28: a form
shows its operands under the names that the tree has for them.
-/

namespace Prepared.Sql

/-! ### Names and literals -/

/-- A name: its letters and its quote. -/
def Ident.outline (i : Ident) : Outline :=
  .record "Ident" [.field "value" (.text i.value), .field "quote_style" (.ofOption .char i.quote)]

/-- A list of names. -/
def identsOutline (names : List Ident) : Outline :=
  .list (names.map Ident.outline)

/-- A qualified name. -/
def ObjectName.outline (name : ObjectName) : Outline :=
  .node "ObjectName" [identsOutline name]

/-- A literal. -/
def Literal.outline : Literal → Outline
  | number text long => .node "Number" [.text text, .bool long]
  | singleQuoted text => .node "SingleQuotedString" [.text text]
  | doubleQuoted text => .node "DoubleQuotedString" [.text text]
  | escaped text => .node "EscapedStringLiteral" [.text text]
  | national text => .node "NationalStringLiteral" [.text text]
  | hex text => .node "HexStringLiteral" [.text text]
  | boolean value => .node "Boolean" [.bool value]
  | null => .atom "Null"
  | placeholder text => .node "Placeholder" [.text text]
  | bare text => .node "UnQuotedString" [.text text]

/-! ### Types -/

/-- The name of an integer type, which begins anew where it has no sign. -/
def IntegerWord.label (word : IntegerWord) (unsigned : Bool) : String :=
  (if unsigned then "Unsigned" else "")
    ++ match word with
      | tinyint => "TinyInt"
      | smallint => "SmallInt"
      | mediumint => "MediumInt"
      | int => "Int"
      | integer => "Integer"
      | bigint => "BigInt"

/-- The name of a type of short texts. -/
def CharWord.label : CharWord → String
  | character => "Character"
  | char => "Char"
  | characterVarying => "CharacterVarying"
  | charVarying => "CharVarying"
  | varchar => "Varchar"

/-- The name of a type of long texts or of bytes. -/
def LargeWord.label : LargeWord → String
  | characterLargeObject => "CharacterLargeObject"
  | charLargeObject => "CharLargeObject"
  | clob => "Clob"
  | binary => "Binary"
  | varbinary => "Varbinary"
  | blob => "Blob"

/-- The name of a type of exact numbers. -/
def ExactWord.label : ExactWord → String
  | numeric => "Numeric"
  | decimal => "Decimal"
  | dec => "Dec"

/-- What a type of points in time says of a zone. -/
def ZoneRule.outline : ZoneRule → Outline
  | silent => .atom "None"
  | zoned => .atom "WithTimeZone"
  | unzoned => .atom "WithoutTimeZone"
  | suffix => .atom "Tz"

/-- The unit of a length. -/
def LengthUnit.outline : LengthUnit → Outline
  | characters => .atom "Characters"
  | octets => .atom "Octets"

/-- The length of a character type. -/
def CharLength.outline (l : CharLength) : Outline :=
  .record "CharacterLength" [
    .field "length" (.nat l.length), .field "unit" (.ofOption LengthUnit.outline l.unit)]

/-- The digits of an exact number. -/
def digitsOutline : Option Nat → Option Nat → Outline
  | none, _ => .atom "None"
  | some precision, none => .node "Precision" [.nat precision]
  | some precision, some scale => .node "PrecisionAndScale" [.nat precision, .nat scale]

/-- A type. -/
def DataType.outline : DataType → Outline
  | boolean => .atom "Boolean"
  | integer word width unsigned => .node (word.label unsigned) [.ofOption .nat width]
  | float precision => .node "Float" [.ofOption .nat precision]
  | real => .atom "Real"
  | double => .atom "Double"
  | doublePrecision => .atom "DoublePrecision"
  | exact word precision scale => .node word.label [digitsOutline precision scale]
  | char word length => .node word.label [.ofOption CharLength.outline length]
  | nvarchar length => .node "Nvarchar" [.ofOption .nat length]
  | large word length => .node word.label [.ofOption .nat length]
  | text => .atom "Text"
  | string => .atom "String"
  | uuid => .atom "Uuid"
  | bytea => .atom "Bytea"
  | regclass => .atom "Regclass"
  | date => .atom "Date"
  | interval => .atom "Interval"
  | datetime precision => .node "Datetime" [.ofOption .nat precision]
  | time precision zone => .node "Time" [.ofOption .nat precision, zone.outline]
  | timestamp precision zone => .node "Timestamp" [.ofOption .nat precision, zone.outline]
  | enumeration texts => .node "Enum" [.list (texts.map .text)]
  | set texts => .node "Set" [.list (texts.map .text)]
  | custom name modifiers => .node "Custom" [name.outline, .list (modifiers.map .text)]
  | array element => .node "Array" [.node "Some" [element.outline]]

/-! ### Operators -/

/-- The name of an operator whose symbol has no meaning here. -/
def symbolLabel : String → String
  | "<=>" => "Spaceship"
  | "XOR" => "Xor"
  | "|" => "BitwiseOr"
  | "&" => "BitwiseAnd"
  | "^" => "BitwiseXor"
  | "#" => "PGBitwiseXor"
  | "<<" => "PGBitwiseShiftLeft"
  | ">>" => "PGBitwiseShiftRight"
  | "~" => "PGRegexMatch"
  | "~*" => "PGRegexIMatch"
  | "!~" => "PGRegexNotMatch"
  | "!~*" => "PGRegexNotIMatch"
  | text => text

/-- An operator between two operands. -/
def BinaryOp.outline : BinaryOp → Outline
  | eq => .atom "Eq"
  | notEq => .atom "NotEq"
  | lt => .atom "Lt"
  | ltEq => .atom "LtEq"
  | gt => .atom "Gt"
  | gtEq => .atom "GtEq"
  | plus => .atom "Plus"
  | minus => .atom "Minus"
  | multiply => .atom "Multiply"
  | divide => .atom "Divide"
  | modulo => .atom "Modulo"
  | and => .atom "And"
  | or => .atom "Or"
  | concat => .atom "StringConcat"
  | other text => .atom (symbolLabel text)
  | custom name => .node "PGCustomBinaryOperator" [.list (name.map .text)]

/-- The name of an operator in front of its operand that has no meaning here. -/
def signLabel : String → String
  | "~" => "PGBitwiseNot"
  | "@" => "PGAbs"
  | "!!" => "PGPrefixFactorial"
  | "|/" => "PGSquareRoot"
  | "||/" => "PGCubeRoot"
  | text => text

/-- An operator with one operand. -/
def UnaryOp.outline : UnaryOp → Outline
  | not => .atom "Not"
  | plus => .atom "Plus"
  | minus => .atom "Minus"
  | factorial => .atom "PGPostfixFactorial"
  | other text => .atom (signLabel text)

/-- The name of an arrow operator. -/
def arrowLabel : String → String
  | "->" => "Arrow"
  | "->>" => "LongArrow"
  | "#>" => "HashArrow"
  | "#>>" => "HashLongArrow"
  | ":" => "Colon"
  | text => text

/-- A keyword as a name: its parts begin with capitals, without anything between them. -/
def wordLabel (word : String) : String :=
  String.ofList (capitalise true word.toList)
where
  /-- The letters of a word, of which the first is a capital where `first` is true. -/
  capitalise : Bool → List Char → List Char
    | _, [] => []
    | first, c :: s =>
      if c = '_' then capitalise true s
      else (if first then c else c.toLower) :: capitalise false s

/-! ### Forms -/

/-- An operand, or none. -/
def operandOutline (present : Bool) (operands : List Outline) : Outline :=
  .option (if present then operands.head? else none)

/-- Expressions to order by, with their directions. -/
def directedOutline (directions : List Direction) (operands : List Outline) : List Outline :=
  List.zipWith (fun operand d => .record "OrderByExpr" [
    .field "expr" operand,
    .field "asc" (.ofOption .bool d.ascending),
    .field "nulls_first" (.ofOption .bool d.nullsFirst)]) operands directions

/-- A bound of a window with its distance. -/
def FrameBound.outline (bound : FrameBound) (operands : List Outline) : Outline :=
  match bound with
  | currentRow => .atom "CurrentRow"
  | preceding bounded => .node "Preceding" [operandOutline bounded operands]
  | following bounded => .node "Following" [operandOutline bounded operands]

/-- The rows of a window with the distances of the bounds. -/
def Frame.outline (f : Frame) (operands : List Outline) : Outline :=
  .record "WindowFrame" [
    .field "units" (.atom (wordLabel f.unit.render)),
    .field "start_bound" (f.start.outline operands),
    .field "end_bound" (.ofOption (·.outline (operands.drop f.start.operands)) f.finish)]

/-- A window with its operands. -/
def Window.outline (w : Window) (operands : List Outline) : Outline :=
  let others := operands.drop w.partition
  .record "WindowSpec" [
    .field "partition_by" (.list (operands.take w.partition)),
    .field "order_by" (.list (directedOutline w.order others)),
    .field "window_frame" (.ofOption (·.outline (others.drop w.order.length)) w.frame)]

/-- What is done about a list of texts that gets too long. -/
def Overflow.outline (overflow : Overflow) (operands : List Outline) : Outline :=
  match overflow with
  | error => .atom "Error"
  | truncate hasFiller withCount =>
    .record "Truncate" [
      .field "filler" (operandOutline hasFiller operands), .field "with_count" (.bool withCount)]

/-- A list of texts that an aggregate makes. -/
def listAggOutline (distinct hasSeparator : Bool) (overflow : Option Overflow)
    (order : List Direction) (operands : List Outline) : Outline :=
  let others := operands.drop 1
  let rest := if hasSeparator then others.drop 1 else others
  .node "ListAgg" [.record "ListAgg" [
    .field "distinct" (.bool distinct),
    .field "expr" (operands.headD (.atom "")),
    .field "separator" (operandOutline hasSeparator others),
    .field "on_overflow" (.ofOption (·.outline rest) overflow),
    .field "within_group"
      (.list (directedOutline order (operands.drop (operands.length - order.length))))]]

/-- An argument of a function; those that are given by name are records. -/
def argumentOutline : Outline → Outline
  | .record name fields => .record name fields
  | o => .node "Unnamed" [o]

/-- A call of a function. Its arguments stand in `args`, the operands of its window in `operands`;
both lists hold all operands. -/
def callOutline (name : ObjectName) (distinct bare : Bool) (window : Option Window)
    (operands args : List Outline) : Outline :=
  let count := operands.length - (window.map Window.operands).getD 0
  .node "Function" [.record "Function" [
    .field "name" name.outline,
    .field "args" (.list ((args.take count).map argumentOutline)),
    .field "over" (.ofOption (·.outline (operands.drop count)) window),
    .field "distinct" (.bool distinct),
    .field "special" (.bool bare)]]

/-- The name of a test for a truth value. -/
def Truth.label (truth : Truth) (negated : Bool) : String :=
  (if negated then "IsNot" else "Is") ++ wordLabel truth.render

/-- The name of a way to group by several sets. -/
def GroupingWord.label : GroupingWord → String
  | groupingSets => "GroupingSets"
  | cube => "Cube"
  | rollup => "Rollup"

/-- A form with the outlines of its operands, in the order in which they are written, and again with
their outlines as arguments of a function. -/
def Form.outline (form : Form) (operands args : List Outline) : Outline :=
  let first := operands.headD (.atom "")
  let others := operands.drop 1
  let second := others.headD (.atom "")
  match form with
  | tuple => .node "Tuple" [.list operands]
  | any => .node "AnyOp" operands
  | all => .node "AllOp" operands
  | truthTest truth negated => .node (truth.label negated) operands
  | distinctFrom negated =>
    .node (if negated then "IsNotDistinctFrom" else "IsDistinctFrom") operands
  | similarTo escape negated =>
    .record "SimilarTo" [
      .field "negated" (.bool negated), .field "expr" first, .field "pattern" second,
      .field "escape_char" (.ofOption .char escape)]
  | inUnnest negated =>
    .record "InUnnest" [
      .field "expr" first, .field "array_expr" second, .field "negated" (.bool negated)]
  | softCast word type =>
    .record (wordLabel word) [.field "expr" first, .field "data_type" type.outline]
  | extract unit =>
    .record "Extract" [.field "field" (.atom (wordLabel unit)), .field "expr" first]
  | rounding word unit =>
    .record (wordLabel word) [
      .field "expr" first, .field "field" (.atom ((unit.map wordLabel).getD "NoDateTime"))]
  | position => .record "Position" [.field "expr" first, .field "in" second]
  | substring hasStart hasLength =>
    .record "Substring" [
      .field "expr" first,
      .field "substring_from" (operandOutline hasStart others),
      .field "substring_for"
        (operandOutline hasLength (if hasStart then others.drop 1 else others))]
  | overlay hasLength =>
    .record "Overlay" [
      .field "expr" first, .field "overlay_what" second,
      .field "overlay_from" ((others.drop 1).headD (.atom "")),
      .field "overlay_for" (operandOutline hasLength (others.drop 2))]
  | trim side hasWhat =>
    .record "Trim" [
      .field "expr" (if hasWhat then second else first),
      .field "trim_where" (.ofOption (fun word => .atom (wordLabel word)) side),
      .field "trim_what" (operandOutline hasWhat operands)]
  | array named =>
    .node "Array" [.record "Array" [.field "elem" (.list operands), .field "named" (.bool named)]]
  | index => .record "ArrayIndex" [.field "obj" first, .field "indexes" (.list others)]
  | path operator =>
    .record "JsonAccess" [
      .field "left" first, .field "operator" (.atom (arrowLabel operator)), .field "right" second]
  | collate name => .record "Collate" [.field "expr" first, .field "collation" name.outline]
  | field key => .record "CompositeAccess" [.field "expr" first, .field "key" key.outline]
  | atTimeZone zone =>
    .record "AtTimeZone" [.field "timestamp" first, .field "time_zone" (.text zone)]
  | interval unit precision last fraction =>
    .record "Interval" [
      .field "value" first,
      .field "leading_field" (.ofOption (fun word => .atom (wordLabel word)) unit),
      .field "leading_precision" (.ofOption .nat precision),
      .field "last_field" (.ofOption (fun word => .atom (wordLabel word)) last),
      .field "fractional_seconds_precision" (.ofOption .nat fraction)]
  | arrayAgg distinct order hasLimit =>
    .node "ArrayAgg" [.record "ArrayAgg" [
      .field "distinct" (.bool distinct), .field "expr" first,
      .field "order_by" (.option (directedOutline order.toList others).head?),
      .field "limit" (operandOutline hasLimit (others.drop order.toList.length)),
      .field "within_group" (.bool false)]]
  | listAgg distinct hasSeparator overflow order =>
    listAggOutline distinct hasSeparator overflow order operands
  | filtered =>
    .record "AggregateExpressionWithFilter" [.field "expr" first, .field "filter" second]
  | grouping word sizes =>
    .node word.label [.list ((splitSizes sizes operands).map .list)]
  | call name distinct bare window => callOutline name distinct bare window operands args
  | argument name =>
    .record "Named" [
      .field "name" name.outline, .field "arg" (args.headD (.atom ""))]
  | star qualifier =>
    if qualifier.isEmpty then .atom "Wildcard" else .node "QualifiedWildcard" [qualifier.outline]

end Prepared.Sql
