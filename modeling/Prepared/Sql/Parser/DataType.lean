import Prepared.Sql.Parser.Basic

/-!
# Parsing types

The productions follow those of the package `sqlparser` 0.28 (`PostgreSqlDialect`).
-/

namespace Prepared.Sql.Parser

/-! ### Lengths and precisions -/

/-- A precision in parentheses, or none. -/
def precision : Parser (Option Nat) :=
  inParensIfAny wholeNumber

/-- The length of a character type in parentheses, or none. -/
def charLength : Parser (Option CharLength) :=
  inParensIfAny do
    let length ← wholeNumber
    match ← oneOf ["CHARACTERS", "OCTETS"] with
    | some "CHARACTERS" => return ⟨length, some .characters⟩
    | some _ => return ⟨length, some .octets⟩
    | none => return ⟨length, none⟩

/-- The digits of an exact number: how many there are, and how many of them behind the point. -/
def digits : Parser (Option Nat × Option Nat) := do
  let digits ← inParensIfAny do
    let precision ← wholeNumber
    if ← symbol "," then return (precision, some (← wholeNumber)) else return (precision, none)
  return (digits.map (·.1), digits.bind (·.2))

/-- Whether a point in time knows its zone. -/
def zoneRule : Parser ZoneRule := do
  match ← oneOf ["WITH", "WITHOUT"] with
  | some word =>
    expectWord "TIME"
    expectWord "ZONE"
    return if word = "WITH" then .zoned else .unzoned
  | none => return .silent

/-- The modifiers of a type that is not built in, at most `n`. -/
def modifiers : Nat → Parser (List String)
  | 0 => failure
  | n + 1 => do
    match ← token with
    | .word i => return (Token.word i).plain :: (← modifiers n)
    | .number text _ => return text :: (← modifiers n)
    | .singleQuoted text => return text :: (← modifiers n)
    | .symbol "," => modifiers n
    | .symbol ")" => return []
    | _ => failure

/-! ### Types -/

/-- An integer type behind its word. -/
def integerType (word : IntegerWord) : Parser DataType := do
  let width ← precision
  return .integer word width (← keyword "UNSIGNED")

/-- A type of points in time behind its name. -/
def timeType (type : Option Nat → ZoneRule → DataType) : Parser DataType := do
  let precision ← precision
  return type precision (← zoneRule)

/-- A type of points in time behind its name, which says that they know their zone. -/
def zonedType (type : Option Nat → ZoneRule → DataType) : Parser DataType := do
  return type (← precision) .suffix

/-- An exact number type behind its name. -/
def exactType (word : ExactWord) : Parser DataType := do
  let (precision, scale) ← digits
  return .exact word precision scale

/-- A type of long texts or of bytes behind its name. -/
def largeType (word : LargeWord) : Parser DataType :=
  DataType.large word <$> precision

/-- A character type behind its first word. -/
def characterType (plain varying : CharWord) (large : LargeWord) : Parser DataType := do
  if ← keyword "VARYING" then DataType.char varying <$> charLength
  else if ← wordsInOrder ["LARGE", "OBJECT"] then largeType large
  else DataType.char plain <$> charLength

/-- The texts of a type that one of them is taken from. -/
def typeTexts : Parser (List String) :=
  inParens (list quotedText)

/-- A type that is not built in. -/
def customType : Parser DataType := do
  let name ← objectName
  if ← symbol "(" then return .custom name (← modifiers ((← get).length + 1))
  else return .custom name []

/-- What follows the word that a built-in type begins with. -/
def builtInType? (g : Grammar) : String → Option (Parser DataType)
  | "BOOLEAN" => some (return .boolean)
  | "FLOAT" => some (DataType.float <$> precision)
  | "REAL" => some (return .real)
  | "DOUBLE" => some do
    if ← keyword "PRECISION" then return .doublePrecision else return .double
  | "TINYINT" => some (integerType .tinyint)
  | "SMALLINT" => some (integerType .smallint)
  | "MEDIUMINT" => some (integerType .mediumint)
  | "INT" => some (integerType .int)
  | "INTEGER" => some (integerType .integer)
  | "BIGINT" => some (integerType .bigint)
  | "VARCHAR" => some (DataType.char .varchar <$> charLength)
  | "NVARCHAR" => some (DataType.nvarchar <$> precision)
  | "CHAR" => some (characterType .char .charVarying .charLargeObject)
  | "CHARACTER" => some (characterType .character .characterVarying .characterLargeObject)
  | "TEXT" => some (return .text)
  | "STRING" => some (return .string)
  | "CLOB" => some (largeType .clob)
  | "BINARY" => some (largeType .binary)
  | "VARBINARY" => some (largeType .varbinary)
  | "BLOB" => some (largeType .blob)
  | "UUID" => some (return .uuid)
  | "DATE" => some (return .date)
  | "DATETIME" => some (DataType.datetime <$> precision)
  | "TIMESTAMP" => some (timeType .timestamp)
  | "TIMESTAMPTZ" => some (zonedType .timestamp)
  | "TIME" => some (timeType .time)
  | "TIMETZ" => some (zonedType .time)
  | "INTERVAL" => some (return .interval)
  | "REGCLASS" => some (return .regclass)
  | "BYTEA" => some (return .bytea)
  | "NUMERIC" => some (exactType .numeric)
  | "DECIMAL" => some (exactType .decimal)
  | "DEC" => some (exactType .dec)
  | "ENUM" => some (DataType.enumeration <$> typeTexts)
  | "SET" => some (DataType.set <$> typeTexts)
  | "ARRAY" => some do
    expect "<"
    let element ← g.dataType
    expect ">"
    return .array element
  | _ => none

/-- A type without brackets behind it. -/
def simpleType (g : Grammar) : Parser DataType := do
  match (← peekWord?).bind (builtInType? g), ← peek? with
  | some rest, _ =>
    let _ ← token
    rest
  | none, some (.word _) => customType
  | none, _ => failure

/-- The pairs of brackets behind a type, at most `n`, each of which makes it the type of the
elements of an array. -/
def arrayBrackets (type : DataType) : Nat → Parser DataType
  | 0 => return type
  | n + 1 => do
    if ← symbol "[" then
      expect "]"
      arrayBrackets (.array type) n
    else return type

/-- A type. -/
def dataType (g : Grammar) : Parser DataType := do
  let type ← simpleType g
  arrayBrackets type (← get).length

/-- Whether a type is built in, so that a text behind it is a value of the type. -/
def isBuiltIn : DataType → Bool
  | .custom _ _ => false
  | _ => true

end Prepared.Sql.Parser
