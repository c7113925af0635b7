import Prepared.Sql.Parser.Query

/-!
# Phrases

A statement of which nothing but the text is asked is parsed into its normal text at once. A phrase
is a parser of such a text: keywords in capitals, single spaces, lists with commas. A phrase that
may be missing begins with its space, so that phrases can be put one behind the other.

The productions follow those of the package `sqlparser` 0.28 (`PostgreSqlDialect`).
-/

namespace Prepared.Sql

/-- A parser that gives the normal text of what it takes. -/
abbrev Phrase := Parser String

namespace Phrase

open Prepared.Sql.Parser

/-! ### Phrases that are there -/

/-- A name. -/
def ident : Phrase :=
  Ident.render <$> Parser.ident

/-- A name with its qualifiers. -/
def objectName : Phrase :=
  ObjectName.render <$> Parser.objectName

/-- A literal or a placeholder. -/
def literal : Phrase :=
  Literal.render <$> Parser.literal

/-- A number or a placeholder. -/
def number : Phrase := do
  match ← Parser.literal with
  | .number text long => return (Literal.number text long).render
  | .placeholder text => return text
  | _ => failure

/-- A text in quotes, as it is. -/
def rawText : Phrase := do
  return "'" ++ (← literalText) ++ "'"

/-- A text in quotes, with those inside written twice. -/
def quotedText : Phrase :=
  quoted '\'' <$> literalText

/-- A single character in quotes, as it is. -/
def character : Phrase := do
  return "'" ++ String.singleton (← literalChar) ++ "'"

/-- A type. -/
def dataType (g : Grammar) : Phrase :=
  DataType.render <$> g.dataType

/-- An expression. -/
def expr (g : Grammar) : Phrase :=
  Expr.render <$> g.expr 0

/-- A query. -/
def query (g : Grammar) : Phrase :=
  Query.render <$> g.query

/-- One or more of `p` with commas between. -/
def list (p : Phrase) : Phrase :=
  commaSeparated <$> Parser.list p

/-- One or more of `p` with commas between, in parentheses. -/
def group (p : Phrase) : Phrase :=
  parenthesised <$> inParens (Parser.list p)

/-- A list of names in parentheses, which is missing if there is no parenthesis. -/
def columnsIfAny : Phrase :=
  renderColumnsIfAny <$> columnNamesIfAny

/-- One of the given keywords. -/
def wordOf (words : List String) : Phrase := do
  match ← oneOf words with
  | some word => return word
  | none => failure

/-! ### Phrases that may be missing -/

/-- The given keywords behind a space, if they are next. -/
def words (words : List String) : Phrase := do
  if ← wordsInOrder words then return " " ++ " ".intercalate words else return ""

/-- One of the given keywords behind a space, if one is next. -/
def wordIn (words : List String) : Phrase := do
  return whenSome " " id (← oneOf words)

/-- The given keywords and what `p` takes behind them, if they are next. -/
def behind (words : List String) (p : Phrase) : Phrase := do
  if ← wordsInOrder words then return " " ++ " ".intercalate words ++ " " ++ (← p) else return ""

/-- `IF NOT EXISTS` behind a space, if it is next. -/
def ifNotExists : Phrase :=
  words ["IF", "NOT", "EXISTS"]

/-- `IF EXISTS` behind a space, if it is next. -/
def ifExists : Phrase :=
  words ["IF", "EXISTS"]

/-- A property with a name. -/
def property : Parser Property := do
  let name ← Parser.ident
  expect "="
  return ⟨name, ← Parser.literal⟩

/-- Properties in parentheses behind the given keyword, or none. -/
def properties (word : String) : Parser (List Property) := do
  return (← Parser.behind word (inParens (Parser.list property))).getD []

end Phrase

end Prepared.Sql
