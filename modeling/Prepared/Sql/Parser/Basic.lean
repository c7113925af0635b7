import Prepared.Sql.Keyword
import Prepared.Text.Numeral

/-!
# Parsers

A parser takes tokens off the front of a list of tokens, or fails. What goes wrong where is not
recorded: a text either has a meaning or it has none. White space between tokens does not count,
except for data that a statement carries with it.

The grammar is recursive. Its productions are written against a `Grammar`, which holds the parsers
that they descend into; `Prepared.Sql.Parser.Grammar` ties the knot, by the depth of nesting.

What is a statement is settled by an outside package, the parser of `sqlparser` 0.28 with its dialect
`PostgreSqlDialect`. That the productions here follow it is trusted, not proved, by every result
about the text of a statement.
-/

namespace Prepared.Sql

-- the power of the core library, whatever else is imported
attribute [local instance (high)] instPowNat

/-- A parser of the tokens of a text. -/
abbrev Parser := StateT (List Token) Option

namespace Parser

/-! ### Single tokens -/

/-- The tokens from the first that is no white space. -/
def skipBlank (s : List Token) : List Token :=
  s.dropWhile Token.isBlank

/-- The next token, which is not taken. -/
def peek? : Parser (Option Token) :=
  fun s => some ((skipBlank s).head?, s)

/-- The token after `n` others. -/
def tokenAt? : Nat → List Token → Option Token
  | 0, s => (skipBlank s).head?
  | n + 1, s => tokenAt? n (skipBlank s).tail

/-- The token after `n` others, which is not taken. -/
def peekAt? (n : Nat) : Parser (Option Token) :=
  fun s => some (tokenAt? n s, s)

/-- Takes the next token. -/
def token : Parser Token :=
  fun s => match skipBlank s with
    | [] => none
    | t :: s => some (t, s)

/-- Takes the next token if there is one. -/
def anyToken? : Parser (Option Token) :=
  fun s => match skipBlank s with
    | [] => some (none, [])
    | t :: s => some (some t, s)

/-- Takes the next token, white space or not, if there is one. -/
def rawToken? : Parser (Option Token) :=
  fun s => some (s.head?, s.tail)

/-- Takes the next token if `p` holds of it, and says whether it did. -/
def takeIf (p : Token → Bool) : Parser Bool :=
  fun s => match skipBlank s with
    | [] => some (false, s)
    | t :: rest => if p t then some (true, rest) else some (false, s)

/-- Whether nothing but white space is left. -/
def atEnd : Parser Bool := do
  return (← peek?).isNone

/-- Takes the given symbol if it is next. -/
def symbol (text : String) : Parser Bool :=
  takeIf (· == .symbol text)

/-- Takes the given keyword if it is next. -/
def keyword (word : String) : Parser Bool :=
  takeIf (·.isKeyword word)

/-- Takes the given symbol. -/
def expect (text : String) : Parser Unit := do
  if ← symbol text then return else failure

/-- Takes the given keyword. -/
def expectWord (word : String) : Parser Unit := do
  if ← keyword word then return else failure

/-- Whether the given symbol is next. -/
def nextIs (text : String) : Parser Bool := do
  return (← peek?) == some (.symbol text)

/-- The keyword that is next, which is not taken. -/
def peekWord? : Parser (Option String) := do
  return (← peek?).bind Token.keyword?

/-- Takes the next token if it is one of the given keywords. -/
def oneOf (words : List String) : Parser (Option String) := do
  match ← peekWord? with
  | some word => if words.contains word then do let _ ← token; return some word else return none
  | none => return none

/-- The tokens behind the given keywords, if these come first. -/
def dropWords : List String → List Token → Option (List Token)
  | [], s => some s
  | word :: words, s =>
    match skipBlank s with
    | [] => none
    | t :: s => if t.isKeyword word then dropWords words s else none

/-- Takes the given keywords if they are next, all of them or none. -/
def wordsInOrder (words : List String) : Parser Bool :=
  fun s => match dropWords words s with
    | some rest => some (true, rest)
    | none => some (false, s)

/-! ### Combinations -/

/-- What `p` parses, or nothing where `p` fails. -/
def maybe {α : Type} (p : Parser α) : Parser (Option α) :=
  fun s => match p s with
    | some (a, s) => some (some a, s)
    | none => some (none, s)

/-- What `p` parses behind the given keyword, or nothing if that is not next. -/
def behind {α : Type} (word : String) (p : Parser α) : Parser (Option α) := do
  if ← keyword word then some <$> p else return none

/-- One or more of `p` with commas between, at most `n`. -/
def commaList {α : Type} (p : Parser α) : Nat → Parser (List α)
  | 0 => failure
  | n + 1 => do
    let a ← p
    if ← symbol "," then return a :: (← commaList p n) else return [a]

/-- One or more of `p` with commas between. Every one but the first is behind a comma, so there are
no more than there are tokens. -/
def list {α : Type} (p : Parser α) : Parser (List α) := do
  commaList p ((← get).length + 1)

/-- What `p` parses in parentheses. -/
def inParens {α : Type} (p : Parser α) : Parser α := do
  expect "("
  let a ← p
  expect ")"
  return a

/-- What `p` parses in parentheses, or nothing if there is no opening one. -/
def inParensIfAny {α : Type} (p : Parser α) : Parser (Option α) := do
  if ← symbol "(" then
    let a ← p
    expect ")"
    return some a
  else return none

/-! ### Names and numbers -/

/-- A name: a word, keyword or not, or a quoted text. -/
def ident : Parser Ident := do
  match ← token with
  | .word i => return i
  | .singleQuoted text => return ⟨text, some '\''⟩
  | _ => failure

/-- The names behind the points of a qualified name, at most `n`. -/
def qualifiers : Nat → Parser (List Ident)
  | 0 => return []
  | n + 1 => do
    if ← symbol "." then return (← ident) :: (← qualifiers n) else return []

/-- A name with its qualifiers. -/
def objectName : Parser ObjectName := do
  let first ← ident
  return first :: (← qualifiers (← get).length)

/-- A list of names in parentheses. -/
def columnNames : Parser (List Ident) :=
  inParens (list ident)

/-- A list of names in parentheses, or none. -/
def columnNamesIfAny : Parser (List Ident) := do
  return (← inParensIfAny (list ident)).getD []

/-- A whole number of at most 64 bits. -/
def wholeNumber : Parser Nat := do
  match ← token with
  | .number text _ =>
    match Text.readNat? text.toList with
    | some n => if n < 2 ^ (64 : Nat) then return n else failure
    | none => failure
  | _ => failure

/-- A text, which may be a word that is no keyword. -/
def literalText : Parser String := do
  match ← token with
  | .word i => if i.isPlain then return i.value else failure
  | .singleQuoted text => return text
  | .escaped text => return text
  | _ => failure

/-- A text in single quotes. -/
def quotedText : Parser String := do
  match ← token with
  | .singleQuoted text => return text
  | _ => failure

/-- A literal or a placeholder. A name behind a colon or an at sign is a placeholder as well. -/
def literal : Parser Literal := do
  match ← token with
  | .word ⟨value, none⟩ =>
    match Text.upperAscii value with
    | "TRUE" => return .boolean true
    | "FALSE" => return .boolean false
    | "NULL" => return .null
    | _ => failure
  | .word ⟨value, some _⟩ => return .doubleQuoted value
  | .number text long => return .number text long
  | .singleQuoted text => return .singleQuoted text
  | .escaped text => return .escaped text
  | .national text => return .national text
  | .hex text => return .hex text
  | .placeholder text => return .placeholder text
  | .symbol ":" => return .placeholder (":" ++ (← ident).value)
  | .symbol "@" => return .placeholder ("@" ++ (← ident).value)
  | _ => failure

/-- A name behind `AS`, or a word outside `reserved` without it; a quoted text can be a name too. -/
def newName (reserved : List String) : Parser (Option Ident) := do
  if ← keyword "AS" then some <$> ident
  else match ← peek? with
    | some (.word i) =>
      if i.quote.isNone && reserved.contains (Text.upperAscii i.value) then return none
      else some <$> ident
    | some (.singleQuoted _) => some <$> ident
    | _ => return none

/-- The name of a table with names for its columns. -/
def tableAlias : Parser (Option TableAlias) := do
  match ← newName endsTable with
  | some name => return some ⟨name, ← columnNamesIfAny⟩
  | none => return none

/-! ### The recursive parsers -/

end Parser

/-- The parsers that the productions of the grammar descend into. -/
structure Grammar where
  /-- An expression whose operators bind tighter than a level. -/
  expr : Nat → Parser Expr
  /-- The value of an interval, which ends in front of a connective. -/
  intervalValue : Parser Expr
  query : Parser Query
  /-- The body of a query whose operators bind tighter than a level. -/
  body : Nat → Parser Body
  tables : Parser TableRef
  dataType : Parser DataType
  insert : Parser Statement
  statement : Parser Statement

end Prepared.Sql
