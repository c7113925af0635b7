import Prepared.Sql.Parser.Phrase

/-!
# Parsing `COPY`

The rows of a table go to a file or come from one, or from the text behind the statement. Such data
is read token by token, white space and all, up to a backslash in front of a point.

Where the data ends is decided as in the package `sqlparser` 0.28 (`PostgreSqlDialect`), which the
productions follow.
-/

namespace Prepared.Sql.Copy

open Prepared.Sql.Parser

/-! ### Options -/

/-- A word that is true unless `FALSE` follows. -/
def switch (word : String) : Phrase := do
  match ← oneOf ["TRUE", "FALSE"] with
  | some "FALSE" => return word ++ " FALSE"
  | _ => return word

/-- Columns in parentheses behind a word. -/
def columns (word : String) : Phrase := do
  return word ++ " " ++ renderColumns (← columnNames)

/-- An option in the parentheses behind the target. -/
def option : Phrase := do
  match ← oneOf ["FORMAT", "FREEZE", "DELIMITER", "NULL", "HEADER", "QUOTE", "ESCAPE",
      "FORCE_QUOTE", "FORCE_NOT_NULL", "FORCE_NULL", "ENCODING"] with
  | some "FORMAT" => return "FORMAT " ++ (← Phrase.ident)
  | some "FREEZE" => switch "FREEZE"
  | some "HEADER" => switch "HEADER"
  | some "DELIMITER" => return "DELIMITER " ++ (← Phrase.character)
  | some "QUOTE" => return "QUOTE " ++ (← Phrase.character)
  | some "ESCAPE" => return "ESCAPE " ++ (← Phrase.character)
  | some "NULL" => return "NULL " ++ (← Phrase.quotedText)
  | some "ENCODING" => return "ENCODING " ++ (← Phrase.quotedText)
  | some word => columns word
  | none => failure

/-- The options in parentheses, behind a space. -/
def options : Phrase := do
  match ← inParensIfAny (list option) with
  | some options => return " " ++ parenthesised options
  | none => return ""

/-- The word that may stand between the name of an option and its value. -/
def skipAs : Parser Unit := do
  let _ ← keyword "AS"

/-- An option of the format `CSV`. -/
def csvOption : Phrase := do
  match ← oneOf ["HEADER", "QUOTE", "ESCAPE", "FORCE"] with
  | some "HEADER" => return "HEADER"
  | some "FORCE" =>
    if ← wordsInOrder ["NOT", "NULL"] then return "FORCE NOT NULL " ++ (← Phrase.list Phrase.ident)
    else
      expectWord "QUOTE"
      return "FORCE QUOTE " ++ (← Phrase.list Phrase.ident)
  | some word =>
    skipAs
    return word ++ " " ++ (← Phrase.character)
  | none => failure

/-- As many of `p` as there are, at most `n`, up to the first that fails. -/
def manyOf (p : Phrase) : Nat → Parser (List String)
  | 0 => return []
  | n + 1 => do
    match ← maybe p with
    | some text => return text :: (← manyOf p n)
    | none => return []

/-- An option behind the parentheses. -/
def bareOption : Phrase := do
  match ← oneOf ["BINARY", "DELIMITER", "NULL", "CSV"] with
  | some "BINARY" => return "BINARY"
  | some "DELIMITER" =>
    skipAs
    return "DELIMITER " ++ (← Phrase.character)
  | some "NULL" =>
    skipAs
    return "NULL " ++ (← Phrase.quotedText)
  | some _ => return "CSV " ++ " ".intercalate (← manyOf csvOption (← get).length)
  | none => failure

/-- The options behind the parentheses, behind a space. -/
def bareOptions : Phrase := do
  match ← manyOf bareOption (← get).length with
  | [] => return ""
  | options => return " " ++ " ".intercalate options

/-! ### Data -/

/-- The values behind the statement, in at most `n` tokens: each ends with a tab or a line. A
backslash makes an end in front of a point, and a missing value in front of the letter `N`. -/
def values (current : String) : Nat → Parser (List String)
  | 0 => return []
  | n + 1 => do
    match ← rawToken? with
    | some .tab => return current :: (← values "" n)
    | some .newline => return current :: (← values "" n)
    | some (.symbol "\\") =>
      if ← symbol "." then return []
      else match ← anyToken? with
        | some (.word ⟨"N", _⟩) => return "\\N" :: (← values current n)
        | _ => values current n
    | some t => values (current ++ t.plain) n
    | none => return []

/-- The data behind a statement as it is written: one line of values, and the end. -/
def data : Phrase := do
  expect ";"
  match ← values "" ((← get).length + 1) with
  | [] => return ""
  | values => return ";\n" ++ "\t".intercalate values ++ "\n\\."

/-! ### The statement -/

/-- Where rows come from or go to. -/
inductive Target where
  /-- The text behind the statement. -/
  | input
  | output
  | program (command : String)
  | file (name : String)

/-- A target as it is written. -/
def Target.render : Target → String
  | input => "STDIN"
  | output => "STDOUT"
  | program command => "PROGRAM " ++ quoted '\'' command
  | file name => quoted '\'' name

/-- Where rows come from or go to. -/
def target : Parser Target := do
  match ← oneOf ["STDIN", "STDOUT", "PROGRAM"] with
  | some "STDIN" => return .input
  | some "STDOUT" => return .output
  | some _ => return .program (← literalText)
  | none => return .file (← literalText)

/-- A `COPY` behind its word. -/
def copy : Phrase := do
  let name ← Phrase.objectName
  let columns ← Phrase.columnsIfAny
  let direction ← Phrase.wordOf ["FROM", "TO"]
  let target ← target
  let _ ← keyword "WITH"
  let options ← options
  let bareOptions ← bareOptions
  let data ← match target with
    | .input => data
    | _ => pure ""
  return "COPY " ++ name ++ columns ++ " " ++ direction ++ " " ++ target.render ++ options
    ++ bareOptions ++ data

end Prepared.Sql.Copy
