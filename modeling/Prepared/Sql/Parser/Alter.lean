import Prepared.Sql.Parser.Table

/-!
# Parsing changes of tables

The productions follow those of the package `sqlparser` 0.28 (`PostgreSqlDialect`).
-/

namespace Prepared.Sql.Alter

open Prepared.Sql.Parser

/-- The expressions that name parts of a table, behind the word for them. -/
def parts (g : Grammar) : Phrase := do
  return "PARTITION " ++ (← Phrase.group (Phrase.expr g))

/-- The options of a column whose type changes, at most `n`. -/
def changedOptions (g : Grammar) : Nat → Phrase
  | 0 => return ""
  | n + 1 => do
    match ← columnOption? g with
    | some option => return " " ++ option.render ++ (← changedOptions g n)
    | none => return ""

/-- What is added to a table, behind the word `ADD`. -/
def add (g : Grammar) : Phrase := do
  match ← tableConstraint? g with
  | some constraint => return "ADD " ++ constraint.render
  | none =>
    let early ← Phrase.ifNotExists
    if ← keyword "PARTITION" then return "ADD" ++ early ++ " " ++ (← parts g)
    else
      let column ← Phrase.words ["COLUMN"]
      let late ← Phrase.ifNotExists
      return "ADD" ++ column ++ (if late.isEmpty then early else late) ++ " "
        ++ (← columnDef g).render

/-- A new name, behind the word `RENAME`. -/
def rename : Phrase := do
  if ← keyword "CONSTRAINT" then
    let old ← Phrase.ident
    expectWord "TO"
    return "RENAME CONSTRAINT " ++ old ++ " TO " ++ (← Phrase.ident)
  else if ← keyword "TO" then return "RENAME TO " ++ (← Phrase.objectName)
  else
    let _ ← keyword "COLUMN"
    let old ← Phrase.ident
    expectWord "TO"
    return "RENAME COLUMN " ++ old ++ " TO " ++ (← Phrase.ident)

/-- What is taken from a table, behind the word `DROP`. -/
def drop (g : Grammar) : Phrase := do
  if ← wordsInOrder ["IF", "EXISTS", "PARTITION"] then
    return "DROP IF EXISTS " ++ (← parts g)
  else if ← keyword "PARTITION" then return "DROP " ++ (← parts g)
  else if ← keyword "CONSTRAINT" then
    let ifExists ← Phrase.ifExists
    let name ← Phrase.ident
    return "DROP CONSTRAINT" ++ ifExists ++ " " ++ name ++ (← Phrase.words ["CASCADE"])
  else
    -- a primary key is no thing of its own
    let _ ← wordsInOrder ["PRIMARY", "KEY"]
    let _ ← keyword "COLUMN"
    let ifExists ← Phrase.ifExists
    let name ← Phrase.ident
    return "DROP COLUMN" ++ ifExists ++ " " ++ name ++ (← Phrase.words ["CASCADE"])

/-- New expressions for parts of a table, behind the word `PARTITION`. -/
def renameParts (g : Grammar) : Phrase := do
  let old ← parts g
  expectWord "RENAME"
  expectWord "TO"
  expectWord "PARTITION"
  return old ++ " RENAME TO " ++ (← parts g)

/-- A column in the place of another, behind the word `CHANGE`. -/
def change (g : Grammar) : Phrase := do
  let _ ← keyword "COLUMN"
  let old ← Phrase.ident
  let new ← Phrase.ident
  let type ← Phrase.dataType g
  let options ← changedOptions g ((← get).length + 1)
  return "CHANGE COLUMN " ++ old ++ " " ++ new ++ " " ++ type ++ options

/-- What changes about a column. -/
def columnChange (g : Grammar) : Phrase := do
  if ← wordsInOrder ["SET", "NOT", "NULL"] then return "SET NOT NULL"
  else if ← wordsInOrder ["DROP", "NOT", "NULL"] then return "DROP NOT NULL"
  else if ← wordsInOrder ["SET", "DEFAULT"] then return "SET DEFAULT " ++ (← Phrase.expr g)
  else if ← wordsInOrder ["DROP", "DEFAULT"] then return "DROP DEFAULT"
  else if ← wordsInOrder ["SET", "DATA", "TYPE"] then newType
  else if ← keyword "TYPE" then newType
  else failure
where
  /-- A new type, and how the old values become values of it. -/
  newType : Phrase := do
    let type ← Phrase.dataType g
    return "SET DATA TYPE " ++ type ++ (← Phrase.behind ["USING"] (Phrase.expr g))

/-- A change of a table. -/
def operation (g : Grammar) : Phrase := do
  match ← oneOf ["ADD", "RENAME", "DROP", "PARTITION", "CHANGE", "ALTER"] with
  | some "ADD" => add g
  | some "RENAME" => rename
  | some "DROP" => drop g
  | some "PARTITION" => renameParts g
  | some "CHANGE" => change g
  | some _ =>
    let _ ← keyword "COLUMN"
    let column ← Phrase.ident
    return "ALTER COLUMN " ++ column ++ " " ++ (← columnChange g)
  | none => failure

/-- An `ALTER TABLE` behind its first word. -/
def alter (g : Grammar) : Phrase := do
  expectWord "TABLE"
  let _ ← keyword "ONLY"
  let name ← Phrase.objectName
  return "ALTER TABLE " ++ name ++ " " ++ (← operation g)

end Prepared.Sql.Alter
