import Prepared.Sql.Parser.Phrase

/-!
# Parsing statements about cursors

The productions follow those of the package `sqlparser` 0.28 (`PostgreSqlDialect`).
-/

namespace Prepared.Sql.Cursor

open Prepared.Sql.Parser

/-- A `DECLARE` behind its word. -/
def declare (g : Grammar) : Phrase := do
  let name ← Phrase.ident
  let binary ← Phrase.words ["BINARY"]
  let sensitive ← Phrase.wordIn ["INSENSITIVE", "ASENSITIVE"]
  let scroll ← Phrase.words ["SCROLL"]
  let noScroll ← if scroll.isEmpty then Phrase.words ["NO", "SCROLL"] else pure ""
  expectWord "CURSOR"
  let hold ← match ← oneOf ["WITH", "WITHOUT"] with
    | some word => do
      expectWord "HOLD"
      pure (" " ++ word ++ " HOLD")
    | none => pure ""
  expectWord "FOR"
  return "DECLARE " ++ name ++ binary ++ sensitive ++ scroll ++ noScroll ++ " CURSOR" ++ hold
    ++ " FOR " ++ (← Phrase.query g)

/-- Which rows are fetched. -/
def direction : Phrase := do
  match ← oneOf ["NEXT", "PRIOR", "FIRST", "LAST", "ABSOLUTE", "RELATIVE", "FORWARD", "BACKWARD",
      "ALL"] with
  | some "ABSOLUTE" => return "ABSOLUTE " ++ (← Phrase.number)
  | some "RELATIVE" => return "RELATIVE " ++ (← Phrase.number)
  | some "FORWARD" => return "FORWARD " ++ (← allOrNumber)
  | some "BACKWARD" => return "BACKWARD " ++ (← allOrNumber)
  | some word => return word
  | none => Phrase.number
where
  /-- How many rows are fetched. -/
  allOrNumber : Phrase := do
    if ← keyword "ALL" then return "ALL" else Phrase.number

/-- A `FETCH` behind its word. -/
def fetch : Phrase := do
  let direction ← direction
  let some _ ← oneOf ["FROM", "IN"] | failure
  let name ← Phrase.ident
  return "FETCH " ++ direction ++ " IN " ++ name ++ (← Phrase.behind ["INTO"] Phrase.objectName)

/-- A `CLOSE` behind its word. -/
def close : Phrase := do
  if ← keyword "ALL" then return "CLOSE ALL" else return "CLOSE " ++ (← Phrase.ident)

end Prepared.Sql.Cursor
