import Prepared.Sql.Parser.Alter
import Prepared.Sql.Parser.Copy
import Prepared.Sql.Parser.Cursor
import Prepared.Sql.Parser.Definition
import Prepared.Sql.Parser.Privilege
import Prepared.Sql.Parser.Setting
import Prepared.Sql.Parser.Upkeep

/-!
# Parsing statements

The first word of a statement says what it is; a query may begin with a parenthesis as well.

The productions follow those of the package `sqlparser` 0.28 (`PostgreSqlDialect`).
-/

namespace Prepared.Sql.Parser

/-! ### Definitions -/

/-- A `CREATE` behind its word. -/
def create (g : Grammar) : Parser Statement := do
  let orReplace ← wordsInOrder ["OR", "REPLACE"]
  let isLocal ← keyword "LOCAL"
  let isGlobal ← keyword "GLOBAL"
  let temporary := (← oneOf ["TEMP", "TEMPORARY"]).isSome
  match ← oneOf ["TABLE", "MATERIALIZED", "VIEW", "EXTERNAL"] with
  | some "TABLE" =>
    let isGlobal := if isGlobal then some true else if isLocal then some false else none
    createTable g orReplace isGlobal temporary
  | some "VIEW" => createView g orReplace false
  | some "EXTERNAL" => createExternalTable g orReplace
  | some _ =>
    expectWord "VIEW"
    createView g orReplace true
  | none => Statement.other <$> Definition.definition g orReplace temporary

/-! ### Prepared statements -/

/-- A `PREPARE` behind its word. -/
def prepare (g : Grammar) : Parser Statement := do
  let name ← ident
  let types ← inParensIfAny (list g.dataType)
  expectWord "AS"
  return .prepare name (types.getD []) (← g.statement)

/-- An `EXECUTE` behind its word. -/
def execute (g : Grammar) : Parser Statement := do
  let name ← ident
  let args ← inParensIfAny (list (g.expr 0))
  return .execute name (args.getD [])

/-- A `DEALLOCATE` behind its word. -/
def deallocate : Parser Statement := do
  let prepareWord ← keyword "PREPARE"
  return .deallocate (← ident) prepareWord

/-! ### Explanations -/

/-- An `EXPLAIN` behind its word: of a statement, or of a table. -/
def explain (g : Grammar) (word : String) : Parser Statement := do
  let analyze ← Phrase.words ["ANALYZE"]
  let verbose ← Phrase.words ["VERBOSE"]
  let format ← Phrase.behind ["FORMAT"] (Phrase.wordOf ["TEXT", "GRAPHVIZ", "JSON"])
  match ← maybe g.statement with
  | some statement => return .explain (word ++ analyze ++ verbose ++ format ++ " ") statement
  | none => return .other (word ++ " " ++ (← Phrase.objectName))

/-! ### Statements -/

/-- What follows the first word of a statement of which nothing but the text is asked. -/
def phrase? (g : Grammar) : String → Option Phrase
  | "ALTER" => some (Alter.alter g)
  | "ANALYZE" => some (Upkeep.measure g)
  | "ASSERT" => some (Upkeep.assert g)
  | "BEGIN" => some Transaction.begin
  | "CACHE" => some (Upkeep.cache g)
  | "CLOSE" => some Cursor.close
  | "COMMENT" => some Upkeep.comment
  | "COMMIT" => some (Transaction.finish "COMMIT")
  | "COPY" => some Copy.copy
  | "DECLARE" => some (Cursor.declare g)
  | "DISCARD" => some Upkeep.discard
  | "DROP" => some Upkeep.drop
  | "FETCH" => some Cursor.fetch
  | "GRANT" => some Privilege.grant
  | "KILL" => some Upkeep.kill
  | "MERGE" => some (merge g)
  | "MSCK" => some Upkeep.check
  | "REVOKE" => some Privilege.revoke
  | "ROLLBACK" => some (Transaction.finish "ROLLBACK")
  | "SAVEPOINT" => some Transaction.savepoint
  | "SET" => some (Setting.set g)
  | "SHOW" => some (Setting.showing g)
  | "START" => some Transaction.start
  | "TRUNCATE" => some (Upkeep.truncate g)
  | "UNCACHE" => some Upkeep.uncache
  | "USE" => some Setting.use
  | _ => none

/-- A statement. -/
def statement (g : Grammar) : Parser Statement := do
  let word := (← peekWord?).getD ""
  if (← nextIs "(") || ["SELECT", "WITH", "VALUES"].contains word then return .query (← g.query)
  else
    let _ ← token
    match word with
    | "INSERT" => g.insert
    | "UPDATE" => update g
    | "DELETE" => delete g
    | "CREATE" => create g
    | "PREPARE" => prepare g
    | "EXECUTE" => execute g
    | "DEALLOCATE" => deallocate
    | "EXPLAIN" => explain g "EXPLAIN"
    | "DESCRIBE" => explain g "DESCRIBE"
    | word =>
      match phrase? g word with
      | some phrase => Statement.other <$> phrase
      | none => failure

/-- The semicolons that are next, at most `n`. -/
def semicolons : Nat → Parser Bool
  | 0 => return false
  | n + 1 => do
    if ← symbol ";" then
      let _ ← semicolons n
      return true
    else return false

/-- The statements of a text, at most `n`. Between two there is at least one semicolon. -/
def statements (g : Grammar) : Nat → Parser (List Statement)
  | 0 => return []
  | n + 1 => do
    let _ ← semicolons (← get).length
    if ← atEnd then return []
    else
      let first ← statement g
      let separated ← semicolons (← get).length
      if ← atEnd then return [first]
      else if separated then return first :: (← statements g n)
      else failure

end Prepared.Sql.Parser
