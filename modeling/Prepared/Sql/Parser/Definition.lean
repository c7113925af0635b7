import Prepared.Sql.Parser.Phrase

/-!
# Parsing definitions

Statements that create something other than a table or a view: functions, indices, schemas,
databases, roles and sequences.

The productions follow those of the package `sqlparser` 0.28 (`PostgreSqlDialect`).
-/

namespace Prepared.Sql.Definition

open Prepared.Sql.Parser

/-! ### Functions -/

/-- An argument of a function. Where the first word is no built-in type, it is the name. -/
def argument (g : Grammar) : Phrase := do
  let mode ← match ← oneOf ["IN", "OUT", "INOUT"] with
    | some word => pure (word ++ " ")
    | none => pure ""
  let (name, type) ← match ← g.dataType with
    | .custom (first :: _) _ => do pure (first.render ++ " ", ← g.dataType)
    | type => pure ("", type)
  let value ← do
    if ← keyword "DEFAULT" then pure (" = " ++ (← Phrase.expr g))
    else if ← symbol "=" then pure (" = " ++ (← Phrase.expr g))
    else pure ""
  return mode ++ name ++ type.render ++ value

/-- What a function does, as far as it is said. -/
structure FunctionBody where
  language : String
  behavior : String
  definition : String
  result : String

/-- A part that is said for the first time. -/
def once (before : String) (p : Phrase) : Phrase := do
  if before.isEmpty then p else failure

/-- What a function does, in at most `n` parts, none of them twice. -/
def functionBody (g : Grammar) (b : FunctionBody) : Nat → Parser FunctionBody
  | 0 => return b
  | n + 1 => do
    match ← oneOf ["AS", "LANGUAGE", "IMMUTABLE", "STABLE", "VOLATILE", "RETURN"] with
    | some "AS" =>
      let definition ← once b.definition do return " AS " ++ (← Phrase.rawText)
      functionBody g { b with definition } n
    | some "LANGUAGE" =>
      let language ← once b.language do return " LANGUAGE " ++ (← Phrase.ident)
      functionBody g { b with language } n
    | some "RETURN" =>
      let result ← once b.result do return " RETURN " ++ (← Phrase.expr g)
      functionBody g { b with result } n
    | some word =>
      let behavior ← once b.behavior do return " " ++ word
      functionBody g { b with behavior } n
    | none => return b

/-- A `CREATE FUNCTION` behind that word. -/
def function (g : Grammar) (orReplace temporary : Bool) : Phrase := do
  let name ← Phrase.objectName
  let args ← Phrase.group (argument g)
  let returns ← Phrase.behind ["RETURNS"] (Phrase.dataType g)
  let body ← functionBody g ⟨"", "", "", ""⟩ ((← get).length + 1)
  return "CREATE " ++ (if orReplace then "OR REPLACE " else "")
    ++ (if temporary then "TEMPORARY " else "") ++ "FUNCTION " ++ name ++ args ++ returns
    ++ body.language ++ body.behavior ++ body.definition ++ body.result

/-! ### Indices, schemas and databases -/

/-- A `CREATE INDEX` behind that word. The columns have no spaces between them. -/
def index (g : Grammar) (unique : Bool) : Phrase := do
  let ifNotExists ← Phrase.ifNotExists
  let name ← Phrase.objectName
  expectWord "ON"
  let table ← Phrase.objectName
  let method ← behind "USING" ident
  let columns ← inParens (list (directed g))
  return "CREATE " ++ (if unique then "UNIQUE " else "") ++ "INDEX" ++ ifNotExists ++ " " ++ name
    ++ " ON " ++ table ++ whenSome " USING " (fun m => m.render ++ " ") method
    ++ "(" ++ ",".intercalate (columns.map fun c => c.1.render ++ c.2.render) ++ ")"

/-- A `CREATE VIRTUAL TABLE` behind the word `VIRTUAL`. -/
def virtualTable : Phrase := do
  expectWord "TABLE"
  let ifNotExists ← Phrase.ifNotExists
  let name ← Phrase.objectName
  expectWord "USING"
  let method ← Phrase.ident
  return "CREATE VIRTUAL TABLE" ++ ifNotExists ++ " " ++ name ++ " USING " ++ method
    ++ (← Phrase.columnsIfAny)

/-- A `CREATE SCHEMA` behind that word. A schema may be named for its owner only. -/
def schema : Phrase := do
  let ifNotExists ← Phrase.ifNotExists
  let name ← do
    if ← keyword "AUTHORIZATION" then pure ("AUTHORIZATION " ++ (← Phrase.ident))
    else
      let name ← Phrase.objectName
      pure (name ++ (← Phrase.behind ["AUTHORIZATION"] Phrase.ident))
  return "CREATE SCHEMA" ++ ifNotExists ++ " " ++ name

/-- The two places of a database, in at most `n` clauses, of which the last of a kind counts. -/
def places (location managed : String) : Nat → Phrase
  | 0 => return location ++ managed
  | n + 1 => do
    match ← oneOf ["LOCATION", "MANAGEDLOCATION"] with
    | some "LOCATION" => places (" LOCATION " ++ (← Phrase.rawText)) managed n
    | some _ => places location (" MANAGEDLOCATION " ++ (← Phrase.rawText)) n
    | none => return location ++ managed

/-- A `CREATE DATABASE` behind that word. -/
def database : Phrase := do
  let ifNotExists ← Phrase.ifNotExists
  let name ← Phrase.objectName
  return "CREATE DATABASE" ++ ifNotExists ++ " " ++ name ++ (← places "" "" ((← get).length + 1))

/-! ### Roles -/

/-- What can be said about a role, in the order in which it is written. -/
inductive RoleTopic where
  | superuser
  | createDatabase
  | createRole
  | inherit
  | login
  | replication
  | bypassRules
  | connectionLimit
  | password
  | validUntil
  | inRole
  | inGroup
  | role
  | user
  | admin
  deriving Repr, DecidableEq

/-- All topics in their order. -/
def RoleTopic.all : List RoleTopic :=
  [.superuser, .createDatabase, .createRole, .inherit, .login, .replication, .bypassRules,
    .connectionLimit, .password, .validUntil, .inRole, .inGroup, .role, .user, .admin]

/-- What is permitted or refused to a role by a single word. -/
def permissions : List (String × RoleTopic) := [
  ("SUPERUSER", .superuser), ("NOSUPERUSER", .superuser), ("CREATEDB", .createDatabase),
  ("NOCREATEDB", .createDatabase), ("CREATEROLE", .createRole), ("NOCREATEROLE", .createRole),
  ("INHERIT", .inherit), ("NOINHERIT", .inherit), ("LOGIN", .login), ("NOLOGIN", .login),
  ("REPLICATION", .replication), ("NOREPLICATION", .replication), ("BYPASSRLS", .bypassRules),
  ("NOBYPASSRLS", .bypassRules)]

/-- The topic of the next option of a role and its text, if there is one. -/
def roleOption? : Parser (Option (RoleTopic × String)) := do
  match ← oneOf (permissions.map (·.1)) with
  | some word => return (permissions.lookup word).map fun topic => (topic, " " ++ word)
  | none =>
    match ← oneOf ["CONNECTION", "PASSWORD", "VALID", "IN", "ROLE", "USER", "ADMIN"] with
    | some "CONNECTION" =>
      expectWord "LIMIT"
      return some (.connectionLimit, " CONNECTION LIMIT " ++ (← Phrase.number))
    | some "PASSWORD" => return some (.password, " PASSWORD " ++ (← Phrase.literal))
    | some "VALID" =>
      expectWord "UNTIL"
      return some (.validUntil, " VALID UNTIL " ++ (← Phrase.literal))
    | some "IN" =>
      if ← keyword "ROLE" then return some (.inRole, " IN ROLE " ++ (← names))
      else
        expectWord "GROUP"
        return some (.inGroup, " IN GROUP " ++ (← names))
    | some "ROLE" => return some (.role, " ROLE " ++ (← names))
    | some "USER" => return some (.user, " USER " ++ (← names))
    | some _ => return some (.admin, " ADMIN " ++ (← names))
    | none => return none
where
  /-- Names of roles. -/
  names : Phrase := Phrase.list Phrase.ident

/-- The options of a role, at most `n`, none of them twice. -/
def roleOptions (said : List (RoleTopic × String)) : Nat → Parser (List (RoleTopic × String))
  | 0 => return said
  | n + 1 => do
    match ← roleOption? with
    | some (topic, text) =>
      if (said.lookup topic).isSome then failure else roleOptions ((topic, text) :: said) n
    | none => return said

/-- A `CREATE ROLE` behind that word. -/
def role : Phrase := do
  let ifNotExists ← Phrase.ifNotExists
  let names ← Phrase.list Phrase.objectName
  let _ ← keyword "WITH"
  let options ← roleOptions [] ((← get).length + 1)
  let texts := RoleTopic.all.filterMap fun topic => options.lookup topic
  return "CREATE ROLE" ++ ifNotExists ++ " " ++ names ++ String.join texts

/-! ### Sequences -/

/-- A bound of a sequence, or that it has none. -/
def sequenceBound (word : String) : Phrase := do
  if ← keyword word then return " " ++ word ++ " " ++ (← Phrase.number)
  else Phrase.words ["NO", word]

/-- A number of a sequence behind a word, which a second word may follow. -/
def sequenceNumber (word second : String) : Phrase := do
  if ← keyword word then
    let second ← Phrase.words [second]
    return " " ++ word ++ second ++ " " ++ (← Phrase.number)
  else return ""

/-- Whether a sequence begins anew at its end. The word `NO` may stand alone for nothing. -/
def sequenceCycle : Phrase := do
  if ← keyword "NO" then
    if ← keyword "CYCLE" then return " NO CYCLE" else return ""
  else Phrase.words ["CYCLE"]

/-- The column that a sequence belongs to. -/
def sequenceOwner : Phrase :=
  Phrase.behind ["OWNED", "BY"] do
    if ← keyword "NONE" then return "NONE" else Phrase.objectName

/-- A `CREATE SEQUENCE` behind that word. Its options have a fixed order. -/
def sequence (g : Grammar) (temporary : Bool) : Phrase := do
  let ifNotExists ← Phrase.ifNotExists
  let name ← Phrase.objectName
  let type ← Phrase.behind ["AS"] (Phrase.dataType g)
  let increment ← sequenceNumber "INCREMENT" "BY"
  let least ← sequenceBound "MINVALUE"
  let greatest ← sequenceBound "MAXVALUE"
  let start ← sequenceNumber "START" "WITH"
  let cache ← Phrase.behind ["CACHE"] Phrase.number
  let cycle ← sequenceCycle
  let owner ← sequenceOwner
  return "CREATE " ++ (if temporary then "TEMPORARY " else "") ++ "SEQUENCE" ++ ifNotExists ++ " "
    ++ name ++ type ++ increment ++ least ++ greatest ++ start ++ cache ++ cycle ++ owner

/-! ### Dispatch -/

/-- A definition behind the word `CREATE` and the words that say whether it replaces another one or
lives for a session only. Only a function can replace another one. -/
def definition (g : Grammar) (orReplace temporary : Bool) : Phrase := do
  if ← keyword "FUNCTION" then function g orReplace temporary
  else if orReplace then failure
  else if ← keyword "INDEX" then index g false
  else if ← wordsInOrder ["UNIQUE", "INDEX"] then index g true
  else match ← oneOf ["VIRTUAL", "SCHEMA", "DATABASE", "ROLE", "SEQUENCE"] with
    | some "VIRTUAL" => virtualTable
    | some "SCHEMA" => schema
    | some "DATABASE" => database
    | some "ROLE" => role
    | some _ => sequence g temporary
    | none => failure

end Prepared.Sql.Definition
