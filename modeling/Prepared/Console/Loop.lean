import Prepared.Console.Grid
import Prepared.Session.Basic
import Prepared.Text.Blank

/-!
# The console

Lines are put together to statements until one ends in a semicolon, and each text that is complete
is carried out. A line that begins with a backslash is a command of the console itself. `interact`
gives what is printed for all the lines of an input, and the session at their end.
-/

namespace Prepared.Console

/-! ### From lines to texts -/

/-- The lines of an input. A line ends in a line feed, which may follow a carriage return; the last
line need not end at all. -/
def linesOf (input : String) : List String :=
  let pieces := splitAtBreaks input.toList
  let ended := pieces.dropLast.map fun l => if l.getLast? = some '\r' then l.dropLast else l
  let rest := pieces.getLast?.getD []
  (ended ++ if rest.isEmpty then [] else [rest]).map String.ofList

/-- The texts that lines make up, behind what was read of an unfinished one, and what is left
unfinished. Empty lines do not count. -/
def texts (pending : String) : List String → List String × String
  | [] => ([], pending)
  | line :: lines =>
    if line.isEmpty then texts pending lines
    else if pending.isEmpty && line.toList.head? = some '\\' then
      let (rest, unfinished) := texts "" lines
      (line :: rest, unfinished)
    else if line.toList.getLast? = some ';' then
      let (rest, unfinished) := texts "" lines
      ((pending ++ line) :: rest, unfinished)
    else texts (pending ++ line ++ "\n") lines

/-! ### Commands -/

/-- A table with its columns. -/
def describeTable (t : Table) : String :=
  t.name ++ " (" ++ ", ".intercalate (t.columns.map fun c => c.name ++ " " ++ c.type.name) ++ ")"

/-- A prepared statement with its parameters. -/
def describeStatement (p : PreparedStatement) : String :=
  p.name ++ "(" ++ ", ".intercalate (p.paramTypes.map SqlType.name) ++ "): " ++ p.statement.render

/-- What a command of the console prints: the tables, or the prepared statements. -/
def runCommand (s : Session) (command : String) : List String :=
  let name := Text.trim command
  if name = "d" then s.catalog.tables.values.map describeTable
  else if name = "p" then s.statements.values.map describeStatement
  else ["Run Internal " ++ command ++ " Err: Unknown internal command"]

/-! ### Statements -/

/-- What is printed for an outcome. -/
def printed (o : Outcome) : List String :=
  match o with
  | .command tag => [tag]
  | .executed e => e.sql :: grid e.params
  | o => (o.rows?.map grid).getD []

/-- What is printed for a text, and the session after it. -/
def runText (s : Session) (text : String) : List String × Session :=
  match Text.trimChars text.toList with
  | [] => ([], s)
  | '\\' :: command => (runCommand s (String.ofList command), s)
  | _ =>
    match s.run text with
    | (.ok outcomes, s) => (outcomes.flatMap printed, s)
    | (.error e, s) => (["Run Error: " ++ e.message], s)

/-- What is printed for several texts, and the session after them. -/
def runTexts (s : Session) : List String → List String × Session
  | [] => ([], s)
  | text :: rest =>
    let (printed, s) := runText s text
    let (more, s) := runTexts s rest
    (printed ++ more, s)

/-- What is printed for the lines of an input, and the session after them. What is unfinished at the
end is dropped. -/
def interact (s : Session) (lines : List String) : List String × Session :=
  let (printed, s) := runTexts s (texts "" lines).1
  (printed ++ ["Exited"], s)

/-- What is printed for an input, with a line feed behind every line. -/
def output (config : Config) (input : String) : String :=
  String.join ((interact (Session.new config) (linesOf input)).1.map (· ++ "\n"))

end Prepared.Console
