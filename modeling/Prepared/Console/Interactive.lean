import Prepared.Console.Loop
import Prepared.Session.Batch

/-!
# The loop of the console

The loop reads a text, carries it out and prints what comes of it, until the input ends. An error of
a session is printed as well. But the rows of an outcome are put together to be printed, and where
that fails the loop is left at once, with what has been printed and changed until then.
-/

namespace Prepared.Console

/-! ### Reading -/

/-- The next text, behind what was read of it before, and the lines after it. The input may end
before a text does. -/
def readText? (pending : String) : List String → Option (String × List String)
  | [] => none
  | line :: lines =>
    if line.isEmpty then readText? pending lines
    else if pending.isEmpty && line.toList.head? = some '\\' then some (line, lines)
    else if line.toList.getLast? = some ';' then some (pending ++ line, lines)
    else readText? (pending ++ line ++ "\n") lines

theorem length_lt_of_readText? {pending text : String} {lines rest : List String}
    (h : readText? pending lines = some (text, rest)) : rest.length < lines.length := by
  induction lines generalizing pending with
  | nil => cases h
  | cons line lines ih =>
    unfold readText? at h
    split at h
    · exact Nat.lt_succ_of_lt (ih h)
    · split at h
      · cases h
        exact Nat.lt_succ_self _
      · split at h
        · cases h
          exact Nat.lt_succ_self _
        · exact Nat.lt_succ_of_lt (ih h)

/-! ### Printing -/

section

variable {ε : Type} (build : List Field → List ColumnData → Except ε RowSet)

/-- What is printed for an outcome, unless its rows cannot be put together. -/
def printOutcome (o : Outcome) : Except ε (List String) :=
  match o with
  | .command tag => .ok [tag]
  | .executed e => .ok (e.sql :: grid e.params)
  | o => (o.toBatch build).map fun rows? => (rows?.map grid).getD []

/-- What is printed for outcomes, up to the first that cannot be printed. -/
def printOutcomes : List Outcome → List String × Except ε Unit
  | [] => ([], .ok ())
  | o :: os =>
    match printOutcome build o with
    | .ok lines =>
      let (more, result) := printOutcomes os
      (lines ++ more, result)
    | .error e => ([], .error e)

/-! ### The loop -/

/-- What a text prints, the session after it, and whether everything could be printed. -/
def carryOut (s : Session) (text : String) : List String × Except ε Unit × Session :=
  match Text.trimChars text.toList with
  | '\\' :: command => (runCommand s (String.ofList command), .ok (), s)
  | _ =>
    match s.run text with
    | (.ok outcomes, s) =>
      let (printed, result) := printOutcomes build outcomes
      (printed, result, s)
    | (.error e, s) => (["Run Error: " ++ e.message], .ok (), s)

/-- What comes of an input. -/
structure Run (ε : Type) where
  result : Except ε Unit
  printed : List String
  session : Session
  /-- The texts that were carried out, in order. -/
  texts : List String

/-- The loop over the lines of an input. A text of blanks is passed over. -/
def interactive (s : Session) (lines : List String) : Run ε :=
  match h : readText? "" lines with
  | none => ⟨.ok (), ["Exited"], s, []⟩
  | some (text, rest) =>
    have := length_lt_of_readText? h
    if (Text.trimChars text.toList).isEmpty then interactive s rest
    else
      match carryOut build s text with
      | (printed, .error e, s) => ⟨.error e, printed, s, [text]⟩
      | (printed, .ok (), s) =>
        let more := interactive s rest
        { more with printed := printed ++ more.printed, texts := text :: more.texts }
  termination_by lines.length

end

end Prepared.Console
