import Prepared.RowSet
import Prepared.Text.DisplayWidth

/-!
# Rows as a grid

A set of rows drawn with lines: a header between two rules, the rows, and a rule. Every column is as
wide as its widest text, with a space on both sides.
-/

namespace Prepared.Console

/-- The parts of `s` between the line breaks in it; there is always one. -/
def splitAtBreaks : List Char → List (List Char)
  | [] => [[]]
  | c :: s =>
    match splitAtBreaks s with
    | [] => [[c]]
    | l :: ls => if c = '\n' then [] :: l :: ls else (c :: l) :: ls

/-- The lines of the text of a cell. -/
def cellLines (text : String) : List String :=
  (splitAtBreaks text.toList).map String.ofList

/-- A datum in a grid; a null is an empty cell. -/
def gridText (d : Option Datum) : String :=
  (d.map Datum.render).getD ""

/-- The width of the widest line of a cell. -/
def cellWidth (text : String) : Nat :=
  ((cellLines text).map Text.displayWidth).foldl max 0

/-- The widths of columns that have room for the cells of a row. -/
def widen (widths : List Nat) (cells : List String) : List Nat :=
  List.zipWith (fun w cell => max w (cellWidth cell)) widths cells

/-- A line of text with spaces behind it up to the given width. -/
def pad (width : Nat) (line : String) : String :=
  line ++ String.ofList (List.replicate (width - Text.displayWidth line) ' ')

/-- A rule over columns of the given widths. -/
def rule (widths : List Nat) : String :=
  "+" ++ "+".intercalate (widths.map fun w => String.ofList (List.replicate (w + 2) '-')) ++ "+"

/-- One line of a row. -/
def gridLine (widths : List Nat) (lines : List String) : String :=
  "|" ++ String.join (List.zipWith (fun w line => " " ++ pad w line ++ " |") widths lines)

/-- The lines of a row, as many as its highest cell has. -/
def gridRow (widths : List Nat) (cells : List String) : List String :=
  let lines := cells.map cellLines
  let height := (lines.map List.length).foldl max 0
  (List.range height).map fun i => gridLine widths (lines.map fun ls => ls[i]?.getD "")

/-- The lines of a grid. -/
def grid (r : RowSet) : List String :=
  let header := r.fields.map (·.name)
  let rows := r.rows.map (·.map gridText)
  let widths := rows.foldl widen (header.map cellWidth)
  let line := rule widths
  if header.isEmpty then [line, line, line]
  else [line] ++ gridRow widths header ++ [line] ++ rows.flatMap (gridRow widths) ++ [line]

end Prepared.Console
