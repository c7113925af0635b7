import Prepared.Console.Loop

/-!
# The command line

Reads standard input to its end and prints what the console prints for it.
-/

/-- Reads an input, and prints what the console prints for it. -/
def main : IO Unit := do
  let input ← (← IO.getStdin).readToEnd
  IO.print (Prepared.Console.output .default input)
