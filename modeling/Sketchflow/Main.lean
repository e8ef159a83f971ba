import Sketchflow.Showcase

/-!
# The command line

Tells the showcase, with circles at places drawn at random.
-/

open Sketchflow

/-- How many steps there are between zero and one. -/
def drawSteps : Nat := 9007199254740992

/-- A number at random, at least zero and below one. -/
def drawOne : IO Float := do
  return (← IO.rand 0 (drawSteps - 1)).toFloat / drawSteps.toFloat

/-- Numbers at random. -/
def drawMany : Nat → IO (List Float)
  | 0 => return []
  | n + 1 => do
    let x ← drawOne
    return x :: (← drawMany n)

/-- Tell the showcase. -/
def main : IO Unit := do
  let story : Showcase.Story := { chance := { values := ← drawMany 64 } }
  IO.print (Showcase.tellAll story).text
