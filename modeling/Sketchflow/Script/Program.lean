import Sketchflow.Script.Constant
import Sketchflow.Script.Eval
import Sketchflow.Text.Lines

/-!
# A program and its run

A program's text is the body of a function with three parameters: the canvas, the variables and
the host. `run` reads the text and performs it. A text that is no program stops before anything
is done.
-/

namespace Sketchflow.Script

/-- The parameters of a program with their values. -/
def parameters : Fields :=
  programParameters.zip [.handle .canvas, .handle (.table .vars), .handle .host]

def definitionText (text : String) : List Char :=
  ("def " ++ programName ++ "(" ++ Text.joinWith ", " programParameters ++ "):\n").toList
    ++ (Text.indentLines "    ".toList text.toList ++ "\n    pass\n".toList)

/-- Perform a definition with the values of its parameters. -/
def perform (d : Definition) : Eval Value := do
  modify fun m => { m with names := parameters }
  let scope : Scope := { own := parameters.map (·.1) ++ bindsAll d.body }
  return (← execAll invoke scope d.body).result

def marked (d : Definition) : Eval Definition :=
  modifyGet fun m =>
    let (body, mark) := (markAll d.body).run m.nextMark
    ({ d with body }, { m with nextMark := mark })

/-- Read a program and perform it. -/
def run (text : String) : Eval Value :=
  if text.contains '\x00' then throw .nullCharacter
  else
    match definition? (definitionText text) with
    | none => throw .malformed
    | some d => do perform (← marked d)

end Sketchflow.Script
