import Sketchflow.Compile.Inputs
import Sketchflow.Listing

/-!
# Programs

A graph is compiled to the text of a program. The program begins with a preamble, defines the
functions and key handlers of the graph, and ends with the main path: the steps from the start
node, or a frame loop with the start node's steps as its setup.

* `emit` writes the steps of a node and of everything that follows it along flow wires. Bodies of
  loops and branches are paths of their own. A node whose steps are being written is not entered
  again.
* `generate` is the whole program.
-/

namespace Sketchflow.Compile

/-- The program of a graph without an entry point. -/
def noEntryProgram : String :=
  "# No Start, Game Loop, or key-press nodes found. Add one to begin your program!\n"
    ++ "# Nothing to run.\n"

/-- The resolved inputs of a node. -/
abbrev Inputs := List (String × String)

def need (r : Inputs) (name : String) : Run String :=
  match r.lookup name with
  | some text => return text
  | none => throw (.missingInput name)

/-- Write the notes not written yet. -/
def flushNotes (out : Listing) : Run Listing := do
  return (← drainNotes).foldl (fun out note => out.comment note) out

/-- A block whose lines are written during the compilation. -/
def blockOf (out : Listing) (header : String) (body : Listing → Run Listing) : Run Listing := do
  let opened := out.enter header
  let inner ← body opened
  return inner.leave opened.lines.size

/-- Writing what follows: a node, the nodes already on this path, and the listing so far. -/
abbrev Walk := Node → List Int → Listing → Run Listing

/-- Go on along the flow wire out of an output, if there is one. -/
def follow (g : Graph) (walk : Walk) (id : Int) (port : String) (path : List Int)
    (out : Listing) : Run Listing := do
  match g.flowFrom? (.int id) (.str port) with
  | none => return out
  | some w =>
    match g.node? (.int w.toNode) with
    | none =>
      return out.comment
        s!"Error: next node (ID {w.toNode}) in exec path from {id}.{port} not found."
    | some next => walk next path out

/-! ## The steps of each type -/

/-- A shape: its outline, and its inside if the node asks for it. -/
def shapeLines (n : Node) (call : String) : List String :=
  ["ctx.begin_path()", call, "ctx.stroke()"]
    ++ (if (n.property "fill").isTrue then ["ctx.fill()"] else []) ++ ["ctx.begin_path()"]

/-- A change of a variable by an amount, with a warning if it holds no number. -/
def changeLines (n : Node) (name amount : String) (out : Listing) : Listing :=
  let out := out.block s!"if isinstance(variables.get({name}), (int, float)):" fun out =>
    out.line s!"variables[{name}] += ({amount})"
  let out := out.block s!"elif variables.get({name}) is None:" fun out =>
    out.line s!"variables[{name}] = ({amount})"
  out.block "else:" fun out =>
    out.line (s!"runtime.warn('Variable ' + str({name}) + "
      ++ Json.writeString true (" is not a number for " ++ n.type ++ ".") ++ ")")

/-- A call of a function by its name, with a warning if there is none. -/
def callLines (name : String) (out : Listing) : Listing :=
  let out := out.block s!"if {name} in functions:" fun out => out.line s!"functions[{name}]()"
  out.block "else:" fun out =>
    out.line s!"runtime.warn('Attempted to call undefined function: ' + str({name}))"

/-- A loop with a condition and a limit on its rounds. -/
def whileLines (g : Graph) (limit : String) (walk : Walk) (n : Node) (condition : String)
    (out : Listing) : Run Listing :=
  let guard := s!"while_guard_{n.id}"
  let out := out.line s!"{guard} = 0"
  blockOf out s!"while ({condition}):" fun out =>
    let out := out.line s!"{guard} += 1"
    let out := out.block s!"if {guard} > {limit}:" fun out =>
      let message := s!"While loop (ID {n.id}) iteration limit exceeded ({limit})."
      (out.line ("runtime.warn(" ++ Json.writeString true message ++ ")")).line "break"
    follow g walk n.id "body" [] out

def stepLines (g : Graph) (limit : String) (walk : Walk) (n : Node) (r : Inputs)
    (out : Listing) : Run Listing := do
  match n.type with
  | "start" => return out.comment s!"Start node (ID {n.id}) execution path"
  | "gameLoop" =>
    return out.comment
      s!"Game loop node (ID {n.id}): its tick logic is defined and started separately."
  | "whenKeyPressed" =>
    return out.comment
      s!"When-key-pressed node (ID {n.id}): its actions are registered as a key handler."
  | "function" => return out.comment s!"Function node (ID {n.id}) is defined above."
  | "moveTo" =>
    let x ← need r "x"
    let y ← need r "y"
    return out.line s!"ctx.move_to({x}, {y})"
  | "lineTo" =>
    let x ← need r "x"
    let y ← need r "y"
    return out.allLines [s!"ctx.line_to({x}, {y})", "ctx.stroke()", "ctx.begin_path()"]
  | "setColor" =>
    let color ← need r "color"
    return out.allLines [s!"ctx.stroke_style = {color}", s!"ctx.fill_style = {color}"]
  | "setPenWidth" =>
    let width ← need r "width"
    return out.line s!"ctx.line_width = {width}"
  | "drawCircle" =>
    let x ← need r "x"
    let y ← need r "y"
    let radius ← need r "radius"
    return out.allLines
      (shapeLines n s!"ctx.arc({x}, {y}, max(0, {radius}), 0, math.pi * 2)")
  | "drawRectangle" =>
    let x ← need r "x"
    let y ← need r "y"
    let width ← need r "width"
    let height ← need r "height"
    return out.allLines
      (shapeLines n s!"ctx.rect({x}, {y}, max(0, {width}), max(0, {height}))")
  | "clearCanvas" =>
    return out.allLines ["ctx.clear_rect(0, 0, ctx.width, ctx.height)", "ctx.begin_path()"]
  | "drawText" =>
    let font ← need r "font"
    let color ← need r "color"
    let text ← need r "text"
    let x ← need r "x"
    let y ← need r "y"
    return out.allLines ["ctx.save()", s!"ctx.font = {font}", s!"ctx.fill_style = {color}",
      "ctx.text_align = 'left'", "ctx.text_baseline = 'top'",
      s!"ctx.fill_text({text}, {x}, {y})", "ctx.restore()"]
  | "say" =>
    let message ← need r "message"
    let x ← need r "targetX"
    let y ← need r "targetY"
    return out.allLines ["ctx.save()", "ctx.font = 'bold 14px Nunito, sans-serif'",
      "ctx.fill_style = '#555555'", "ctx.text_align = 'center'", "ctx.text_baseline = 'bottom'",
      s!"ctx.fill_text({message}, {x}, ({y}) - 5)", "ctx.restore()"]
  | "changeXBy" => change
  | "changeYBy" => change
  | "setXTo" => assign "variableName"
  | "setYTo" => assign "variableName"
  | "setVariable" => assign "name"
  | "repeat" =>
    let count ← need r "count"
    blockOf out s!"for _ in range(math.ceil(float({count}))):" fun out =>
      follow g walk n.id "body" [] out
  | "if" =>
    let condition ← need r "condition"
    let out ← blockOf out s!"if ({condition}):" fun out => follow g walk n.id "then" [] out
    blockOf out "else:" fun out => follow g walk n.id "else" [] out
  | "while" =>
    let condition ← need r "condition"
    whileLines g limit walk n condition out
  | "callFunction" =>
    let name ← need r "name"
    return callLines name out
  | "playSound" =>
    let sound ← need r "soundName"
    return out.line s!"runtime.play_sound({sound})"
  | type => return out.comment s!"Node type {type} (ID {n.id}) has no exec code generation logic."
where
  change : Run Listing := do
    let name ← need r "variableName"
    let amount ← need r "amount"
    return changeLines n name amount out
  /-- Give a variable a value. -/
  assign (nameInput : String) : Run Listing := do
    let name ← need r nameInput
    let value ← need r "value"
    return out.line s!"variables[{name}] = ({value})"

/-- Whether the steps of a type go on at its output `out`. -/
def goesOn (type : String) : Bool :=
  type != "gameLoop" && type != "whenKeyPressed"

def resolveInputs (g : Graph) (n : Node) : List Port → Run Inputs
  | [] => return []
  | p :: rest => do
    let text ← resolve g n p.id
    return (p.id, text) :: (← resolveInputs g n rest)

/-- The steps of a node and of what follows it. The bound is on nodes inside each other's steps. -/
def emitWithin (g : Graph) (limit : String) : Nat → Walk
  | 0, _, _, out => return out
  | bound + 1, n, path, out => do
    if path.contains n.id || (← get).emitting.contains n.id then
      return out.comment
        s!"Loop detected: re-entry to {n.type} (ID {n.id}) skipped in current path."
    else
      modify fun c => { c with emitting := n.id :: c.emitting }
      let walk := emitWithin g limit bound
      let r ← resolveInputs g n n.dataInputs
      let out ← flushNotes out
      let out ← stepLines g limit walk n r out
      let out ← if goesOn n.type then follow g walk n.id "out" (n.id :: path) out else pure out
      modify fun c => { c with emitting := c.emitting.erase n.id }
      return out

/-- How many nodes can stand inside each other's steps. -/
def nestingBound (g : Graph) : Nat :=
  g.nodes.length + 2

def emit (g : Graph) (limit : String) : Walk :=
  emitWithin g limit (nestingBound g)

/-! ## Definitions -/

def isFunctionName (name : String) : Bool :=
  match name.toList with
  | [] => false
  | c :: rest => (c.isAlpha || c == '_') && rest.all fun c => c.isAlphanum || c == '_'

def functionLines (g : Graph) (walk : Walk) (n : Node) (out : Listing) : Run Listing := do
  if (← get).defined.contains n.id then return out
  modify fun c => { c with defined := n.id :: c.defined }
  let resolved ← resolve g n "name"
  let out ← flushNotes out
  let name := unquote resolved
  if isFunctionName name then
    let out ← blockOf out.blank s!"def fn_{name}():" fun out =>
      follow g walk n.id "body" [] out
    return out.line ("functions[" ++ Json.literal name ++ s!"] = fn_{name}")
  else
    return out.comment
      s!"Invalid function name: {resolved} (node ID {n.id}). Skipping definition."

def nameOfKey (key : String) : String :=
  String.ofList (key.toList.map fun c => if c.isAlphanum || c == '_' then c else '_')

/-- The definition and registration of a key handler. -/
def handlerLines (g : Graph) (walk : Walk) (n : Node) (out : Listing) : Run Listing := do
  let key := Text.lower (unquote (← resolve g n "key"))
  let out ← flushNotes out
  let actions ← follow g walk n.id "out" [] (out.child 1)
  if actions.hasStatements then
    let handler := s!"handle_key_press_node{n.id}_" ++ nameOfKey key
    let out := out.blank.block s!"def {handler}():" fun out => out.extend actions
    return out.line ("runtime.register_key_press(" ++ Json.literal key ++ s!", {handler})")
  else
    return out.comment ("'When Key Pressed' for " ++ Json.literal key
      ++ s!" (ID {n.id}) has no actions connected or actions were skipped.")

def eachLines (write : Node → Listing → Run Listing) : List Node → Listing → Run Listing
  | [], out => return out
  | n :: rest, out => do eachLines write rest (← write n out)

/-! ## The frame loop -/

def cancelLines (out : Listing) : Listing :=
  out.block "if tick_state['frame'] is not None:" fun out =>
    out.allLines ["runtime.cancel_frame(tick_state['frame'])", "tick_state['frame'] = None"]

/-- The frame loop: its tick, and how it is started and stopped. -/
def loopLines (g : Graph) (walk : Walk) (n : Node) (out : Listing) : Run Listing := do
  let out := out.blank.comment s!"Game loop (node ID {n.id})"
  let out ← blockOf out "def tick_loop_generated(timestamp=None):" fun out => do
    let out := out.block "if not tick_state['running']:" fun out =>
      (cancelLines out).line "return"
    let out ← follow g walk n.id "tick" [] out
    return out.line "tick_state['frame'] = runtime.request_frame(tick_loop_generated)"
  let out := out.blank.block "def start_tick_loop_generated():" fun out =>
    let out := out.block "if tick_state['frame'] is not None:" fun out =>
      out.line "runtime.cancel_frame(tick_state['frame'])"
    out.allLines ["tick_state['running'] = True",
      "tick_state['frame'] = runtime.request_frame(tick_loop_generated)",
      "runtime.log('Game loop started')"]
  let out := out.blank.block "def stop_tick_loop_generated():" fun out =>
    (cancelLines (out.line "tick_state['running'] = False")).line "runtime.log('Game loop stopped')"
  return out.blank.allLines ["controls['start'] = start_tick_loop_generated",
    "controls['stop'] = stop_tick_loop_generated", "start_tick_loop_generated()"]

/-! ## The whole program -/

def preamble : Listing :=
  let out : Listing := {}
  let out := (out.comment "Generated by NodeCanvas").allLines ["import math", "import random"]
  let out := out.blank.allLines ["functions = \x7b\x7d", "controls = \x7b\x7d",
    "tick_state = \x7b'running': False, 'frame': None\x7d"]
  (out.blank.comment "Drawing initialisation").allLines ["ctx.font = '16px Arial'",
    "ctx.stroke_style = '#000000'", "ctx.fill_style = '#000000'", "ctx.line_width = 2",
    "ctx.begin_path()"]

/-- The main path and what is set up before it: the listing with the setup, and the main path. -/
def mainLines (g : Graph) (walk : Walk) (start loop : Option Node) (out : Listing) :
    Run (Listing × Listing) := do
  match loop, start with
  | some loop, some start =>
    let setup ← walk start [] (out.child 0)
    let out := if setup.hasStatements then
      ((out.blank.comment "One-time setup from the start node").extend setup).comment
        "End of one-time setup"
      else out
    return (out, ← loopLines g walk loop (out.child 0))
  | some loop, none => return (out, ← loopLines g walk loop (out.child 0))
  | none, some start => return (out, ← walk start [] (out.child 0))
  | none, none => return (out, out.child 0)

/-- The program of a graph that has an entry point; its paths are written by `walk`. -/
def programWith (g : Graph) (walk : Walk) (start loop : Option Node) (hats : List Node) :
    Run Listing := do
  let functions := g.nodesOfType "function"
  let out := preamble
  let out ← if functions.isEmpty then pure out
    else eachLines (functionLines g walk) functions (out.blank.comment "Functions")
  let out ← eachLines (handlerLines g walk) hats
    (out.blank.comment "Key handlers and main program")
  let (out, main) ← mainLines g walk start loop out
  let out := out.extend main
  let out := if main.isEmpty then
      out.blank.comment (if hats.isEmpty then
        "Program finished (no active execution paths found)."
        else "Setup complete. Awaiting key presses.")
    else out
  return out.blank.line "return controls"

/-- The program of a graph that has an entry point. -/
def programLines (g : Graph) (limit : String) :
    Option Node → Option Node → List Node → Run Listing :=
  programWith g (emit g limit)

/-- The program of a graph; `limit` is the limit on the rounds of its conditional loops. -/
def generate (g : Graph) (limit : String) : Except Obstacle String :=
  let start := (g.nodesOfType "start").head?
  let loop := (g.nodesOfType "gameLoop").head?
  let hats := g.nodesOfType "whenKeyPressed"
  if start.isNone && loop.isNone && hats.isEmpty then .ok noEntryProgram
  else ((programLines g limit start loop hats).run {}).map fun r => r.1.render

end Sketchflow.Compile
