import Sketchflow.Studio

/-!
# A showcase

Two graphs that show what the project does, and the text that tells of them: a row of circles
drawn at random places, and a paddle that keys move in a game loop.

* `tellCompile`, `tellRun`, `tellGame` and `tellWorkspace` are the parts.
* `tellAll` is the whole showcase.
-/

namespace Sketchflow.Showcase

/-- A story: what was told so far, and the numbers drawn at random that are left. -/
structure Story where
  lines : List String := []
  chance : Script.Chance := {}

def Story.tell (s : Story) (line : String) : Story :=
  { s with lines := line :: s.lines }

/-- The text of a story, a line feed after each line. -/
def Story.text (s : Story) : String :=
  String.join (s.lines.reverse.map fun l => l ++ "\n")

/-! ## Building -/

def start (chance : Script.Chance) : Studio :=
  { palette := .standard, settings := { workspaceDir := "workspaces" }, machine := { chance }
    folder := { name := "workspaces" } }

/-- Add a node; the result is its id. -/
def place (w : Studio) (type : String) (x y : Value) : Value × Studio :=
  match w.graph.create w.palette type x y with
  | .ok (n, g) => (.int n.id, w.withGraph g)
  | .error _ => (.null, w)

/-- Add a node at the origin. -/
def placeAtOrigin (w : Studio) (type : String) : Value × Studio :=
  place w type (.float 0.0) (.float 0.0)

def setInput (w : Studio) (id : Value) (port : String) (v : Value) : Studio :=
  w.withGraph (w.graph.setDefault id (.str port) v).2

/-- Join an output and an input. -/
def join (w : Studio) (fromNode : Value) (fromPort : String) (toNode : Value) (toPort : String) :
    Studio :=
  (w.connect fromNode (.str fromPort) toNode (.str toPort)).2

/-- Five circles at random places. -/
def circles (chance : Script.Chance) : Studio :=
  let w := start chance
  let (first, w) := place w "start" (.int 40) (.int 40)
  let (color, w) := place w "setColor" (.int 200) (.int 40)
  let (again, w) := place w "repeat" (.int 360) (.int 40)
  let (circle, w) := place w "drawCircle" (.int 520) (.int 120)
  let (random, w) := place w "randomNumber" (.int 360) (.int 200)
  let w := setInput w again "count" (.int 5)
  let w := setInput w random "max" (.int 350)
  let w := join w first "out" color "in"
  let w := join w color "out" again "in"
  let w := join w again "body" circle "in"
  join w random "value" circle "x"

/-- A key that moves the paddle by an amount. -/
def addKey (w : Studio) (key : String) (amount : Int) : Studio :=
  let (hat, w) := placeAtOrigin w "whenKeyPressed"
  let (step, w) := placeAtOrigin w "changeXBy"
  let w := setInput w hat "key" (.str key)
  let w := setInput w step "amount" (.int amount)
  join w hat "out" step "in"

/-- A paddle drawn on every frame. -/
def paddle (chance : Script.Chance) : Studio :=
  let w := start chance
  let (loop, w) := placeAtOrigin w "gameLoop"
  let (clear, w) := placeAtOrigin w "clearCanvas"
  let (rectangle, w) := placeAtOrigin w "drawRectangle"
  let (x, w) := placeAtOrigin w "getVariable"
  let w := setInput w x "name" (.str "objectX")
  let w := join w loop "tick" clear "in"
  let w := join w clear "out" rectangle "in"
  let w := join w x "value" rectangle "x"
  addKey (addKey w "ArrowLeft" (-20)) "ArrowRight" 20

/-! ## Telling -/

def rule (sign : Char) (width : Nat) : String :=
  String.ofList (List.replicate width sign)

/-- The program of a graph, or nothing if it cannot be compiled. -/
def programOf (w : Studio) (g : Graph) : String :=
  ((Compile.generate g w.settings.whileLimit.display).toOption).getD ""

/-- Tell of a graph and its program. -/
def tellCompile (s : Story) : Story :=
  let w := circles s.chance
  let s := (s.tell "=== Demo 1: Graph to Program ===").tell "Generated program:"
  ((s.tell (rule '-' 40)).tell (programOf w w.graph)).tell (rule '-' 40)

def circleLine : List Value → String
  | x :: y :: radius :: _ =>
    "  circle at (" ++ x.display ++ ", " ++ y.display ++ ") radius " ++ radius.display
  | _ => ""

def tellRun (s : Story) : Story :=
  let (r, session) := (circles s.chance).run
  let summary := match r with
    | .ok o => o.summary
    | .error _ => ""
  let drawn := session.machine.canvas.calls (.str "arc")
  let s := { s with chance := session.machine.chance }
  let s := (s.tell "\n=== Demo 2: Running the Program ===").tell ("Result: " ++ summary)
  let s := s.tell s!"Circles drawn: {drawn.length}"
  drawn.foldl (fun s c => s.tell (circleLine c)) s

/-- Press a key, run a frame and tell where the paddle is then. -/
def tellKey (t : Story × Session) (key : String) : Story × Session :=
  let (_, session) := t.2.press (.str key)
  let (_, session) := session.frames (.int 1)
  let x := match (session.machine.canvas.calls (.str "rect")).getLast? with
    | some (x :: _) => x.display
    | _ => ""
  (t.1.tell ("  after " ++ key ++ ": paddle drawn at x=" ++ x), session)

def tellGame (s : Story) : Story :=
  let (_, session) := (paddle s.chance).run
  let s := s.tell "\n=== Demo 3: Game Loop and Keys ==="
  let (s, session) := ["ArrowRight", "ArrowRight", "ArrowLeft"].foldl tellKey (s, session)
  let (_, session) := session.stop
  let host := session.machine.host
  { s with chance := session.machine.chance }.tell
    s!"Frames run: {host.framesRun}, pending after stop: {host.frames.length}"

/-- Tell of a workspace that is saved and loaded again. -/
def tellWorkspace (s : Story) : Story :=
  let w := circles s.chance
  let (_, saved) := w.save "circles"
  let (_, loaded) := saved.load (.single "circles.json")
  let same := programOf w loaded.graph == programOf w w.graph
  let s := s.tell "\n=== Demo 4: Workspaces ==="
  let s := s.tell s!"Saved {w.graph.nodes.length} nodes to circles.json"
  s.tell ("Reloaded program identical: " ++ (Value.bool same).display)

def tellAll (s : Story) : Story :=
  let s := (s.tell "NodeCanvas - Feature Demonstration").tell (rule '=' 50)
  let s := tellWorkspace (tellGame (tellRun (tellCompile s)))
  ["\n=== Demo Summary ===", "✓ Graph wiring and program generation",
    "✓ Program execution on the recording canvas", "✓ Game loop frames and key handlers",
    "✓ Workspace save and load", "\nAll demos completed successfully!"].foldl Story.tell s

end Sketchflow.Showcase
