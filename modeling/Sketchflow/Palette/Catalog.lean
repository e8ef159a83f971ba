import Sketchflow.Palette.Basic

/-!
# The standard catalog

The blueprints every palette starts with, in the order they are listed. `Palette.standard` is the
palette that holds them, `Palette.blank` has their categories only.
-/

namespace Sketchflow.Catalog

open Blueprint

def categories : List Category :=
  [{ name := "control", description := "Entry points, loops and branches", icon := "git-branch" },
    { name := "drawing", description := "Pen, shapes and text on the output canvas"
      icon := "pen-tool" },
    { name := "procedural", description := "Functions and sounds", icon := "function-square" },
    { name := "variables", description := "Named values in the variable store"
      icon := "database" },
    { name := "data", description := "Literals, inputs and operators", icon := "calculator" }]

/-- Entry points, loops and branches. -/
def control : List Blueprint :=
  [(make "start" "Start Flag" "control" "Program entry point.").flowOut "out" "Go",
    (make "gameLoop" "Game Loop" "control" "Actions connected here run on every frame.")
      |>.flowOut "tick" "On Every Frame",
    (make "whenKeyPressed" "When Key Pressed" "control"
        "Starts actions when a keyboard key is pressed.")
      |>.dataIn "key" "Key" .text (.str "space") |>.flowOut "out" "Do This",
    (make "repeat" "Repeat" "control" "Run the connected actions N times.")
      |>.thenIn |>.dataIn "count" "How Many Times?" .number (.int 3)
      |>.flowOut "body" "Repeat This" |>.flowOut "out" "After Repeating",
    (make "if" "If" "control" "Run one branch or the other.")
      |>.thenIn |>.dataIn "condition" "If True?" .boolean (.bool true)
      |>.flowOut "then" "Do This (If True)" |>.flowOut "else" "Do This (If False)"
      |>.flowOut "out" "After If",
    (make "while" "While" "control" "Keep running actions while a condition holds.")
      |>.thenIn |>.dataIn "condition" "Keep Going If True?" .boolean (.bool false)
      |>.flowOut "body" "Do This While True" |>.flowOut "out" "After Loop"]

/-- The two blueprints that change a position variable of an axis. -/
def position (axis : String) : List Blueprint :=
  [(make ("change" ++ axis ++ "By") ("Change " ++ axis ++ " by") "drawing"
        ("Add an amount to a " ++ axis ++ " position variable."))
      |>.thenIn
      |>.dataIn "variableName" ("Which " ++ axis ++ " Var?") .text (.str ("object" ++ axis))
      |>.dataIn "amount" "By How Much?" .number (.int 10) |>.thenOut,
    (make ("set" ++ axis ++ "To") ("Set " ++ axis ++ " to") "drawing"
        ("Place a " ++ axis ++ " position variable at a value."))
      |>.thenIn
      |>.dataIn "variableName" ("Which " ++ axis ++ " Var?") .text (.str ("object" ++ axis))
      |>.dataIn "value" "To What Spot?" .number (.int 0) |>.thenOut]

/-- Pen, shapes and text. -/
def drawing : List Blueprint :=
  [(make "moveTo" "Move Pen" "drawing" "Move the pen to (X, Y) without drawing.")
      |>.thenIn |>.dataIn "x" "X" .number (.int 50) |>.dataIn "y" "Y" .number (.int 50) |>.thenOut,
    (make "lineTo" "Draw Line" "drawing" "Draw a line from the pen to (X, Y).")
      |>.thenIn |>.dataIn "x" "To X" .number (.int 150) |>.dataIn "y" "To Y" .number (.int 150)
      |>.thenOut,
    (make "setColor" "Pen Color" "drawing" "Set stroke and fill color.")
      |>.thenIn |>.dataIn "color" "Color" .color (.str "#FF6347") |>.thenOut,
    (make "setPenWidth" "Pen Size" "drawing" "Set the line width.")
      |>.thenIn |>.dataIn "width" "Size" .number (.int 3) |>.thenOut,
    (make "drawCircle" "Draw Circle" "drawing" "Draw a circle.")
      |>.thenIn |>.dataIn "x" "Center X" .number (.int 100)
      |>.dataIn "y" "Center Y" .number (.int 100) |>.dataIn "radius" "Radius" .number (.int 25)
      |>.thenOut |>.prop "fill" (.bool true),
    (make "drawRectangle" "Draw Box" "drawing" "Draw a rectangle.")
      |>.thenIn |>.dataIn "x" "X" .number (.int 50) |>.dataIn "y" "Y" .number (.int 50)
      |>.dataIn "width" "Wide" .number (.int 50) |>.dataIn "height" "Tall" .number (.int 50)
      |>.thenOut |>.prop "fill" (.bool true),
    (make "clearCanvas" "Erase All" "drawing" "Clear the whole output canvas.")
      |>.thenIn |>.thenOut,
    (make "drawText" "Write Text" "drawing" "Write text on the canvas.")
      |>.thenIn |>.dataIn "text" "Words" .text (.str "Hello!") |>.dataIn "x" "X" .number (.int 10)
      |>.dataIn "y" "Y" .number (.int 20) |>.dataIn "color" "Color" .color (.str "#333333")
      |>.dataIn "font" "Font Style" .text (.str "16px Arial") |>.thenOut,
    (make "say" "Say Bubble" "drawing" "Draw text just above a point.")
      |>.thenIn |>.dataIn "message" "Words to Say" .text (.str "Hi!")
      |>.dataIn "targetX" "Near X" .number (.int 100)
      |>.dataIn "targetY" "Near Y" .number (.int 100) |>.thenOut]
    ++ position "X" ++ position "Y"

/-- Functions and sounds. -/
def procedural : List Blueprint :=
  [(make "function" "Define Function" "procedural" "Group actions into a reusable function.")
      |>.thenIn |>.dataIn "name" "Function Name" .text (.str "myFunction")
      |>.flowOut "body" "Function Steps" |>.flowOut "out" "Next",
    (make "callFunction" "Call Function" "procedural" "Run a defined function.")
      |>.thenIn |>.dataIn "name" "Which Function?" .text (.str "myFunction") |>.thenOut,
    (make "playSound" "Play Sound" "procedural"
        "Play a sound such as \"click\", \"boop\" or \"laser\".")
      |>.thenIn |>.dataIn "soundName" "Sound Name" .text (.str "click") |>.thenOut]

/-- Named values. -/
def variableBlueprints : List Blueprint :=
  [(make "setVariable" "Set Variable" "variables" "Store a value under a name.")
      |>.thenIn |>.dataIn "name" "Variable Name" .text (.str "score")
      |>.dataIn "value" "Value" .expression (.str "0") |>.thenOut,
    (make "getVariable" "Get Variable" "variables" "Read a stored value.")
      |>.dataIn "name" "Variable Name" .text (.str "score") |>.dataOut "value" "Value" .any]

def operator (type title result : String) (names : String × String) (operand out : DataType)
    (a b : Value) : Blueprint :=
  (make type title "data" "")
    |>.dataIn "a" names.1 operand a |>.dataIn "b" names.2 operand b
    |>.dataOut "result" result out |>.tag "operator"

/-- An operator on numbers. -/
def arithmetic (type title result : String) (a b : Int) : Blueprint :=
  operator type title result ("Num 1", "Num 2") .number .number (.int a) (.int b)

def comparison (type title result : String) (a b : Int) : Blueprint :=
  operator type title result ("Val A", "Val B") .any .boolean (.int a) (.int b)

/-- An operator on truth values. -/
def logical (type title result : String) (default : Bool) : Blueprint :=
  operator type title result ("Bool A", "Bool B") .boolean .boolean (.bool default) (.bool default)

/-- Literals, inputs and operators. -/
def data : List Blueprint :=
  [(make "number" "Number" "data" "A literal number.")
      |>.dataIn "value" "Value" .number (.int 10) |>.dataOut "value" "Number" .number
      |>.prop "value" (.int 10),
    (make "string" "Text" "data" "A literal text string.")
      |>.dataIn "value" "Text" .text (.str "Hello!") |>.dataOut "value" "Text Out" .text
      |>.prop "value" (.str "Hello!"),
    (make "color" "Color" "data" "A literal color.")
      |>.dataIn "value" "Color" .color (.str "#1E90FF") |>.dataOut "value" "Color Out" .color
      |>.prop "value" (.str "#1E90FF"),
    (make "randomNumber" "Random Number" "data" "A random whole number between Min and Max.")
      |>.dataIn "min" "Min" .number (.int 1) |>.dataIn "max" "Max" .number (.int 100)
      |>.dataOut "value" "Random #" .number |>.prop "min" (.int 1) |>.prop "max" (.int 100),
    (make "getMouseX" "Mouse X" "data" "Pointer X position on the output canvas.")
      |>.dataOut "x" "Mouse X" .number,
    (make "getMouseY" "Mouse Y" "data" "Pointer Y position on the output canvas.")
      |>.dataOut "y" "Mouse Y" .number,
    (make "isKeyPressed" "Key Is Down?" "data" "Is a key held down right now?")
      |>.dataIn "key" "Key" .text (.str "space") |>.dataOut "result" "Is Down" .boolean,
    arithmetic "add" "Add (+)" "Sum (+)" 0 0,
    arithmetic "subtract" "Subtract (-)" "Difference (-)" 0 0,
    arithmetic "multiply" "Multiply (*)" "Product (*)" 1 1,
    arithmetic "divide" "Divide (/)" "Quotient (/)" 0 1,
    comparison "lessThan" "Less Than (<)" "Is A < B" 0 50,
    comparison "equalTo" "Equal To (=)" "Is A = B" 0 0,
    comparison "greaterThan" "Greater Than (>)" "Is A > B" 50 0,
    logical "and" "And" "A and B" true,
    logical "or" "Or" "A or B" false,
    (make "not" "Not" "data" "")
      |>.dataIn "a" "Boolean" .boolean (.bool false) |>.dataOut "result" "Not A" .boolean
      |>.tag "operator"]

def blueprints : List Blueprint :=
  control ++ drawing ++ procedural ++ variableBlueprints ++ data

end Catalog

namespace Palette

/-- The standard categories without blueprints. -/
def blank : Palette :=
  { categories := Catalog.categories }

/-- Register blueprints one after the other. On a fault the rest is left out. -/
def registerAll (p : Palette) : List Blueprint → Palette × Except NotListed Unit
  | [] => (p, .ok ())
  | b :: rest =>
    match p.register b with
    | .ok p => registerAll p rest
    | .error f => (p, .error f)

def loadStandard (p : Palette) : Palette × Except NotListed Unit :=
  if p.standardLoaded then (p, .ok ())
  else registerAll { p with standardLoaded := true } Catalog.blueprints

def standard : Palette :=
  (loadStandard blank).1

end Palette

end Sketchflow
