import Sketchflow.Canvas
import Sketchflow.Host.Dispatch
import Sketchflow.Script.Parser

/-!
# The machine

What a running program works on: the canvas, the host, its tables, its names and its definitions.

* `Entries` are the entries of a table in the order of their keys' first appearance.
* `Scope` tells which names belong to the function at hand and which to the program around it.
* `Machine.cleared` is the machine that a program starts on. Of the program before it some values
  may be left, without its functions (`Value.retired`).
-/

namespace Sketchflow

/-! ## What outlasts a program -/

/-- A handle when the program at hand is gone, and its functions with it. -/
def Handle.retired : Handle → Handle
  | .function index => .thing (Handle.function index).kindName
  | .method owner name => .method owner.retired name
  | h => h

namespace Value

mutual

/-- A value when the program at hand is gone, and its functions with it. -/
def retired : Value → Value
  | .list items => .list (retiredItems items)
  | .tuple items => .tuple (retiredItems items)
  | .object fields => .object (retiredFields fields)
  | .handle h => .handle h.retired
  | v => v
termination_by structural v => v

def retiredItems : List Value → List Value
  | [] => []
  | v :: rest => retired v :: retiredItems rest
termination_by structural items => items

/-- The same for the members of an object. -/
def retiredFields : List (String × Value) → List (String × Value)
  | [] => []
  | (name, v) :: rest => (name, retired v) :: retiredFields rest
termination_by structural fields => fields

end

mutual

def lastMark : Value → Nat
  | .nan mark => mark
  | .list items => lastMarkOf items
  | .tuple items => lastMarkOf items
  | .object fields => lastMarkIn fields
  | _ => 0
termination_by structural v => v

def lastMarkOf : List Value → Nat
  | [] => 0
  | v :: rest => max (lastMark v) (lastMarkOf rest)
termination_by structural items => items

/-- The last of the marks in the members of an object. -/
def lastMarkIn : List (String × Value) → Nat
  | [] => 0
  | (_, v) :: rest => max (lastMark v) (lastMarkIn rest)
termination_by structural fields => fields

end

end Value

namespace Script

/-! ## Tables, functions and chance -/

abbrev Entries := List (Value × Value)

namespace Entries

/-- Whether two keys are one: equal, or the same not-a-number. -/
def isKey (a b : Value) : Bool :=
  a.isItself b || a.same b

def value? (entries : Entries) (key : Value) : Option Value :=
  (List.find? (fun e => isKey e.1 key) entries).map (·.2)

def hasKey (entries : Entries) (key : Value) : Bool :=
  List.any entries fun e => isKey e.1 key

def put (key value : Value) : Entries → Entries
  | [] => [(key, value)]
  | e :: rest => if isKey e.1 key then (e.1, value) :: rest else e :: put key value rest

end Entries

/-- The names of a function: its own, and if it stands in a program the program's. -/
structure Scope where
  own : List String
  around : Option (List String) := none
  deriving Inhabited

/-- A function with the defaults of its parameters. -/
structure Closure where
  name : String
  parameters : List (String × Option Value)
  body : List Stmt
  scope : Scope
  deriving Inhabited

/-- The numbers that programs draw at random: a list, used in order and over again. -/
structure Chance where
  values : List Float := [0.5]
  next : Nat := 0

def Chance.draw (c : Chance) : Float × Chance :=
  ((c.values[c.next]?).getD 0.5,
    { c with next := if c.next + 1 < c.values.length then c.next + 1 else 0 })

/-- What a running program works on. -/
structure Machine where
  canvas : Canvas := {}
  host : Host := {}
  vars : Entries := []
  functions : Entries := []
  controls : Entries := []
  /-- The state of the frame loop. -/
  loop : Entries := []
  names : Fields := []
  /-- The names of the function at hand. -/
  locals : Fields := []
  closures : Array Closure := #[]
  output : Trail String := {}
  chance : Chance := {}
  nextMark : Nat := 1

namespace Machine

def table (m : Machine) : Table → Entries
  | .vars => m.vars
  | .functions => m.functions
  | .controls => m.controls
  | .loop => m.loop

def setTable (m : Machine) (t : Table) (entries : Entries) : Machine :=
  match t with
  | .vars => { m with vars := entries }
  | .functions => { m with functions := entries }
  | .controls => { m with controls := entries }
  | .loop => { m with loop := entries }

/-- How many tables can stand inside each other before one stands inside itself. -/
def tableBound : Nat := 5

/-- A table as text. A table inside itself is cut short; `inside` are the tables around, and the
bound is on how many there are. -/
def showTable (m : Machine) : Nat → List Table → Table → String
  | 0, _, _ => "\x7b...\x7d"
  | bound + 1, inside, t =>
    if inside.contains t then "\x7b...\x7d"
    else
      let write := Value.showWith (showTable m bound (t :: inside))
      "\x7b" ++ Text.joinWith ", " ((m.table t).map fun e => write e.1 ++ ": " ++ write e.2)
        ++ "\x7d"

/-- Whether an integer that is too long to write stands in a table. -/
def longTable (m : Machine) : Nat → List Table → Table → Bool
  | 0, _, _ => false
  | bound + 1, inside, t =>
    !inside.contains t && (m.table t).any fun e =>
      let long := Value.hasLongWith (longTable m bound (t :: inside))
      long e.1 || long e.2

/-- A value as it stands in a container, its tables written out. -/
def showValue (m : Machine) (v : Value) : Except Fault String :=
  if v.hasLongWith (m.longTable tableBound []) then .error .longInteger
  else .ok (v.showWith (m.showTable tableBound []))

/-- The text of a value, its tables written out. -/
def textOf (m : Machine) (v : Value) : Except Fault String :=
  match v with
  | .str s => .ok s
  | v => m.showValue v

/-- Whether two values are equal, tables by what they hold. The bound is on tables inside each
other. -/
def sameValue (m : Machine) : Nat → Value → Value → Bool
  | bound + 1, .handle (.table t), .handle (.table u) =>
    t == u || ((m.table t).length == (m.table u).length && (m.table t).all fun e =>
      match Entries.value? (m.table u) e.1 with
      | some v => e.2.isItself v || sameValue m bound e.2 v
      | none => false)
  | _, a, b => a.same b

def place : Host.Place Machine where
  get := host
  set h m := { m with host := h }

/-- The host before a program. A function of the program before it that became a position of the
pointer cannot be called any more. -/
def clearedHost (m : Machine) : Host :=
  { m.host.reset with mouseX := m.host.mouseX.retired, mouseY := m.host.mouseY.retired }

/-- The values that outlast a program. -/
def lasting (m : Machine) : List Value :=
  [m.host.mouseX, m.host.mouseY, m.canvas.width, m.canvas.height] ++ m.canvas.notes.map (·.2)

/-- The machine before a program: what belongs to programs is gone, and the canvas and the host
are as they were at first, but for what outlasts a program. Marks start over, after those that are
left. -/
def cleared (m : Machine) : Machine :=
  { canvas := m.canvas.reset, host := m.clearedHost, chance := m.chance
    nextMark := Value.lastMarkOf m.lasting + 1 }

def printed (m : Machine) : String :=
  String.join m.output.toList

end Machine

/-- A computation of a program. A fault keeps what was done before it. -/
abbrev Eval := EStateM Fault Machine

abbrev Call := Value → List Value → Eval Value

/-- The table that a program makes under a name. -/
def tableNamed? (name : String) : Option Table :=
  match name with
  | "functions" => some .functions
  | "controls" => some .controls
  | "tick_state" => some .loop
  | _ => none

/-- A computed value; a not-a-number gets a mark of its own. -/
def settle (v : Value) : Eval Value :=
  match v with
  | .float x =>
    if x.isNaN then
      modifyGet fun m => (.nan m.nextMark, { m with nextMark := m.nextMark + 1 })
    else return v
  | v => return v

/-- Stop with the fault of a failed computation. -/
def fromExcept {α : Type} (x : Except Fault α) : Eval α :=
  Host.lift x

end Script

end Sketchflow
