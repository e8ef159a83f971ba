import Sketchflow.Graph.Basic
import Sketchflow.Json.Writer
import Sketchflow.Palette.Basic

/-!
# Editing graphs

* `create` places a node of a registered type, `remove` takes one away with its wires.
* `move`, `setProperty`, `setDefault` change one node; the literal types keep their `value` input
  and their `value` property in step.
* `connect` joins an output to an input and takes away what entered that input before. `check` says
  which two ports can be joined.
-/

namespace Sketchflow.Graph

/-! ## Nodes -/

/-- The types whose literal is the property `value`. -/
def literalTypes : List String := ["number", "string", "color"]

def isLiteral (type : String) : Bool :=
  literalTypes.contains type

/-- The type of the random source, whose bounds are properties too. -/
def randomType : String := "randomNumber"

def setMissing (name : String) (v : Value) (fields : Fields) : Fields :=
  if fields.has name then fields else Fields.set name v fields

/-- Fill in the properties in which literals and random sources keep what their inputs hold. -/
def seed (n : Node) : Node :=
  if isLiteral n.type && !n.properties.has "value" then
    match n.input? "value" with
    | some p => { n with properties := Fields.set "value" p.default n.properties }
    | none => n
  else if n.type == randomType then
    { n with
      properties := setMissing "max" (.int 100) (setMissing "min" (.int 1) n.properties) }
  else n

/-- A node of a blueprint before its properties are filled in. -/
def instantiate (b : Blueprint) (id : Int) (type : String) (x y : Value) : Node :=
  { id, type, x, y, inputs := b.inputs, outputs := b.outputs, properties := b.properties }

structure UnknownType where
  type : Value

def UnknownType.message (u : UnknownType) : String :=
  "Unknown node type: " ++ u.type.show

/-- Place a node of a registered type. -/
def create (g : Graph) (p : Palette) (type : String) (x y : Value) :
    Except UnknownType (Node × Graph) :=
  match p.find? type with
  | none => .error ⟨.str type⟩
  | some b =>
    let n := seed (instantiate b g.nextId type x y)
    .ok (n, { g with nodes := g.nodes ++ [n], nextId := g.nextId + 1 })

/-- Why no node is placed. -/
inductive NotCreated where
  | unknown (u : UnknownType)
  /-- What should be a type can be none. -/
  | fault (f : Fault)

/-- Place a node of the type that a value is. -/
def createBy (g : Graph) (p : Palette) (type x y : Value) : Except NotCreated (Node × Graph) :=
  match type.asName with
  | .error f => .error (.fault f)
  | .ok none => .error (.unknown ⟨type⟩)
  | .ok (some name) =>
    match g.create p name x y with
    | .ok r => .ok r
    | .error u => .error (.unknown u)

/-- Change the node a value names. The flag tells whether there is one. -/
def updateNode (g : Graph) (id : Value) (f : Node → Node) : Bool × Graph :=
  match g.node? id with
  | none => (false, g)
  | some _ => (true, { g with nodes := go g.nodes })
where
  /-- Change the first node that is named. -/
  go : List Node → List Node
    | [] => []
    | n :: rest => if id.hasId n.id then f n :: rest else n :: go rest

/-- Take away a node and all wires at it. -/
def remove (g : Graph) (id : Value) : Bool × Graph :=
  match g.node? id with
  | none => (false, g)
  | some _ =>
    (true, { g with
      nodes := g.nodes.eraseP fun n => id.hasId n.id
      wires := g.wires.filter fun w => !w.touches id })

def move (g : Graph) (id x y : Value) : Bool × Graph :=
  g.updateNode id fun n => { n with x, y }

def setProperty (g : Graph) (id : Value) (key : String) (v : Value) : Bool × Graph :=
  g.updateNode id fun n => { n with properties := Fields.set key v n.properties }

/-- Set a property of a node under a key of any kind, which is kept as documents write it. So keys
that are written alike are one key. -/
def setPropertyBy (g : Graph) (id key v : Value) : Except Fault (Bool × Graph) := do
  if (g.node? id).isSome then
    key.checkKey
    .ok (g.setProperty id ((Json.fieldName? key).getD key.show) v)
  else .ok (false, g)

/-- Change the default of the first port with this identifier. -/
def setPortDefault (port : Value) (v : Value) : List Port → List Port
  | [] => []
  | p :: rest =>
    if port.isText p.id then { p with default := v } :: rest else p :: setPortDefault port v rest

/-- Whether the default of this input is kept as a property as well. -/
def isKeptAsProperty (type : String) (port : Value) : Bool :=
  (isLiteral type && port.isText "value")
    || (type == randomType && (port.isText "min" || port.isText "max"))

/-- A node with another default at an input it has. -/
def withDefault (port v : Value) (n : Node) : Node :=
  { n with
    inputs := setPortDefault port v n.inputs
    properties :=
      if isKeptAsProperty n.type port then Fields.set port.display v n.properties
      else n.properties }

/-- Set the default of an input of a node. The flag tells whether there is such an input. -/
def setDefault (g : Graph) (id port v : Value) : Bool × Graph :=
  match (g.node? id).bind fun n => Port.findValue? n.inputs port with
  | none => (false, g)
  | some _ => g.updateNode id (withDefault port v)

/-! ## Wires -/

/-- The two ports that can be joined, or why they cannot. -/
def check (g : Graph) (fromNode fromPort toNode toPort : Value) : Except Refusal (Port × Port) :=
  match g.node? fromNode, g.node? toNode with
  | none, _ => .error (.noNode fromNode)
  | _, none => .error (.noNode toNode)
  | some source, some target =>
    match Port.findValue? source.outputs fromPort, Port.findValue? target.inputs toPort with
    | none, _ => .error (.noOutput fromNode fromPort)
    | _, none => .error (.noInput toNode toPort)
    | some out, some input =>
      if fromNode.same toNode && out.isFlow then .error (.selfFlow fromNode)
      else if !out.kind.same input.kind then .error (.kinds out.kind input.kind)
      else if !out.accepts input then .error (.types out.dataType input.dataType)
      else .ok (out, input)

/-- A wire marked with the kinds, and if values pass also the types, of the ports it joins. -/
def mark (w : Wire) (out input : Port) : Wire :=
  { w with
    fromKind := out.kind
    toKind := input.kind
    fromType := if out.kind.isData then out.dataType.toDoc else .null
    toType := if out.kind.isData then input.dataType.toDoc else .null }

/-- The identifier of a new wire; `tag` makes it unlike all others. Numbers may have any length. -/
def wireId (fromNode fromPort toNode toPort : Value) (tag : String) : String :=
  Text.joinWith "_" ["conn", fromNode.display, fromPort.display, toNode.display, toPort.display,
    tag]

/-- How an attempt to join two ports ended. -/
inductive Joined where
  | joined (w : Wire)
  | refused (r : Refusal)
  /-- The ends are not integers and texts. -/
  | malformed (m : Malformed)

/-- Whether the attempt came so far as to use up a tag. -/
def Joined.usedTag : Joined → Bool
  | .refused _ => false
  | _ => true

/-- Join an output to an input. What entered the input before is taken away. -/
def connect (g : Graph) (tag : String) (fromNode fromPort toNode toPort : Value) :
    Joined × Graph :=
  match g.check fromNode fromPort toNode toPort with
  | .error r => (.refused r, { g with refusal := some r })
  | .ok (out, input) =>
    let g := { g with
      wires := g.wires.filter fun w => !w.enters toNode toPort
      refusal := none }
    if g.wires.any fun w => w.leaves fromNode fromPort && w.enters toNode toPort then
      (.refused .duplicate, { g with refusal := some .duplicate })
    else
      let id := wireId fromNode fromPort toNode toPort tag
      match Wire.join (.str id) fromNode fromPort toNode toPort .flow .flow .null .null with
      | .error m => (.malformed m, g)
      | .ok w =>
        let w := mark w out input
        (.joined w, { g with wires := g.wires ++ [w] })

/-- Take away the wires with this identifier. The flag tells whether there was one. -/
def disconnect (g : Graph) (id : Value) : Bool × Graph :=
  let wires := g.wires.filter fun w => !w.hasId id
  (wires.length != g.wires.length, { g with wires })

end Sketchflow.Graph
