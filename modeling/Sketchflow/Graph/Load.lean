import Sketchflow.Graph.Edit

/-!
# Loading graphs

A document of any shape can be loaded. What is well formed and still fits the palette is kept, and
every entry that is not kept gives a warning.

* A node keeps its identifier, position and properties, and the defaults of those inputs that its
  blueprint still has; everything else comes from the blueprint (`migrate`).
* A wire is kept if its ends are kept and it could be made now.
-/

namespace Sketchflow.Graph

/-- Something that was not kept. -/
inductive Warning where
  /-- The document is no object. -/
  | payload (kind : String)
  | noList (field kind : String)
  | badNode (m : Malformed)
  | sameNode (id : Int)
  | unknownNode (id : Int) (type : String)
  | badWire (m : Malformed)
  | looseWire (id : String)
  | refusedWire (id : String) (r : Refusal)
  | crowdedInput (id : String) (node : Int) (port : String)

def Warning.message : Warning → String
  | .payload kind => "Ignoring malformed graph payload of type " ++ kind
  | .noList field kind => "Ignoring " ++ Text.quote field ++ ": expected a list, got " ++ kind
  | .badNode m => "Skipping node entry: " ++ m.message
  | .sameNode id => s!"Skipping node entry with duplicate id {id}"
  | .unknownNode id type => s!"Dropping node {id} of unknown type " ++ Text.quote type
  | .badWire m => "Skipping connection entry: " ++ m.message
  | .looseWire id => s!"Dropping connection {id} with a missing endpoint"
  | .refusedWire id r => s!"Dropping connection {id}: " ++ r.message
  | .crowdedInput id node port =>
    s!"Dropping connection {id}: input {node}.{port} is already connected"

def entries (fields : Fields) (name : String) : List Value × List Warning :=
  match fields.getD name .null with
  | .null => ([], [])
  | .list items => (items, [])
  | v => ([], [.noList name v.kindName])

/-- A port that takes over a saved default. -/
def keepDefault (saved : Node) (p : Port) : Port :=
  match saved.input? p.id with
  | some old => if old.default.isNull then p else { p with default := old.default }
  | none => p

/-- A saved node brought up to date with its blueprint. -/
def migrate (b : Blueprint) (saved : Node) : Node :=
  let n := instantiate b saved.id saved.type saved.x saved.y
  seed { n with
    inputs := n.inputs.map (keepDefault saved)
    properties := n.properties.update saved.properties }

def loadNode (p : Palette) (entry : Value) (g : Graph) : Except Warning Graph :=
  match Node.ofDoc entry with
  | .error m => .error (.badNode m)
  | .ok saved =>
    if (g.node? (.int saved.id)).isSome then .error (.sameNode saved.id)
    else match p.find? saved.type with
      | none => .error (.unknownNode saved.id saved.type)
      | some b => .ok { g with nodes := g.nodes ++ [migrate b saved] }

def loadWire (entry : Value) (g : Graph) : Except Warning Graph :=
  match Wire.ofDoc entry with
  | .error m => .error (.badWire m)
  | .ok w =>
    let fromNode := Value.int w.fromNode
    let toNode := Value.int w.toNode
    if (g.node? fromNode).isNone || (g.node? toNode).isNone then .error (.looseWire w.id.display)
    else match g.check fromNode (.str w.fromPort) toNode (.str w.toPort) with
      | .error r => .error (.refusedWire w.id.display r)
      | .ok (out, input) =>
        if (g.wireInto? toNode (.str w.toPort)).isSome then
          .error (.crowdedInput w.id.display w.toNode w.toPort)
        else .ok { g with wires := g.wires ++ [mark w out input] }

/-- Load entries one after the other; those that cannot be loaded give warnings. -/
def loadAll (load : Value → Graph → Except Warning Graph) :
    List Value → Graph → Graph × List Warning
  | [], g => (g, [])
  | entry :: rest, g =>
    match load entry g with
    | .ok g => loadAll load rest g
    | .error w =>
      let (g, ws) := loadAll load rest g
      (g, w :: ws)

/-- One more than the largest number of a node, or one. -/
def floorId (nodes : List Node) : Int :=
  match nodes with
  | [] => 1
  | n :: rest => rest.foldl (fun m n => max m n.id) n.id + 1

/-- The number of the next node: the saved one unless it is taken. -/
def nextIdOf (fields : Fields) (nodes : List Node) : Int :=
  match fields.getD "nextNodeId" .null with
  | .int saved => max saved (floorId nodes)
  | _ => floorId nodes

/-- The graph of a document, and what was not kept. -/
def load (p : Palette) (doc : Value) : Graph × List Warning :=
  match doc with
  | .null => (empty, [])
  | .object fields =>
    let (nodeEntries, w1) := entries fields "nodes"
    let (g, w2) := loadAll (loadNode p) nodeEntries empty
    let (wireEntries, w3) := entries fields "connections"
    let (g, w4) := loadAll loadWire wireEntries g
    ({ g with nextId := nextIdOf fields g.nodes }, w1 ++ w2 ++ w3 ++ w4)
  | v => (empty, [.payload v.kindName])

end Sketchflow.Graph
