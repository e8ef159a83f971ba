import Sketchflow.Node
import Sketchflow.Wire

/-!
# Graphs

A graph has nodes, wires between their ports, and the number its next node will get. Look-ups take
loose values, so that a node is found by any value equal to its number.
-/

namespace Sketchflow

/-- Why two ports cannot be joined. -/
inductive Refusal where
  | noNode (id : Value)
  | noOutput (node port : Value)
  | noInput (node port : Value)
  /-- A flow wire from a node to itself. -/
  | selfFlow (node : Value)
  | kinds (out input : PortKind)
  | types (out input : DataType)
  | duplicate

/-- The reason in words, with numbers of any length. -/
def Refusal.message : Refusal → String
  | .noNode id => "node " ++ id.display ++ " does not exist"
  | .noOutput node port => "node " ++ node.display ++ " has no output port " ++ port.show
  | .noInput node port => "node " ++ node.display ++ " has no input port " ++ port.show
  | .selfFlow node => "exec self-loop on node " ++ node.display
  | .kinds out input =>
    "port type mismatch (" ++ out.toDoc.display ++ " -> " ++ input.toDoc.display ++ ")"
  | .types out input =>
    "data type mismatch (" ++ out.toDoc.display ++ " -> " ++ input.toDoc.display ++ ")"
  | .duplicate => "duplicate connection"

/-- Nodes and wires. -/
structure Graph where
  nodes : List Node := []
  wires : List Wire := []
  nextId : Int := 1
  /-- Why the last attempt to join two ports was refused, if it was. -/
  refusal : Option Refusal := none
  deriving Inhabited

namespace Graph

def node? (g : Graph) (id : Value) : Option Node :=
  g.nodes.find? fun n => id.hasId n.id

def nodesOfType (g : Graph) (type : String) : List Node :=
  g.nodes.filter fun n => n.type == type

def wire? (g : Graph) (id : Value) : Option Wire :=
  g.wires.find? fun w => w.hasId id

def wiresAt (g : Graph) (node : Value) : List Wire :=
  g.wires.filter fun w => w.touches node

def wireInto? (g : Graph) (node port : Value) : Option Wire :=
  g.wires.find? fun w => w.enters node port

/-- The first flow wire out of an output. -/
def flowFrom? (g : Graph) (node port : Value) : Option Wire :=
  g.wires.find? fun w => w.leaves node port && w.isFlow

def toDoc (g : Graph) : Value :=
  .object [("nodes", .list (g.nodes.map Node.toDoc)),
    ("connections", .list (g.wires.map Wire.toDoc)), ("nextNodeId", .int g.nextId)]

def empty : Graph := {}

end Graph

end Sketchflow
