import Sketchflow.Port

/-!
# Nodes

A node is one placed step or value of a graph: a type, a position, ports and properties.

`Node.toDoc` and `Node.ofDoc` write and read the document of a node. Saved ports carry little
more than their defaults, so malformed port entries are left out without complaint.
-/

namespace Sketchflow

structure Node where
  id : Int
  type : String
  x : Value := .float 0.0
  y : Value := .float 0.0
  inputs : List Port := []
  outputs : List Port := []
  properties : Fields := []
  deriving Inhabited

namespace Node

def input? (n : Node) (id : String) : Option Port :=
  Port.find? n.inputs id

def output? (n : Node) (id : String) : Option Port :=
  Port.find? n.outputs id

def dataInputs (n : Node) : List Port :=
  n.inputs.filter fun p => p.kind.isData

def property (n : Node) (key : String) : Value :=
  n.properties.getD key .null

def toDoc (n : Node) : Value :=
  .object [("id", .int n.id), ("type", .str n.type), ("x", n.x), ("y", n.y),
    ("inputs", .list (n.inputs.map Port.toDoc)), ("outputs", .list (n.outputs.map Port.toDoc)),
    ("properties", .object n.properties)]

/-- The node a list of fields describes, given its identifier and type. -/
def ofFields (id : Int) (type : String) (fields : Fields) : Node where
  id := id
  type := type
  x := fields.getD "x" (.float 0.0)
  y := fields.getD "y" (.float 0.0)
  inputs := Port.listOfDoc (fields.getD "inputs" .null)
  outputs := Port.listOfDoc (fields.getD "outputs" .null)
  properties := match fields.getD "properties" .null with
    | .object properties => properties
    | _ => []

/-- The node a document describes. -/
def ofDoc (doc : Value) : Except Malformed Node :=
  match doc with
  | .object fields =>
    match Fields.get? fields "id" with
    | some (.int id) =>
      if id < 1 then .error (.nodeId doc)
      else match Fields.get? fields "type" with
        | some (.str type) => .ok (ofFields id type fields)
        | _ => .error (.nodeType id)
    | _ => .error (.nodeId doc)
  | _ => .error (.node doc)

end Node

end Sketchflow
