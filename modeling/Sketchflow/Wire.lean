import Sketchflow.Port
import Sketchflow.Signature

/-!
# Wires

A wire leads from an output port to an input port. It carries the kinds of its two ports, and on
data wires their types.

* `Wire.join` builds a wire from loose values: the ends have to be integers and texts.
* `Wire.ofArguments` does so from a list of arguments.
* `Wire.toDoc`, `Wire.ofDoc` write and read the document of a wire.
-/

namespace Sketchflow

/-- A wire. Null as a data type means that there is none. Wires that are made by joining ports or
by loading a document have a text as their identifier. -/
structure Wire where
  id : Value
  fromNode : Int
  fromPort : String
  toNode : Int
  toPort : String
  fromKind : PortKind := .flow
  toKind : PortKind := .flow
  fromType : Value := .null
  toType : Value := .null
  deriving Inhabited

namespace Wire

def hasId (w : Wire) (id : Value) : Bool :=
  w.id.same id

/-- Whether the wire orders steps. -/
def isFlow (w : Wire) : Bool := w.fromKind.isFlow

/-- Whether one end is at the node a value names. -/
def touches (w : Wire) (node : Value) : Bool :=
  node.hasId w.fromNode || node.hasId w.toNode

def enters (w : Wire) (node port : Value) : Bool :=
  node.hasId w.toNode && port.isText w.toPort

def leaves (w : Wire) (node port : Value) : Bool :=
  node.hasId w.fromNode && port.isText w.fromPort

/-- The first of two ends that is no integer. -/
def badNode? : List Value → Option Value
  | [] => none
  | .int _ :: rest => badNode? rest
  | v :: _ => some v

/-- The first of two ports whose name is no text. -/
def badPort? : List Value → Option Value
  | [] => none
  | .str _ :: rest => badPort? rest
  | v :: _ => some v

/-- A wire with the given ends. -/
def join (id : Value) (fromNode fromPort toNode toPort : Value) (fromKind toKind : PortKind)
    (fromType toType : Value) : Except Malformed Wire :=
  match fromNode, toNode, fromPort, toPort with
  | .int fromNode, .int toNode, .str fromPort, .str toPort =>
    .ok { id, fromNode, fromPort, toNode, toPort, fromKind, toKind, fromType, toType }
  | _, _, _, _ =>
    match badNode? [fromNode, toNode] with
    | some target => .error (.wireNode id.display target)
    | none => .error (.wirePort id.display ((badPort? [fromPort, toPort]).getD .null))

def toDoc (w : Wire) : Value :=
  .object <| [("id", w.id), ("fromNode", .int w.fromNode), ("fromPort", .str w.fromPort),
    ("fromPortType", w.fromKind.toDoc), ("toNode", .int w.toNode), ("toPort", .str w.toPort),
    ("toPortType", w.toKind.toDoc)]
    ++ (if w.fromType.isNull then [] else [("fromDataType", w.fromType)])
    ++ (if w.toType.isNull then [] else [("toDataType", w.toType)])

/-- A necessary field. -/
def field (fields : Fields) (name : String) : Except Malformed Value :=
  match fields.get? name with
  | some v => .ok v
  | none => .error (.wireField name)

/-- The wire a list of fields describes. -/
def ofFields (fields : Fields) : Except Malformed Wire := do
  let id ← field fields "id"
  let fromNode ← field fields "fromNode"
  let fromPort ← field fields "fromPort"
  let toNode ← field fields "toNode"
  let toPort ← field fields "toPort"
  let fromKind := fields.getD "fromPortType" (.str "exec")
  let toKind := fields.getD "toPortType" fromKind
  join (.str id.display) fromNode fromPort toNode toPort (.ofDoc fromKind) (.ofDoc toKind)
    (fields.getD "fromDataType" .null) (fields.getD "toDataType" .null)

/-- The wire a document describes. -/
def ofDoc (doc : Value) : Except Malformed Wire :=
  match doc with
  | .object fields => ofFields fields
  | _ => .error (.wire doc)

/-- The arguments that a wire is made of. -/
def signature : Signature :=
  { owner := "Connection", name := "__init__", optional := 4
    parameters := ["id", "from_node", "from_port", "to_node", "to_port", "from_port_type",
      "to_port_type", "from_data_type", "to_data_type"] }

/-- Why arguments make no wire. -/
inductive Unmade where
  /-- They are too few or too many. -/
  | count (f : Fault)
  | malformed (m : Malformed)

def ofArguments (arguments : List Value) : Except Unmade Wire :=
  let get (i : Nat) (default : Value) : Value := (arguments[i]?).getD default
  let flow : Value := .str "exec"
  match signature.check arguments.length with
  | .error f => .error (.count f)
  | .ok _ =>
    match join (get 0 .null) (get 1 .null) (get 2 .null) (get 3 .null) (get 4 .null)
        (.ofDoc (get 5 flow)) (.ofDoc (get 6 flow)) (get 7 .null) (get 8 .null) with
    | .ok w => .ok w
    | .error m => .error (.malformed m)

end Wire

end Sketchflow
