import Sketchflow.Api.Answer
import Sketchflow.Api.Request

/-!
# Editing over the network

The requests that read and change the palette and the graph. An edit is checked as a whole before
any part of it is made.
-/

namespace Sketchflow.Api

/-- The types of nodes, by category or by a search. -/
def nodeTypes (w : Studio) (r : Request) : Outgoing :=
  let query := Text.strip ((r.query? "q").getD "")
  let data := if query == "" then Value.object w.palette.toFields
    else .list ((w.palette.search query 50).map (·.toDoc))
  (done 200 data, w)

def readGraph (w : Studio) : Outgoing :=
  (done 200 w.graph.toDoc, w)

def replaceGraph (w : Studio) (b : Body) : Outgoing :=
  let (w, warnings) := w.loadDoc b.document
  let (a, w) := edited w 200 "graph_replaced" [] w.graph.toDoc
  ({ a with warnings }, w)

def addNode (w : Studio) (b : Body) : Outgoing :=
  match b.fields? with
  | none => (refuse 400 objectMessage, w)
  | some fields =>
    match Fields.get? fields "type" with
    | some (.str type) =>
      let x := Fields.getD fields "x" (.int 0)
      let y := Fields.getD fields "y" (.int 0)
      if x.isNumber && y.isNumber then
        match w.graph.create w.palette type x y with
        | .error u => (refuse 400 u.message, w)
        | .ok (n, g) =>
          edited (w.withGraph g) 201 "node_added" [("node_id", .int n.id)] n.toDoc
      else (refuse 400 numbersMessage, w)
    | _ => (refuse 400 "Field 'type' is required", w)

/-- A change of a node: what moves it, and the properties and defaults to set. -/
structure NodeChange where
  x : Option Value
  y : Option Value
  properties : Fields
  inputs : Fields

/-- The value of a field that may be missing; one that counts as false is an empty object. -/
def objectField (fields : Fields) (name : String) : Value :=
  let v := Fields.getD fields name .null
  if v.isTrue then v else .object []

/-- Read a change of a node, or say why it is none. -/
def NodeChange.read (n : Node) (fields : Fields) : Except String NodeChange :=
  let x := Fields.get? fields "x"
  let y := Fields.get? fields "y"
  if x.all Value.isNumber && y.all Value.isNumber then
    match objectField fields "properties", objectField fields "inputs" with
    | .object properties, .object inputs =>
      let unknown := (inputs.map (·.1)).filter fun id => (n.input? id).isNone
      if unknown.isEmpty then .ok { x, y, properties, inputs }
      else .error (s!"Node {n.id} has no input port(s): " ++ Text.joinWith ", " unknown)
    | _, _ => .error "Fields 'properties' and 'inputs' must be objects"
  else .error numbersMessage

def NodeChange.move (c : NodeChange) (n : Node) (g : Graph) : Graph :=
  if c.x.isSome || c.y.isSome then (g.move (.int n.id) (c.x.getD n.x) (c.y.getD n.y)).2 else g

def NodeChange.apply (c : NodeChange) (n : Node) (g : Graph) : Graph :=
  let g := c.properties.foldl (fun g f => (g.setProperty (.int n.id) f.1 f.2).2) (c.move n g)
  c.inputs.foldl (fun g f => (g.setDefault (.int n.id) (.str f.1) f.2).2) g

def noNode (id : Nat) : Answer :=
  refuse 404 s!"Node {id} not found"

def changeNode (w : Studio) (id : Nat) (b : Body) : Outgoing :=
  match w.graph.node? (.int id) with
  | none => (noNode id, w)
  | some n =>
    match b.fields? with
    | none => (refuse 400 objectMessage, w)
    | some fields =>
      match NodeChange.read n fields with
      | .error message => (refuse 400 message, w)
      | .ok c =>
        let g := c.apply n w.graph
        let doc := ((g.node? (.int id)).map Node.toDoc).getD .null
        edited (w.withGraph g) 200 "node_updated" [("node_id", .int id)] doc

/-- The document of something removed. -/
def removedDoc : Value := .object [("removed", .bool true)]

def removeNode (w : Studio) (id : Nat) : Outgoing :=
  match w.graph.remove (.int id) with
  | (false, _) => (noNode id, w)
  | (true, g) => edited (w.withGraph g) 200 "node_removed" [("node_id", .int id)] removedDoc

/-! ## Wires -/

/-- The ends of a wire as a body gives them. -/
structure Ends where
  fromNode : Value
  fromPort : Value
  toNode : Value
  toPort : Value

/-- A field that has to be there. -/
def needed (fields : Fields) (name : String) : Except Fault Value :=
  match Fields.get? fields name with
  | some v => .ok v
  | none => .error (.missingKey (.str name))

/-- Read the ends of a wire: nodes as integers, ports as texts. -/
def Ends.read (fields : Fields) : Except Fault Ends := do
  let fromNode ← (← needed fields "fromNode").toInt
  let fromPort ← (← needed fields "fromPort").text
  let toNode ← (← needed fields "toNode").toInt
  let toPort ← (← needed fields "toPort").text
  return ⟨fromNode, .str fromPort, toNode, .str toPort⟩

/-- Whether a fault is the sender's: a number too large is none that is looked for. -/
def isSendersFault (f : Fault) : Bool :=
  f.kind != .overflow

def addWire (w : Studio) (b : Body) : Outgoing :=
  match Ends.read (b.fields?.getD []) with
  | .error f =>
    if isSendersFault f then
      (refuse 400 "Fields fromNode, fromPort, toNode and toPort are required", w)
    else (failure, w)
  | .ok e =>
    match w.connect e.fromNode e.fromPort e.toNode e.toPort with
    | (.joined wire, w) =>
      edited w 201 "connection_added" [("connection_id", wire.id)] wire.toDoc
    | (.refused r, w) =>
      ({ refuse 400 r.message with warnings := [Studio.refusalWarning r] }, w)
    | (.malformed _, w) => (failure, w)

def removeWire (w : Studio) (id : String) : Outgoing :=
  match w.graph.disconnect (.str id) with
  | (false, _) => (refuse 404 s!"Connection {id} not found", w)
  | (true, g) =>
    edited (w.withGraph g) 200 "connection_removed" [("connection_id", .str id)] removedDoc

end Sketchflow.Api
