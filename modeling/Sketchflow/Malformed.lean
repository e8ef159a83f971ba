import Sketchflow.Value.Text

/-!
# Malformed documents

What can be wrong with the document of a port, a node or a wire. `Malformed.message` puts it in
words.
-/

namespace Sketchflow

/-- A reason to refuse a document. -/
inductive Malformed where
  /-- A port entry that is no object or has no identifier. -/
  | port (entry : Value)
  | node (entry : Value)
  /-- A node entry without a positive integer as its identifier. -/
  | nodeId (entry : Value)
  /-- A node entry whose type is no text. -/
  | nodeType (id : Int)
  | wire (entry : Value)
  /-- A wire entry without one of its five necessary fields. -/
  | wireField (name : String)
  /-- A wire that ends at something that is no integer. -/
  | wireNode (id : String) (target : Value)
  /-- A wire that ends at a port whose name is no text. -/
  | wirePort (id : String) (name : Value)

def Malformed.message : Malformed → String
  | .port entry => "Malformed port entry: " ++ entry.show
  | .node entry => "Malformed node entry: " ++ entry.show
  | .nodeId entry => "Node entry has no valid id: " ++ entry.show
  | .nodeType id => s!"Node {id} has no type"
  | .wire entry => "Malformed connection entry: " ++ entry.show
  | .wireField name => "Connection entry is missing " ++ Text.quote name
  | .wireNode id target => s!"Connection {id} has a non-integer endpoint " ++ target.show
  | .wirePort id name => s!"Connection {id} has a non-string port " ++ name.show

end Sketchflow
