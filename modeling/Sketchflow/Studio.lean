import Sketchflow.Session
import Sketchflow.Workspace

/-!
# Studios

A studio is a session with the folder its workspaces are in.
-/

namespace Sketchflow

/-- A session and the folder of its workspaces. -/
structure Studio extends Session where
  folder : Folder

namespace Studio

def withSession (w : Studio) (s : Session) : Studio :=
  { w with toSession := s }

def withGraph (w : Studio) (g : Graph) : Studio :=
  { w with graph := g }

/-- Replace the graph by the one a document describes; the warnings tell what was not kept. -/
def loadDoc (w : Studio) (doc : Value) : Studio × List String :=
  let (g, warnings) := Graph.load w.palette doc
  (w.withGraph g, warnings.map (·.message))

/-- A tag for a wire: eight hexadecimal digits. -/
def tagText (n : Nat) : String :=
  String.ofList (Text.hex 8 n)

/-- Join two ports, with a fresh tag if one is needed. -/
def connect (w : Studio) (fromNode fromPort toNode toPort : Value) : Graph.Joined × Studio :=
  let (joined, g) := w.graph.connect (tagText (w.tags + 1)) fromNode fromPort toNode toPort
  (joined, { w with graph := g, tags := if joined.usedTag then w.tags + 1 else w.tags })

/-- What is logged about a refused wire. -/
def refusalWarning (r : Refusal) : String :=
  "Connection rejected: " ++ r.message

/-- Save the graph under a name. -/
def save (w : Studio) (name : String) : Except Workspace.Failure String × Studio :=
  match Workspace.fileOf name with
  | .error e => (.error e, w)
  | .ok file =>
    let (r, folder) := Workspace.save w.folder (.single file) w.graph
    (r, { w with folder })

/-- Load a file into the graph. -/
def load (w : Studio) (path : Path) : Except Workspace.Failure (List String) × Studio :=
  match Workspace.load w.folder path w.palette with
  | .error e => (.error e, w)
  | .ok (g, warnings) => (.ok (warnings.map (·.message)), w.withGraph g)

end Studio

end Sketchflow
