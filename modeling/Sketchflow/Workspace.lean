import Sketchflow.Folder
import Sketchflow.Graph.Load
import Sketchflow.Json.Reader
import Sketchflow.Text.Lines
import Sketchflow.Text.Utf8

/-!
# Workspaces

A workspace is a graph saved as a document in a folder.

* `fileOf` turns the name of a workspace into that of its file: one name, directly in the folder.
  `pathOf` is the path of that file.
* `list` are the workspaces in a folder.
* `save` writes beside the file and then moves, so that a workspace is never half written.
* `load` reads a document and loads it into a graph.
-/

namespace Sketchflow.Workspace

/-- Why a workspace is not saved. -/
inductive SaveCause where
  | folder (f : Folder.Fault)
  /-- What no document holds: an integer of too many digits, or no value of documents. -/
  | foreign (v : Value)

def SaveCause.message : SaveCause → String
  | .folder f => f.message
  | .foreign (.int _) => Fault.longInteger.message
  | .foreign v => "Object of type " ++ v.kindName ++ " is not JSON serializable"

inductive LoadCause where
  | folder (f : Folder.Fault)
  | json (text : String) (f : Json.Fault)

def LoadCause.message : LoadCause → String
  | .folder f => f.message
  | .json text f => f.message text

/-- What can go wrong with a workspace. -/
inductive Failure where
  | badName (name : String)
  | notSaved (file : String) (cause : SaveCause)
  | notLoaded (file : String) (cause : LoadCause)
  /-- After a failed save, what was written cannot be removed. -/
  | leftover (f : Folder.Fault)
  /-- What should be read can be no path. -/
  | noPath (f : Folder.Fault)
  | notText (f : Utf8.Fault)
  /-- An integer in the document has more digits than are read. -/
  | hugeInteger (text : String) (f : Json.Fault)

def Failure.message : Failure → String
  | .badName name => "Invalid workspace name: " ++ Text.quote name
  | .notSaved file cause => s!"Could not save workspace to {file}: " ++ cause.message
  | .notLoaded file cause => s!"Could not load workspace from {file}: " ++ cause.message
  | .leftover f => f.message
  | .noPath f => f.message
  | .notText f => f.message
  | .hugeInteger text f => f.message text

/-- Whether a failure is one of workspaces, and not one of what they are made of. -/
def Failure.isExpected : Failure → Bool
  | .badName _ => true
  | .notSaved .. => true
  | .notLoaded .. => true
  | _ => false

/-! ## Names -/

/-- How the names of workspace files end. -/
def ending : String := ".json"

def hasEnding (name : String) : Bool :=
  ending.toList.isSuffixOf name.toList

/-- A name without the ending, if it has it. -/
def dropEnding (name : String) : String :=
  if hasEnding name then
    String.ofList (name.toList.take (name.length - ending.length))
  else name

/-- Whether a character can stand in the name of a workspace. -/
def isNameChar (c : Char) : Bool :=
  c.isAlphanum || c == '_' || c == '.' || c == '-'

/-- Whether a name, less the ending, is one of a workspace. -/
def isName (name : String) : Bool :=
  match name.toList with
  | [] => false
  | c :: rest => c.isAlphanum && rest.all isNameChar && !Text.contains name ".."

def fileOf (name : String) : Except Failure String :=
  let base := dropEnding name
  if isName base then .ok (base ++ ending) else .error (.badName base)

/-- A path that goes on from a directory. One that starts at the root stands alone, and a directory
that has no name or ends with a slash needs none in between. -/
def joined (dir path : String) : String :=
  if path.toList.head? == some '/' then path
  else if dir == "" || dir.toList.getLast? == some '/' then dir ++ path
  else dir ++ "/" ++ path

/-- The path of the file of a workspace, from the directory that workspaces are in. -/
def pathOf (dir name : String) : Except Failure String :=
  (fileOf name).map (joined dir)

/-- The file of the workspace that a value names. A value that is no text has no ending. -/
def fileBy (name : Value) : Except Fault (Except Failure String) :=
  match name with
  | .str s => .ok (fileOf s)
  | v => .error (.noAttribute v.kindName "endswith")

def list (f : Folder) : List String :=
  if f.isThere then
    Folder.sorted ((f.names.filter hasEnding).map dropEnding)
  else []

/-! ## Saving -/

/-- The path at which a file is written before it is moved. -/
def besides (path : Path) : Path :=
  path.append ".tmp"

def bytesOf (g : Graph) : Except SaveCause ByteArray :=
  match g.toDoc.first? Value.isForeign with
  | some v => .error (.foreign v)
  | none => .ok (Json.writeIndented g.toDoc).toUTF8

/-- Fill the file beside a path and move it to the path. -/
def fill (f : Folder) (path : Path) (g : Graph) : Except SaveCause Unit × Folder :=
  match bytesOf g with
  | .error cause => (.error cause, f)
  | .ok bytes =>
    match f.write (besides path) bytes with
    | .error fault => (.error (.folder fault), f)
    | .ok filled =>
      match filled.move (besides path) path with
      | .error fault => (.error (.folder fault), filled)
      | .ok moved => (.ok (), moved)

/-- Write a graph to a path: make the folders that lead to it, make the file beside it, fill that
and move it. -/
def place (f : Folder) (path : Path) (g : Graph) : Except SaveCause Unit × Folder :=
  match f.makeFolders path.parent with
  | (.error fault, f) => (.error (.folder fault), f)
  | (.ok _, f) =>
    match f.write (besides path) .empty with
    | .error fault => (.error (.folder fault), f)
    | .ok f => fill f path g

/-- Save a graph; the result is the full name of its file. What a failed save leaves beside the
file is removed. -/
def save (f : Folder) (path : Path) (g : Graph) : Except Failure String × Folder :=
  match place f path g with
  | (.ok _, f) => (.ok (f.fullName path), f)
  | (.error cause, f) =>
    match f.at? (besides path) with
    | none => (.error (.notSaved (f.fullName path) cause), f)
    | some _ =>
      match f.remove (besides path) with
      | .ok f => (.error (.notSaved (f.fullName path) cause), f)
      | .error fault => (.error (.leftover fault), f)

/-! ## Loading -/

/-- The document in a file. -/
def readDoc (f : Folder) (path : Path) : Except Failure Value :=
  match f.read path with
  | .error fault =>
    if fault.problem == .nullCharacter then .error (.noPath fault)
    else .error (.notLoaded (f.fullName path) (.folder fault))
  | .ok bytes =>
    match Utf8.decode bytes with
    | .error fault => .error (.notText fault)
    | .ok text =>
      let text := Text.unifyLineEnds text
      match Json.read text with
      | .ok doc => .ok doc
      | .error fault =>
        if fault.isSyntax then .error (.notLoaded (f.fullName path) (.json text fault))
        else .error (.hugeInteger text fault)

/-- Load a graph, with warnings about what does not fit the palette. -/
def load (f : Folder) (path : Path) (palette : Palette) :
    Except Failure (Graph × List Graph.Warning) :=
  (readDoc f path).map (Graph.load palette)

end Sketchflow.Workspace
