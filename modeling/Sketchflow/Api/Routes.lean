import Sketchflow.Api.Editing
import Sketchflow.Api.Running

/-!
# Routes

Which request does what. `respond` answers a request: with 404 if nothing is at its address, with
405 if something is there but not for its method, and with 308 if it should be sent to an address
with single slashes.

What the server does around an answer is assumed, in one definition each: how it reads numbers in an
address (`number?`), which addresses it redirects (`mergeSlashes`), which methods it adds
(`Route.answers`), how it decodes a body (`sentText?`), and when it fails to write an answer
(`Answer.sealed`).
-/

namespace Sketchflow.Api

/-! ## Workspaces -/

def listWorkspaces (w : Studio) : Outgoing :=
  (done 200 (textsDoc (Workspace.list w.folder)), w)

def workspaceFailure (e : Workspace.Failure) : Answer :=
  if e.isExpected then refuse 400 e.message else failure

def saveWorkspace (w : Studio) (name : String) : Outgoing :=
  match w.save name with
  | (.error e, w) => (workspaceFailure e, w)
  | (.ok _, w) =>
    (done 200 (.object [("name", .str name), ("nodes", .int w.graph.nodes.length)]), w)

def loadWorkspace (w : Studio) (name : String) : Outgoing :=
  match Workspace.fileOf name with
  | .error e => (workspaceFailure e, w)
  | .ok file =>
    if (Workspace.list w.folder).contains name then
      match w.load (.single file) with
      | (.error e, w) => (workspaceFailure e, w)
      | (.ok warnings, w) =>
        let (a, w) := edited w 200 "workspace_loaded" [("name", .str name)] w.graph.toDoc
        ({ a with warnings }, w)
    else (refuse 404 s!"Workspace {name} not found", w)

/-! ## Addresses -/

/-- What can be at an address. -/
inductive Route where
  | nodeTypes
  | graph
  | nodes
  | node (id : Nat)
  | wires
  | wire (id : String)
  | code
  | run
  | stop
  | autoRun
  | workspaces
  | workspaceSave (name : String)
  | workspaceLoad (name : String)

/-- The number that digits of any script stand for. -/
def number? (s : String) : Option Nat :=
  if s == "" then none else (s.toList.mapM Text.digitValue?).map Number.ofDigits

def Route.find? : List String → Option Route
  | ["", "api", "node-types"] => some .nodeTypes
  | ["", "api", "graph"] => some .graph
  | ["", "api", "nodes"] => some .nodes
  | ["", "api", "nodes", id] => (number? id).map .node
  | ["", "api", "connections"] => some .wires
  | ["", "api", "connections", id] => if id == "" then none else some (.wire id)
  | ["", "api", "code"] => some .code
  | ["", "api", "run"] => some .run
  | ["", "api", "stop"] => some .stop
  | ["", "api", "auto-run"] => some .autoRun
  | ["", "api", "workspaces"] => some .workspaces
  | ["", "api", "workspaces", name, "save"] =>
    if name == "" then none else some (.workspaceSave name)
  | ["", "api", "workspaces", name, "load"] =>
    if name == "" then none else some (.workspaceLoad name)
  | _ => none

/-- What a method does at an address, if it does something there. -/
def Route.perform? (route : Route) (r : Request) (method : String) (w : Studio) :
    Option Outgoing :=
  match route, method with
  | .nodeTypes, "GET" => some (Api.nodeTypes w r)
  | .graph, "GET" => some (readGraph w)
  | .graph, "PUT" => some (replaceGraph w r.body)
  | .nodes, "POST" => some (addNode w r.body)
  | .node id, "PATCH" => some (changeNode w id r.body)
  | .node id, "DELETE" => some (removeNode w id)
  | .wires, "POST" => some (addWire w r.body)
  | .wire id, "DELETE" => some (removeWire w id)
  | .code, "GET" => some (readCode w)
  | .run, "POST" => some (runProgram w)
  | .stop, "POST" => some (stopProgram w)
  | .autoRun, "POST" => some (setAutoRun w r.body)
  | .workspaces, "GET" => some (listWorkspaces w)
  | .workspaceSave name, "POST" => some (saveWorkspace w name)
  | .workspaceLoad name, "POST" => some (loadWorkspace w name)
  | _, _ => none

/-- The answer without its body. -/
def Answer.bare (a : Answer) : Answer :=
  { a with body := none }

/-- The methods that do something at an address. -/
def Route.methods : Route → List String
  | .nodeTypes => ["GET"]
  | .graph => ["GET", "PUT"]
  | .nodes => ["POST"]
  | .node _ => ["PATCH", "DELETE"]
  | .wires => ["POST"]
  | .wire _ => ["DELETE"]
  | .code => ["GET"]
  | .run => ["POST"]
  | .stop => ["POST"]
  | .autoRun => ["POST"]
  | .workspaces => ["GET"]
  | .workspaceSave _ => ["POST"]
  | .workspaceLoad _ => ["POST"]

/-- Whether a method is answered at an address. Its options can be asked for anywhere, and what can
be read can be asked for without its body. -/
def Route.answers (route : Route) (method : String) : Bool :=
  method == "OPTIONS" || route.methods.contains (if method == "HEAD" then "GET" else method)

/-- Two slashes in a row become one. -/
def mergeSlashes : List String → List String
  | part :: "" :: next :: rest => part :: mergeSlashes (next :: rest)
  | part :: rest => part :: mergeSlashes rest
  | [] => []

/-- Answer a request at an address where something is. -/
def respondAt (w : Studio) (r : Request) (route : Route) : Outgoing :=
  if r.method == "OPTIONS" then ({ status := 200 }, w)
  else
    let isHead := r.method == "HEAD"
    match route.perform? r (if isHead then "GET" else r.method) w with
    | none => ({ status := 405 }, w)
    | some (a, w) => (if isHead then a.sealed.bare else a.sealed, w)

/-- Answer a request at an address where nothing is: it is sent on if something is where its
slashes lead when they are not doubled. -/
def redirect (r : Request) : Answer :=
  match Route.find? (mergeSlashes r.segments) with
  | none => { status := 404 }
  | some route => { status := if route.answers r.method then 308 else 405 }

/-- Answer a request. Methods are known by their upper-case names. -/
def respond (w : Studio) (request : Request) : Outgoing :=
  let r := { request with method := Text.upper request.method }
  match Route.find? r.segments with
  | none => (redirect r, w)
  | some route => respondAt w r route

end Sketchflow.Api
