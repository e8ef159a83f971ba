import Sketchflow.Api.Answer
import Sketchflow.Api.Request

/-!
# Running over the network

The requests that compile and run the program, and the events that reach it while it runs.

* `runDoc?` is the document of an outcome. Variables are the members of an object, so their keys
  have to be of one sort and writable.
* `onEvent` is what an event from an editor does.
-/

namespace Sketchflow.Api

def readCode (w : Studio) : Outgoing :=
  match w.compile with
  | (.ok code, s) => (done 200 (.object [("code", .str code)]), w.withSession s)
  | (.error _, s) => (failure, w.withSession s)

/-! ## Outcomes -/

def memberName? (key : Value) : Option String :=
  if key.hasLong then none else Json.fieldName? key

/-- Whether keys can be put in order: all texts, all numbers, or one alone. -/
def canBeOrdered (keys : List Value) : Bool :=
  keys.length ≤ 1 || keys.all (fun k => k.kindName == "str") || keys.all fun k => k.number?.isSome

/-- Each entry as a member. -/
def membersOf? : Script.Entries → Option Fields
  | [] => some []
  | (key, v) :: rest => do
    let name ← memberName? key
    let members ← membersOf? rest
    return (name, v) :: members

/-- Variables as the members of an object, if they can be. -/
def variablesDoc? (entries : Script.Entries) : Option Value :=
  if canBeOrdered (entries.map (·.1)) then (membersOf? entries).map .object else none

def textsDoc (texts : List String) : Value :=
  .list (texts.map .str)

/-- The document of an outcome, with what the canvas and the host have to show. -/
def runDoc? (s : Session) (o : Outcome) : Option Value := do
  let vars ← variablesDoc? o.plainVariables
  return .object [("success", .bool o.succeeded), ("output", .str o.output),
    ("error", (o.fault.map fun f => Value.str f.message).getD .null),
    ("traceback", .bool !o.succeeded), ("variables", vars),
    ("controls", textsDoc (controlNames o.controls)),
    ("operations", .int s.machine.canvas.recorded.size),
    ("warnings", textsDoc s.machine.host.warnings.toList),
    ("sounds", textsDoc s.machine.host.sounds.toList)]

/-- Run the program and tell editors. A program that ends everything leaves no answer; it counts as
a failure. -/
def runProgram (w : Studio) : Outgoing :=
  match w.run with
  | (.error _, s) => (failure, w.withSession s)
  | (.ok o, s) =>
    let event : Event :=
      ⟨"program_ran", [("success", .bool o.succeeded), ("run", .int s.runs)]⟩
    let error := match o.fault with
      | some f => [("error", Value.str f.message)]
      | none => []
    match runDoc? s o with
    | none => ({ failure with events := [event] }, w.withSession s)
    | some doc =>
      ({ status := 200
         body := some (.object ([("success", .bool o.succeeded), ("data", doc)] ++ error))
         events := [event] }, w.withSession s)

def stopProgram (w : Studio) : Outgoing :=
  match w.stop with
  | (.error _, s) => (failure, w.withSession s)
  | (.ok stopped, s) => (done 200 (.object [("stopped", .bool stopped)]), w.withSession s)

/-- Turn runs after edits on or off. -/
def setAutoRun (w : Studio) (b : Body) : Outgoing :=
  match b.fields? with
  | none => (refuse 400 objectMessage, w)
  | some fields =>
    match w.toSession.setAutoRun (.bool (Fields.getD fields "enabled" .null).isTrue) with
    | (.error _, s) => (failure, w.withSession s)
    | (.ok none, s) =>
      (done 200 (.object [("enabled", s.autoRun), ("run", .null)]), w.withSession s)
    | (.ok (some o), s) =>
      match runDoc? s o with
      | none => (failure, w.withSession s)
      | some doc =>
        (done 200 (.object [("enabled", s.autoRun), ("run", doc)]), w.withSession s)

/-! ## Events -/

/-- Tell editors of an error. -/
def errorEvent (message : String) : Event :=
  ⟨"program_error", [("error", .str message)]⟩

/-- The fields of an event; anything but an object has none. -/
def eventFields : Value → Fields
  | .object fields => fields
  | _ => []

/-- What editors are told of an outcome. -/
def outcomeEvents (o : Outcome) : List Event :=
  match o.fault with
  | some f => [errorEvent f.message]
  | none => []

/-- Run as many frames as a count says, unless it is no integer. -/
def askFrames (s : Session) (count : Value) : Except Fault (List Event) × Session :=
  match count.toInt with
  | .ok count =>
    let (r, s) := s.frames count
    (r.map outcomeEvents, s)
  | .error f =>
    if f.kind == .overflow then (.error f, s)
    else (.ok [errorEvent "Field 'count' must be an integer"], s)

/-- What an event from an editor does, and what editors are told then. A fault that is not told is
the event's own. -/
def onEvent (s : Session) (name : String) (data : Value) : Except Fault (List Event) × Session :=
  let fields := eventFields data
  match name with
  | "key_down" =>
    match (Fields.getD fields "key" (.str "")).text with
    | .error f => (.error f, s)
    | .ok key =>
      let (r, s) := s.press (.str key)
      (r.map outcomeEvents, s)
  | "key_up" =>
    match (Fields.getD fields "key" (.str "")).text with
    | .error f => (.error f, s)
    | .ok key =>
      let (r, s) := s.onHost "release_key" [.str key]
      (r.map fun _ => [], s)
  | "mouse_move" =>
    let x := Fields.getD fields "x" .null
    let y := Fields.getD fields "y" .null
    if x.isNumber && y.isNumber then
      let (r, s) := s.onHost "move_mouse" [x, y]
      (r.map fun _ => [], s)
    else (.ok [errorEvent numbersMessage], s)
  | "frames" =>
    askFrames s (Fields.getD fields "count" (.int 1))
  | _ => (.ok [], s)

end Sketchflow.Api
