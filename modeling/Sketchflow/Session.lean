import Sketchflow.Compile.Program
import Sketchflow.Palette.Catalog
import Sketchflow.Script.Program
import Sketchflow.Settings

/-!
# Sessions

A session is a graph being edited together with the machine that runs its program.

* `run` stops the program at hand, clears the machine, compiles the graph and runs the result.
* `press`, `frames` and `control` call back into the program; an `Outcome` tells what came of it.
  A fault is part of the outcome. Only one that is final is raised, by whatever called into the
  program.
* Edits may ask for a run after a pause: `requestRun` starts a timer in place of the one before
  it, and `fire` is the end of the pause.
-/

namespace Sketchflow

open Script (Entries Eval Machine)

/-- What came of a run, or of a call into the program. -/
structure Outcome where
  fault : Option Fault := none
  output : String := ""
  vars : Entries := []
  /-- What the program gave to start and stop it. -/
  controls : Entries := []

/-- Why a run is not finished: the graph has no program, or a program ended everything. -/
inductive Raised where
  | obstacle (o : Compile.Obstacle)
  | ended (f : Fault)

namespace Outcome

def succeeded (o : Outcome) : Bool :=
  o.fault.isNone

def summary (o : Outcome) : String :=
  match o.fault with
  | none => "Success: " ++ o.output
  | some f => "Error: " ++ f.message

/-- The variables that hold plain values. -/
def plainVariables (o : Outcome) : Entries :=
  o.vars.filter fun e => e.2.isScalar

end Outcome

def controlNames (controls : Entries) : List String :=
  (controls.map fun e => e.1.display).mergeSort fun a b => decide (a ≤ b)

inductive Timer where
  | armed
  | cancelled
  deriving Repr, DecidableEq

/-- A graph being edited and the machine that runs its program. -/
structure Session where
  palette : Palette
  settings : Settings
  graph : Graph := {}
  /-- How many tags of wires were drawn. -/
  tags : Nat := 0
  machine : Machine := {}
  controls : Entries := []
  /-- Whether edits ask for runs. -/
  autoRun : Value := .bool false
  lastCode : String := ""
  /-- The outcome of the last run as it was at the end of the run. -/
  lastRun : Option Outcome := none
  /-- Whether the variables of the last run are those of the machine. -/
  lastIsCurrent : Bool := false
  runs : Nat := 0
  /-- The timers started since timers last fired, oldest first. -/
  timers : List Timer := []
  /-- Whether the last timer started is waited for. -/
  pending : Bool := false

namespace Session

/-- The outcome of the last run, with its variables as they are now. -/
def lastOutcome (s : Session) : Option Outcome :=
  s.lastRun.map fun o => if s.lastIsCurrent then { o with vars := s.machine.vars } else o

/-! ## Running -/

def compile (s : Session) : Except Compile.Obstacle String × Session :=
  match Compile.generate s.graph s.settings.whileLimit.display with
  | .ok text => (.ok text, { s with lastCode := text })
  | .error o => (.error o, s)

/-- Perform an action on the machine and gather what it prints. -/
def perform (s : Session) (action : Eval Value) : Except Fault Value × String × Session :=
  match action.run { s.machine with output := {} } with
  | .ok v m => (.ok v, m.printed, { s with machine := m })
  | .error f m => (.error f, m.printed, { s with machine := m })

/-- The fault of a failed computation, to be told; a final one is raised. -/
def told {α : Type} : Except Fault α → Except Fault (Option Fault)
  | .ok _ => .ok none
  | .error f => if f.isFinal then .error f else .ok (some f)

theorem isFinal_of_told {α β : Type} {r : Except Fault α} {g : Option Fault → β} {f : Fault}
    (h : (told r).map g = .error f) : f.isFinal = true := by
  cases r with
  | ok a => cases h
  | error f' =>
    cases hf : f'.isFinal with
    | true =>
      rw [told, hf] at h
      cases h
      exact hf
    | false =>
      rw [told, hf] at h
      cases h

/-- Call into the program. -/
def callback (s : Session) (action : Eval Value) : Except Fault Outcome × Session :=
  let (r, output, s) := s.perform action
  ((told r).map fun fault => { fault, output }, s)

def isCallable : Value → Bool
  | .handle .program => true
  | .handle (.function _) => true
  | .handle (.method _ _) => true
  | .handle (.builtin _) => true
  | .handle (.kind _) => true
  | .handle (.thing kind) => Script.callables.contains kind
  | _ => false

/-- Stop the program, if it gave a way to; the result tells whether it did. -/
def stop (s : Session) : Except Fault Bool × Session :=
  let stopped := { s with controls := [] }
  match Entries.value? s.controls (.str "stop") with
  | none => (.ok false, stopped)
  | some f =>
    if isCallable f then
      let (r, s) := stopped.callback (Script.invoke f [])
      (r.map fun _ => true, s)
    else (.ok false, stopped)

/-- The controls that a program gave as its result. -/
def controlsOf (m : Machine) : Value → Entries
  | .handle (.table t) => m.table t
  | _ => []

/-- Run a program text on the machine. -/
def execute (s : Session) (text : String) : Except Fault Outcome × Session :=
  let (r, output, s) := s.perform (Script.run text)
  let controls := match r with
    | .ok v => controlsOf s.machine v
    | .error _ => []
  ((told r).map fun fault => { fault, output, vars := s.machine.vars, controls }, s)

/-- The session before a run: the program at hand is stopped and the machine is cleared. -/
def prepare (s : Session) : Session :=
  let s := s.stop.2
  { s with machine := s.machine.cleared, lastRun := s.lastOutcome, lastIsCurrent := false }

/-- Compile the graph and run the program. -/
def run (s : Session) : Except Raised Outcome × Session :=
  match s.stop.1 with
  | .error f => (.error (.ended f), s.stop.2)
  | .ok _ =>
    match s.prepare.compile with
    | (.error o, s) => (.error (.obstacle o), s)
    | (.ok text, s) =>
      match s.execute text with
      | (.error f, s) => (.error (.ended f), s)
      | (.ok outcome, s) =>
        (.ok outcome, { s with
          controls := outcome.controls, lastRun := some outcome, lastIsCurrent := true
          runs := s.runs + 1 })

/-! ## Calls into the program -/

def hostCall (name : String) (arguments : List Value) : Eval Value :=
  Host.call Machine.place Script.invoke name arguments

def press (s : Session) (key : Value) : Except Fault Outcome × Session :=
  s.callback (hostCall "press_key" [key])

def frames (s : Session) (count : Value) : Except Fault Outcome × Session :=
  s.callback (hostCall "run_frames" [count])

/-- Use the control that a value names. -/
def control (s : Session) (name : Value) : Except Fault Outcome × Session :=
  match name.checkKey, Entries.value? s.controls name with
  | .error f, _ => (.error f, s)
  | .ok _, some f => s.callback (Script.invoke f [])
  | .ok _, none => (.error (.missingKey name), s)

/-- Perform an operation of the host from outside the program. -/
def onHost (s : Session) (name : String) (arguments : List Value) :
    Except Fault Value × Session :=
  let (r, _, s) := s.perform do hostCall name (← arguments.mapM Script.settle)
  (r, s)

/-! ## Runs after a pause -/

def cancelLast (timers : List Timer) : List Timer :=
  match timers with
  | [] => []
  | timers => timers.dropLast ++ [.cancelled]

def cancelTimer (s : Session) : Session :=
  if s.pending then { s with timers := cancelLast s.timers, pending := false } else s

/-- Drop the pending run and stop the program. -/
def cancel (s : Session) : Except Fault Bool × Session :=
  s.cancelTimer.stop

/-- Turn runs after edits on, with a run at once, or off. -/
def setAutoRun (s : Session) (enabled : Value) :
    Except Raised (Option Outcome) × Session :=
  let s := { s with autoRun := enabled }
  if enabled.isTrue then
    let (r, s) := s.run
    (r.map some, s)
  else (.ok none, s.cancelTimer)

/-- Ask for a run after a pause; the result tells whether one will come. -/
def requestRun (s : Session) : Bool × Session :=
  if s.autoRun.isTrue then
    let s := s.cancelTimer
    (true, { s with timers := s.timers ++ [.armed], pending := true })
  else (false, s)

/-- The end of one pause. -/
def fireOne (s : Session) : Except Raised Unit × Session :=
  let s := { s with pending := false }
  if s.autoRun.isTrue then
    let (r, s) := s.run
    (r.map fun _ => (), s)
  else (.ok (), s)

/-- The end of several pauses, one after the other. -/
def fireTimes : Nat → Session → Except Raised Unit × Session
  | 0, s => (.ok (), s)
  | n + 1, s =>
    match s.fireOne with
    | (.ok _, s) => fireTimes n s
    | (.error e, s) => (.error e, s)

/-- The end of the pauses of all timers started since timers last fired: of those not cancelled,
or of all. The result is how many there were. -/
def fire (s : Session) (all : Bool) : Except Raised Nat × Session :=
  let due := (s.timers.filter fun t => all || t == .armed).length
  let (r, s) := fireTimes due { s with timers := [] }
  (r.map fun _ => due, s)

end Session

end Sketchflow
