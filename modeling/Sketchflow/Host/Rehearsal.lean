import Sketchflow.Host.Dispatch

/-!
# Rehearsals

A host can be run without a program: callbacks are labels, and a script says which calls on the
host each label makes. Every callback leaves a mark in the trace.

`Rehearsal.step` makes one call from outside.
-/

namespace Sketchflow

inductive Action where
  | call (name : String) (arguments : List Value)
  /-- Ask how many frames are pending. -/
  | pending
  | raise (message : String)

/-- A label that was called, and with what. -/
structure Mark where
  label : String
  arguments : List Value

structure Rehearsal where
  host : Host := {}
  trace : Trail Mark := {}

namespace Rehearsal

abbrev Script := List (String × List Action)

def place : Host.Place Rehearsal where
  get := host
  set h r := { r with host := h }

/-- One action, given how to call callbacks. -/
def perform (invoke : Host.Invoke Rehearsal) : Action → EStateM Fault Rehearsal Value
  | .call name arguments => Host.call place invoke name arguments
  | .pending => do return .int (← place.read).frames.length
  | .raise message => throw (.raised message)

def performAll (invoke : Host.Invoke Rehearsal) : List Action → EStateM Fault Rehearsal Unit
  | [] => pure ()
  | a :: rest => do
    let _ ← perform invoke a
    performAll invoke rest

/-- Call a label: leave a mark, then do what the script says. The bound is on calls inside
calls. -/
def invoke (script : Script) : Nat → Host.Invoke Rehearsal
  | 0, _, _ => throw .exhausted
  | depth + 1, callback, arguments => do
    let label := callback.display
    modify fun r => { r with trace := r.trace.push ⟨label, arguments⟩ }
    performAll (invoke script depth) ((script.lookup label).getD [])
    return .null

/-- How many calls may stand inside each other. -/
def depthBound : Nat := 10000

def step (script : Script) (a : Action) : EStateM Fault Rehearsal Value :=
  perform (invoke script depthBound) a

end Rehearsal

end Sketchflow
