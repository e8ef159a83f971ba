import Sketchflow.Host.Basic
import Sketchflow.Signature

/-!
# Calls on the host

The operations of the host as programs call them, inside a larger state that holds the host and
with a way to call callbacks. A fault stops an operation where it is and keeps what was done.

* `press` holds a key and calls its handlers, those registered when the key went down.
* `runFrames` runs requested frames, a round of callbacks each.
* `call` performs an operation by name.
-/

namespace Sketchflow.Host

/-- Where the host is in a larger state. -/
structure Place (σ : Type) where
  get : σ → Host
  set : Host → σ → σ

/-- Calling a callback. -/
abbrev Invoke (σ : Type) := Value → List Value → EStateM Fault σ Value

variable {σ : Type}

namespace Place

def read (p : Place σ) : EStateM Fault σ Host :=
  modifyGet fun s => (p.get s, s)

def update (p : Place σ) (f : Host → Host) : EStateM Fault σ Unit :=
  modify fun s => p.set (f (p.get s)) s

end Place

/-- Stop with the fault of a failed computation. -/
def lift {α : Type} (x : Except Fault α) : EStateM Fault σ α :=
  match x with
  | .ok a => pure a
  | .error f => throw f

def invokeAll (invoke : Invoke σ) (arguments : List Value) :
    List Value → EStateM Fault σ Unit
  | [] => pure ()
  | callback :: rest => do
    let _ ← invoke callback arguments
    invokeAll invoke arguments rest

/-- Hold a key and call its handlers; the result is how many were called. -/
def press (place : Place σ) (invoke : Invoke σ) (key : String) : EStateM Fault σ Nat := do
  place.update (hold · key)
  let handlers := (← place.read).handlers key
  invokeAll invoke [] handlers
  return handlers.length

/-- Run up to a number of frames, until none is requested; the result counts `ran` and the frames
run. -/
def runFrames (place : Place σ) (invoke : Invoke σ) (interval : Value) :
    Nat → Nat → EStateM Fault σ Nat
  | 0, ran => pure ran
  | count + 1, ran => do
    let h ← place.read
    if h.frames.isEmpty then
      return ran
    else
      place.update fun h => h.takeFrames.2
      let timestamp ← lift (Value.multiply (.int h.framesRun) interval)
      invokeAll invoke [timestamp] (h.frames.map (·.2))
      place.update countFrame
      runFrames place invoke interval count (ran + 1)

/-- The time between two frames, in milliseconds. -/
def frameInterval : Value := .float (1000.0 / 60.0)

def operations : List Signature :=
  [⟨kindName, "register_key_press", ["key", "action"], 0⟩,
    ⟨kindName, "is_key_pressed", ["key"], 0⟩, ⟨kindName, "press_key", ["key"], 0⟩,
    ⟨kindName, "release_key", ["key"], 0⟩, ⟨kindName, "blur", [], 0⟩,
    ⟨kindName, "move_mouse", ["x", "y"], 0⟩, ⟨kindName, "request_frame", ["callback"], 0⟩,
    ⟨kindName, "cancel_frame", ["frame_id"], 0⟩,
    ⟨kindName, "run_frames", ["count", "frame_interval"], 2⟩,
    ⟨kindName, "play_sound", ["name"], 0⟩, ⟨kindName, "warn", ["message"], 0⟩,
    ⟨kindName, "log", ["message"], 0⟩, ⟨kindName, "reset", [], 0⟩]

/-- Run frames by a count and an interval that are loose values. -/
def runFramesBy (place : Place σ) (invoke : Invoke σ) (count interval : Value) :
    EStateM Fault σ Value := do
  let count ← lift count.toIndex
  return .int (← runFrames place invoke interval count.toNat 0)

/-- An operation of the host, the number of its arguments checked. -/
def perform (place : Place σ) (invoke : Invoke σ) (name : String) (arguments : List Value) :
    EStateM Fault σ Value :=
  match name, arguments with
  | "register_key_press", [key, handler] => do
    let key ← lift (keyName key)
    place.update (register · key handler)
    return .null
  | "is_key_pressed", [key] => do
    let key ← lift (keyName key)
    return .bool ((← place.read).isHeld key)
  | "press_key", [key] => do
    let key ← lift (keyName key)
    return .int (← press place invoke key)
  | "release_key", [key] => do
    let key ← lift (keyName key)
    place.update (release · key)
    return .null
  | "blur", _ => do
    place.update blur
    return .null
  | "move_mouse", [x, y] => do
    place.update (moveMouse · x y)
    return .null
  | "request_frame", [callback] => do
    let (id, h) := (← place.read).requestFrame callback
    place.update fun _ => h
    return .int id
  | "cancel_frame", [id] => do
    lift id.checkKey
    place.update (cancelFrame · id)
    return .null
  | "run_frames", [] => runFramesBy place invoke (.int 1) frameInterval
  | "run_frames", [count] => runFramesBy place invoke count frameInterval
  | "run_frames", [count, interval] => runFramesBy place invoke count interval
  | "play_sound", [name] => do
    let name ← lift name.text
    place.update (playSound · name)
    return .null
  | "warn", [message] => do
    let message ← lift message.text
    place.update (warn · message)
    return .null
  | "log", [message] => do
    let message ← lift message.text
    place.update (log · message)
    return .null
  | "reset", _ => do
    place.update reset
    return .null
  | _, _ => throw (.noAttribute kindName name)

def call (place : Place σ) (invoke : Invoke σ) (name : String) (arguments : List Value) :
    EStateM Fault σ Value :=
  match Signature.find? operations name with
  | some s => do
    lift (s.check arguments.length)
    perform place invoke name arguments
  | none => throw (.noAttribute kindName name)

def get (h : Host) (name : String) : Except Fault Value :=
  match name with
  | "mouse_x" => .ok h.mouseX
  | "mouse_y" => .ok h.mouseY
  | "frames_run" => .ok (.int h.framesRun)
  | "pending_frames" => .ok (.int h.frames.length)
  | "sounds_played" => .ok (.list (h.sounds.toList.map .str))
  | "warnings" => .ok (.list (h.warnings.toList.map .str))
  | "messages" => .ok (.list (h.messages.toList.map .str))
  | "active_keys" => .ok (.handle (.thing "set"))
  | "key_subscribers" => .ok (.handle (.thing "dict"))
  | name =>
    if operations.any fun s => s.name == name then .ok (.handle (.method .host name))
    else .error (.noAttribute kindName name)

end Sketchflow.Host
