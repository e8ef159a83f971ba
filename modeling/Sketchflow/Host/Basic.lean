import Sketchflow.Text.Case
import Sketchflow.Trail
import Sketchflow.Value.Operators

/-!
# The host of a program

The host owns what surrounds a running program: keys, the pointer, animation frames, sounds and
diagnostics. Callbacks are values; what calling one means is up to whoever runs the host.

* Keys are known by their lower-case names. `register`, `hold`, `release`, `handlers`.
* Frames are requested once and run once: `requestFrame`, `cancelFrame`, `takeFrames`.
* `playSound`, `warn`, `log` record; `reset` forgets everything but the pointer and the frame
  numbers already given out.
-/

namespace Sketchflow

/-- What surrounds a running program. -/
structure Host where
  /-- Key handlers by key, both in the order of registration. -/
  subscribers : List (String × List Value) := []
  /-- The keys that are down. -/
  held : List String := []
  mouseX : Value := .null
  mouseY : Value := .null
  /-- Requested frames by number, in the order of request. -/
  frames : List (Nat × Value) := []
  nextFrame : Nat := 1
  framesRun : Nat := 0
  sounds : Trail String := {}
  warnings : Trail String := {}
  messages : Trail String := {}

namespace Host

def kindName : String := Handle.host.kindName

/-! ## Keys -/

/-- The name under which a key is known. -/
def keyName (key : Value) : Except Fault String :=
  key.text.map Text.lower

def subscribe (key : String) (handler : Value) :
    List (String × List Value) → List (String × List Value)
  | [] => [(key, [handler])]
  | s :: rest =>
    if s.1 == key then (key, s.2 ++ [handler]) :: rest else s :: subscribe key handler rest

def register (h : Host) (key : String) (handler : Value) : Host :=
  { h with subscribers := subscribe key handler h.subscribers }

/-- The handlers of a key, in the order of registration. -/
def handlers (h : Host) (key : String) : List Value :=
  (h.subscribers.lookup key).getD []

def isHeld (h : Host) (key : String) : Bool :=
  h.held.contains key

def hold (h : Host) (key : String) : Host :=
  if h.isHeld key then h else { h with held := h.held ++ [key] }

def release (h : Host) (key : String) : Host :=
  { h with held := h.held.filter (· != key) }

def blur (h : Host) : Host :=
  { h with held := [] }

def heldSorted (h : Host) : List String :=
  h.held.mergeSort fun a b => decide (a ≤ b)

/-! ## The pointer -/

def moveMouse (h : Host) (x y : Value) : Host :=
  { h with mouseX := x, mouseY := y }

/-! ## Frames -/

/-- Request a frame; its number is larger than all before it. -/
def requestFrame (h : Host) (callback : Value) : Nat × Host :=
  (h.nextFrame,
    { h with frames := h.frames ++ [(h.nextFrame, callback)], nextFrame := h.nextFrame + 1 })

def cancelFrame (h : Host) (id : Value) : Host :=
  { h with frames := h.frames.filter fun f => !id.hasId f.1 }

/-- Take all requested frames, so that those requested from now on wait for the next time. -/
def takeFrames (h : Host) : List (Nat × Value) × Host :=
  (h.frames, { h with frames := [] })

def countFrame (h : Host) : Host :=
  { h with framesRun := h.framesRun + 1 }

/-! ## Sounds and diagnostics -/

def knownSounds : List String := ["click", "boop", "laser"]

def warn (h : Host) (message : String) : Host :=
  { h with warnings := h.warnings.push message }

def log (h : Host) (message : String) : Host :=
  { h with messages := h.messages.push message }

/-- Play a sound, or warn that there is none of this name. -/
def playSound (h : Host) (name : String) : Host :=
  if knownSounds.contains name then { h with sounds := h.sounds.push name }
  else h.warn ("Sound not found: " ++ name)

/-- Forget subscriptions, held keys, frames and diagnostics. -/
def reset (h : Host) : Host :=
  { h with
    subscribers := [], held := [], frames := [], framesRun := 0
    sounds := .empty, warnings := .empty, messages := .empty }

end Host

end Sketchflow
