import Sketchflow.Studio

/-!
# Answers

An answer has a status, a document in its body unless something failed, the events that editors
are told about, and the warnings logged on the way.

* `done` and `refuse` are the two shapes of documents.
* `Answer.sealed` turns a document that cannot be written into a failure.
-/

namespace Sketchflow.Api

/-- Something editors are told about. -/
structure Event where
  name : String
  data : Fields

structure Answer where
  status : Nat
  body : Option Value := none
  events : List Event := []
  warnings : List String := []

/-- What a request does: its answer, and the studio after it. -/
abbrev Outgoing := Answer × Studio

/-- A document that tells of success. -/
def success (data : Value) : Value :=
  .object [("success", .bool true), ("data", data)]

def done (status : Nat) (data : Value) : Answer :=
  { status, body := some (success data) }

def refuse (status : Nat) (message : String) : Answer :=
  { status, body := some (.object [("success", .bool false), ("error", .str message)]) }

/-- The answer to what failed unexpectedly. -/
def failure : Answer :=
  { status := 500 }

/-- The answer, or a failure if its document cannot be written. -/
def Answer.sealed (a : Answer) : Answer :=
  match a.body with
  | none => a
  | some v => if v.isWritten then a else { a with status := 500, body := none }

/-- Tell editors of an edit, and ask for a run. -/
def changed (w : Studio) (reason : String) (details : Fields) : Event × Studio :=
  (⟨"graph_changed", [("reason", .str reason), ("nodes", .int w.graph.nodes.length),
      ("connections", .int w.graph.wires.length)] ++ details⟩,
    w.withSession w.requestRun.2)

/-- The answer to an edit, which editors are told of. -/
def edited (w : Studio) (status : Nat) (reason : String) (details : Fields) (data : Value) :
    Outgoing :=
  let (event, w) := changed w reason details
  ({ done status data with events := [event] }, w)

/-- The fields that a number has to be in. -/
def numbersMessage : String := "Fields 'x' and 'y' must be numbers"

/-- What is said of a body that is no object. -/
def objectMessage : String := "Request body must be a JSON object"

end Sketchflow.Api
