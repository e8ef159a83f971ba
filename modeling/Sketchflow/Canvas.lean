import Sketchflow.Signature
import Sketchflow.Trail
import Sketchflow.Value.Operators

/-!
# The recording canvas

A canvas draws nothing: it records every operation and every style that is set. Styles can be
saved and restored; a restore without a matching save is recorded and changes nothing.

* `Canvas.set` assigns an attribute, `Canvas.get` reads one.
* `Canvas.call` performs an operation.
* `Canvas.operations` lists what was recorded, in order.
-/

namespace Sketchflow

/-- The styles a canvas draws with. -/
inductive StyleName where
  | font
  | strokeStyle
  | fillStyle
  | lineWidth
  | textAlign
  | textBaseline
  deriving Repr, DecidableEq

namespace StyleName

def all : List StyleName :=
  [.font, .strokeStyle, .fillStyle, .lineWidth, .textAlign, .textBaseline]

/-- The attribute that holds a style. -/
def key : StyleName → String
  | .font => "font"
  | .strokeStyle => "stroke_style"
  | .fillStyle => "fill_style"
  | .lineWidth => "line_width"
  | .textAlign => "text_align"
  | .textBaseline => "text_baseline"

/-- The style behind an attribute. -/
def ofKey? (name : String) : Option StyleName :=
  all.find? fun s => s.key == name

end StyleName

structure Style where
  font : Value := .str "10px sans-serif"
  strokeStyle : Value := .str "#000000"
  fillStyle : Value := .str "#000000"
  lineWidth : Value := .int 1
  textAlign : Value := .str "start"
  textBaseline : Value := .str "alphabetic"
  deriving Inhabited

namespace Style

def get (s : Style) : StyleName → Value
  | .font => s.font
  | .strokeStyle => s.strokeStyle
  | .fillStyle => s.fillStyle
  | .lineWidth => s.lineWidth
  | .textAlign => s.textAlign
  | .textBaseline => s.textBaseline

def set (s : Style) (name : StyleName) (v : Value) : Style :=
  match name with
  | .font => { s with font := v }
  | .strokeStyle => { s with strokeStyle := v }
  | .fillStyle => { s with fillStyle := v }
  | .lineWidth => { s with lineWidth := v }
  | .textAlign => { s with textAlign := v }
  | .textBaseline => { s with textBaseline := v }

def toFields (s : Style) : Fields :=
  StyleName.all.map fun name => (name.key, s.get name)

/-- The styles that fields give, all of them. -/
def ofFields? (fields : Fields) : Option Style :=
  if fields.length == StyleName.all.length && StyleName.all.all fun name => fields.has name.key then
    some (StyleName.all.foldl (fun s name => s.set name (fields.getD name.key .null)) {})
  else none

end Style

structure Operation where
  name : String
  arguments : List Value

def Value.items? : Value → Option (List Value)
  | .list items => some items
  | .tuple items => some items
  | _ => none

/-- The operation that a pair of a name and arguments stands for. -/
def Operation.ofValue? (v : Value) : Option Operation :=
  match v.items? with
  | some [.str name, arguments] => arguments.items?.map fun items => ⟨name, items⟩
  | _ => none

/-- The saved styles that a value stands for. -/
def Style.ofValue? : Value → Option Style
  | .object fields => Style.ofFields? fields
  | _ => none

structure Canvas where
  width : Value := .int 400
  height : Value := .int 400
  style : Style := {}
  /-- Saved styles, last first. -/
  saved : List Style := []
  recorded : Trail Operation := {}
  /-- Attributes that mean nothing to the canvas. They hide operations of the same name. -/
  notes : Fields := []

namespace Canvas

def kindName : String := Handle.canvas.kindName

def operations (c : Canvas) : List Operation :=
  c.recorded.toList

def record (c : Canvas) (name : String) (arguments : List Value) : Canvas :=
  { c with recorded := c.recorded.push ⟨name, arguments⟩ }

/-- Set a style. This is recorded. -/
def setStyle (c : Canvas) (name : StyleName) (v : Value) : Canvas :=
  { c.record "set" [.str name.key, v] with style := c.style.set name v }

/-- Keep an attribute that means nothing to the canvas. -/
def note (c : Canvas) (name : String) (v : Value) : Canvas :=
  { c with notes := Fields.set name v c.notes }

/-- Keep no attribute of a name. -/
def unnote (c : Canvas) (name : String) : Canvas :=
  { c with notes := c.notes.filter fun f => f.1 != name }

def setOperations (c : Canvas) (v : Value) : Canvas :=
  match v.items?.bind fun items => items.mapM Operation.ofValue? with
  | some operations => { c.unnote "operations" with recorded := .ofList operations }
  | none => c.note "operations" v

/-- Replace the saved styles, given oldest first. -/
def setSaved (c : Canvas) (v : Value) : Canvas :=
  match v.items?.bind fun items => items.mapM Style.ofValue? with
  | some styles => { c.unnote "_style_stack" with saved := styles.reverse }
  | none => c.note "_style_stack" v

def set (c : Canvas) (name : String) (v : Value) : Canvas :=
  match StyleName.ofKey? name with
  | some style => c.setStyle style v
  | none =>
    match name with
    | "width" => { c with width := v }
    | "height" => { c with height := v }
    | "operations" => c.setOperations v
    | "_style_stack" => c.setSaved v
    | name => c.note name v

def save (c : Canvas) : Canvas :=
  { c.record "save" [] with saved := c.style :: c.saved }

/-- Bring back the styles of the last save that was not brought back yet. -/
def restore (c : Canvas) : Canvas :=
  match c.saved with
  | style :: rest => { c.record "restore" [] with style := style, saved := rest }
  | [] => c.record "restore" []

/-- Forget what was recorded and all styles. -/
def reset (c : Canvas) : Canvas :=
  { c with recorded := .empty, saved := [], style := {} }

/-- The arguments of every recorded operation of a name, in order. -/
def calls (c : Canvas) (name : Value) : List (List Value) :=
  c.operations.filterMap fun op => if name.isText op.name then some op.arguments else none

/-- The operations that are recorded as they are called. -/
def plainOperations : List Signature :=
  [⟨kindName, "begin_path", [], 0⟩, ⟨kindName, "move_to", ["x", "y"], 0⟩,
    ⟨kindName, "line_to", ["x", "y"], 0⟩, ⟨kindName, "stroke", [], 0⟩, ⟨kindName, "fill", [], 0⟩,
    ⟨kindName, "arc", ["x", "y", "radius", "start_angle", "end_angle"], 0⟩,
    ⟨kindName, "rect", ["x", "y", "width", "height"], 0⟩,
    ⟨kindName, "clear_rect", ["x", "y", "width", "height"], 0⟩]

/-- The operations that do more than being recorded. -/
def otherOperations : List Signature :=
  [⟨kindName, "fill_text", ["text", "x", "y"], 0⟩, ⟨kindName, "save", [], 0⟩,
    ⟨kindName, "restore", [], 0⟩, ⟨kindName, "calls", ["name"], 0⟩, ⟨kindName, "reset", [], 0⟩]

/-- What an operation that is not plain does. -/
def perform (c : Canvas) (name : String) (arguments : List Value) :
    Except Fault (Value × Canvas) :=
  match name, arguments with
  | "fill_text", text :: position => do
    let text ← text.text
    .ok (.null, c.record name (.str text :: position))
  | "save", _ => .ok (.null, c.save)
  | "restore", _ => .ok (.null, c.restore)
  | "calls", [op] => .ok (.list ((c.calls op).map .tuple), c)
  | "reset", _ => .ok (.null, c.reset)
  | _, _ => .error (.noAttribute kindName name)

/-- The operation that records any other, whose name is its first argument. -/
def recording : String := "_record"

/-- Record the operation that the arguments name. -/
def recordAny (c : Canvas) (name : String) (arguments : List Value) :
    Except Fault (Value × Canvas) :=
  match arguments with
  | operation :: rest =>
    if name == recording then .ok (.null, c.record operation.display rest)
    else .error (.noAttribute kindName name)
  | [] =>
    if name == recording then .error (.missingArguments (kindName ++ "." ++ name) ["name"])
    else .error (.noAttribute kindName name)

def callOperation (c : Canvas) (name : String) (arguments : List Value) :
    Except Fault (Value × Canvas) :=
  match Signature.find? plainOperations name with
  | some s => do
    s.check arguments.length
    .ok (.null, c.record name arguments)
  | none =>
    match Signature.find? otherOperations name with
    | some s => do
      s.check arguments.length
      c.perform name arguments
    | none => c.recordAny name arguments

def hasOperation (name : String) : Bool :=
  name == recording || (plainOperations ++ otherOperations).any fun s => s.name == name

def operationsValue (c : Canvas) : Value :=
  .list (c.operations.map fun op => .tuple [.str op.name, .tuple op.arguments])

/-- The saved styles as a value, oldest first. -/
def savedValue (c : Canvas) : Value :=
  .list (c.saved.reverse.map fun s => .object s.toFields)

/-- An attribute that every canvas has, if it is one. -/
def attribute? (c : Canvas) (name : String) : Option Value :=
  match StyleName.ofKey? name with
  | some style => some (c.style.get style)
  | none =>
    match name with
    | "width" => some c.width
    | "height" => some c.height
    | "operations" => some c.operationsValue
    | "_style_stack" => some c.savedValue
    | "STYLE_ATTRIBUTES" => some (.tuple (StyleName.all.map fun s => .str s.key))
    | "DEFAULT_STYLE" => some (.object (Style.toFields {}))
    | name => if hasOperation name then some (.handle (.method .canvas name)) else none

def get (c : Canvas) (name : String) : Except Fault Value :=
  match c.notes.get? name <|> c.attribute? name with
  | some v => .ok v
  | none => .error (.noAttribute kindName name)

/-- Perform an operation by its name, unless another attribute has the name. -/
def call (c : Canvas) (name : String) (arguments : List Value) :
    Except Fault (Value × Canvas) := do
  match ← c.get name with
  | .handle (.method .canvas operation) => c.callOperation operation arguments
  | v => .error (.notCallable v.kindName)

end Canvas

end Sketchflow
