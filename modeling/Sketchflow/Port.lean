import Sketchflow.Malformed
import Sketchflow.Value.Compare

/-!
# Ports

A port is a connection point of a node. Flow ports order the steps of a program, data ports carry
values. Documents may hold kinds and data types this library does not know; they are kept as they
are.

* `Port.accepts` says when two ports fit together.
* `Port.toDoc`, `Port.ofDoc` write and read the document of a port.
-/

namespace Sketchflow

/-- What passes through a port. -/
inductive PortKind where
  /-- The order of steps. -/
  | flow
  | data
  /-- Something unknown. -/
  | other (v : Value)
  deriving Inhabited

namespace PortKind

/-- The kind as documents write it. -/
def toDoc : PortKind → Value
  | .flow => .str "exec"
  | .data => .str "data"
  | .other v => v

/-- The kind a document means. -/
def ofDoc (v : Value) : PortKind :=
  if v.isText "exec" then .flow else if v.isText "data" then .data else .other v

/-- Whether two kinds are equal. -/
def same (a b : PortKind) : Bool :=
  a.toDoc.same b.toDoc

/-- Whether steps pass through. -/
def isFlow : PortKind → Bool
  | .flow => true
  | _ => false

/-- Whether values pass through. -/
def isData : PortKind → Bool
  | .data => true
  | _ => false

end PortKind

/-- The declared type of the values at a port. -/
inductive DataType where
  | number
  | text
  | boolean
  | color
  /-- Written code. -/
  | expression
  | any
  /-- The type declared at flow ports. -/
  | flow
  /-- Something unknown. -/
  | other (v : Value)
  deriving Inhabited

namespace DataType

/-- The types that have a name. -/
def named : List (String × DataType) :=
  [("number", .number), ("string", .text), ("boolean", .boolean), ("color", .color),
    ("expression", .expression), ("any", .any), ("exec", .flow)]

/-- The type as documents write it. -/
def toDoc : DataType → Value
  | .number => .str "number"
  | .text => .str "string"
  | .boolean => .str "boolean"
  | .color => .str "color"
  | .expression => .str "expression"
  | .any => .str "any"
  | .flow => .str "exec"
  | .other v => v

/-- The type a document means. -/
def ofDoc (v : Value) : DataType :=
  match named.find? fun t => v.isText t.1 with
  | some (_, t) => t
  | none => .other v

/-- Whether two types are equal. -/
def same (a b : DataType) : Bool :=
  a.toDoc.same b.toDoc

def isAny : DataType → Bool
  | .any => true
  | _ => false

end DataType

/-- A connection point. Null as the default means that there is none. -/
structure Port where
  id : String
  name : Value := .str ""
  kind : PortKind := .data
  dataType : DataType := .any
  default : Value := .null
  deriving Inhabited

namespace Port

/-- Whether steps pass through. -/
def isFlow (p : Port) : Bool := p.kind.isFlow

/-- Whether two ports fit together: the same kind, and on data ports the same type or one side
that takes any. -/
def accepts (a b : Port) : Bool :=
  a.kind.same b.kind
    && (!a.kind.isData || a.dataType.isAny || b.dataType.isAny || a.dataType.same b.dataType)

def toDoc (p : Port) : Value :=
  .object <| [("id", .str p.id), ("name", p.name), ("portType", p.kind.toDoc),
    ("dataType", p.dataType.toDoc)] ++ (if p.default.isNull then [] else [("default", p.default)])

/-- The port a list of fields describes; `id` is its identifier. -/
def ofFields (id : Value) (fields : Fields) : Port where
  id := id.display
  name := fields.getD "name" (.str "")
  kind := .ofDoc (fields.getD "portType" (.str "data"))
  dataType := .ofDoc (fields.getD "dataType" (.str "any"))
  default := fields.getD "default" .null

/-- The port a document describes. -/
def ofDoc (doc : Value) : Except Malformed Port :=
  match doc with
  | .object fields =>
    match Fields.get? fields "id" with
    | some id => .ok (ofFields id fields)
    | none => .error (.port doc)
  | _ => .error (.port doc)

/-- The ports of a saved list. Entries without a text as their identifier are left out. -/
def listOfDoc (doc : Value) : List Port :=
  match doc with
  | .list entries => entries.filterMap fun entry =>
    match entry with
    | .object fields =>
      match Fields.get? fields "id" with
      | some (.str id) => some (ofFields (.str id) fields)
      | _ => none
    | _ => none
  | _ => []

/-- The first port of a list with this identifier. -/
def find? (ports : List Port) (id : String) : Option Port :=
  ports.find? fun p => p.id == id

/-- The first port of a list whose identifier equals a value. -/
def findValue? (ports : List Port) (id : Value) : Option Port :=
  ports.find? fun p => id.isText p.id

end Port

end Sketchflow
