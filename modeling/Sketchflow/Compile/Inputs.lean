import Sketchflow.Compile.Literal
import Sketchflow.Graph.Basic

/-!
# Inputs as expressions

Every data input of a node becomes an expression of the program. An input that a wire enters is
computed by the node at the other end, if that is a node that computes; any other input is its
default.

* `Source` are the nodes that compute, and what they ask of their own inputs.
* `resolve` is the text of an input. Each input is resolved once a run (`Context.memo`), and an
  input that depends on itself is a gap: it reads as nothing and leaves a note.
-/

namespace Sketchflow.Compile

/-- Why a graph has no program. -/
inductive Obstacle where
  /-- A node lacks an input that its step needs. -/
  | missingInput (name : String)
  /-- An input is of a type that cannot be looked up. -/
  | badType (b : BadType)

abbrev Key := Int × String

/-- What is known and what is going on during a compilation. -/
structure Context where
  /-- The inputs already resolved. -/
  memo : List (Key × String) := []
  resolving : List Key := []
  /-- The functions already defined. -/
  defined : List Int := []
  /-- The nodes whose steps are being written. -/
  emitting : List Int := []
  /-- Notes not written yet. -/
  notes : List String := []
  /-- How many gaps were found. -/
  gaps : Nat := 0

abbrev Run := StateT Context (Except Obstacle)

def noteGap (note : String) : Run Unit :=
  modify fun c => { c with notes := c.notes ++ [note], gaps := c.gaps + 1 }

/-- The notes not written yet, which count as written from now on. -/
def drainNotes : Run (List String) :=
  modifyGet fun c => (c.notes, { c with notes := [] })

/-! ## Sources -/

/-- The nodes that compute a value. -/
inductive Source where
  | namedValue
  | number
  | text
  | random
  | mouseX
  | mouseY
  | keyDown
  | quotient
  | negation
  /-- An operator between two operands. -/
  | operator (sign : String)
  deriving Repr, DecidableEq

/-- The types of the nodes that compute. -/
def sources : List (String × Source) :=
  [("getVariable", .namedValue), ("number", .number), ("string", .text), ("color", .text),
    ("randomNumber", .random), ("getMouseX", .mouseX), ("getMouseY", .mouseY),
    ("isKeyPressed", .keyDown), ("divide", .quotient), ("not", .negation),
    ("add", .operator "+"), ("subtract", .operator "-"), ("multiply", .operator "*"),
    ("lessThan", .operator "<"), ("equalTo", .operator "=="), ("greaterThan", .operator ">"),
    ("and", .operator "and"), ("or", .operator "or")]

/-- What a node of a type computes. -/
def source? (type : String) : Option Source :=
  sources.lookup type

/-- The inputs a source asks for, in the order it asks. -/
def Source.asks : Source → List String
  | .namedValue => ["name"]
  | .random => ["min", "max"]
  | .keyDown => ["key"]
  | .quotient => ["a", "b"]
  | .negation => ["a"]
  | .operator _ => ["a", "b"]
  | _ => []

/-- The text of a number node: its property `value`, which may be a number written as a text. -/
def numberNodeText (n : Node) : String :=
  match n.properties.getD "value" (.int 0) with
  | .str s => literal ((parseNumber? s).getD (.str s))
  | .null => literal (.int 0)
  | v => literal v

/-- The text of a text node: its property `value` as a text. -/
def textNodeText (n : Node) : String :=
  match n.properties.getD "value" .null with
  | .null => Json.literal ""
  | v => Json.literal v.display

/-- The expression of a source, given the texts of the inputs it asks for. -/
def Source.expression (s : Source) (n : Node) (inputs : List String) : String :=
  match s, inputs with
  | .namedValue, [name] => s!"variables.get({name})"
  | .number, _ => numberNodeText n
  | .text, _ => textNodeText n
  | .random, [low, high] =>
    s!"(math.floor(random.random() * (({high}) - ({low}) + 1)) + ({low}))"
  | .mouseX, _ => "(runtime.mouse_x if runtime.mouse_x is not None else ctx.width / 2)"
  | .mouseY, _ => "(runtime.mouse_y if runtime.mouse_y is not None else ctx.height / 2)"
  | .keyDown, [key] => s!"runtime.is_key_pressed({key})"
  | .quotient, [a, b] => s!"(({a}) / (({b}) or 1))"
  | .negation, [a] => s!"(not ({a}))"
  | .operator sign, [a, b] => s!"(({a}) {sign} ({b}))"
  | _, _ => "None"

/-! ## Resolving -/

/-- A node and one of its inputs as notes name them. -/
def inputName (n : Node) (input : String) : String :=
  s!"{n.type} (ID {n.id}).{input}"

/-- The text of an input that no source feeds. -/
def defaultOf (n : Node) (input : String) : Run String := do
  match n.input? input with
  | none =>
    noteGap ("Error: input " ++ Text.quote input ++ s!" on {n.type} (ID {n.id}) is missing")
    return "None"
  | some p =>
    match defaultText p.default p.dataType with
    | .ok text => return text
    | .error b => throw (.badType b)

def resolveAll (resolve : Node → String → Run String) (n : Node) : List String → Run (List String)
  | [] => return []
  | input :: rest => do
    let text ← resolve n input
    return text :: (← resolveAll resolve n rest)

/-- The text of an input that is not known yet. -/
def resolveFresh (g : Graph) (resolve : Node → String → Run String) (n : Node) (input : String) :
    Run String := do
  match g.wireInto? (.int n.id) (.str input) with
  | none => defaultOf n input
  | some w =>
    match g.node? (.int w.fromNode) with
    | none =>
      noteGap (s!"Error: source node {w.fromNode} for " ++ inputName n input ++ " is missing")
      return "None"
    | some source =>
      match source? source.type with
      | none => defaultOf n input
      | some s => return s.expression source (← resolveAll resolve source s.asks)

/-- The text of an input. The bound is on inputs that depend on each other; an input that is being
resolved is not resolved again. -/
def resolveWithin (g : Graph) : Nat → Node → String → Run String
  | 0, _, _ => return "None"
  | bound + 1, n, input => do
    let key : Key := (n.id, input)
    let c ← get
    match c.memo.lookup key with
    | some text => return text
    | none =>
      if c.resolving.contains key then
        noteGap ("Error: data cycle through " ++ inputName n input)
        return "None"
      else
        modify fun c => { c with resolving := key :: c.resolving }
        let text ← resolveFresh g (resolveWithin g bound) n input
        modify fun c =>
          { c with resolving := c.resolving.erase key, memo := c.memo ++ [(key, text)] }
        return text

def askedNames : List String := ["name", "min", "max", "key", "a", "b"]

/-- How many inputs can depend on each other: those that sources ask for, and the first. -/
def dependencyBound (g : Graph) : Nat :=
  g.nodes.length * askedNames.length + 2

def resolve (g : Graph) (n : Node) (input : String) : Run String :=
  resolveWithin g (dependencyBound g) n input

end Sketchflow.Compile
