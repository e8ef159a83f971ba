import Sketchflow.Number.Complex

/-!
# Values

The one dynamic type of the project: what a document holds and what a running program computes
with. Documents use the first seven kinds only; a program also has tuples, complex numbers and
handles on things that live in the host.

* `Value.kindName` is the name of a value's kind as messages spell it.
* `Value.isTrue` is the test that conditions make.
* `Fields` are the members of an object, in order, each name once.
-/

namespace Sketchflow

/-- The tables a program works on. -/
inductive Table where
  /-- Named variables. -/
  | vars
  /-- The functions the program defines, by name. -/
  | functions
  /-- The handles the program gives its host to start and stop it. -/
  | controls
  /-- The state of the frame loop. -/
  | loop
  deriving Repr, DecidableEq, Inhabited

/-- Things a program can name but not take apart. -/
inductive Handle where
  | canvas
  | host
  | table (which : Table)
  /-- The program itself, which is a function. -/
  | program
  /-- A function the program defines, by the order of definition. -/
  | function (index : Nat)
  /-- An operation of the canvas, of the host, or of a table. -/
  | method (owner : Handle) (name : String)
  /-- A function every program has. -/
  | builtin (name : String)
  | kind (name : String)
  | library (name : String)
  /-- The numbers below a count, in order. -/
  | range (count : Nat)
  /-- Anything else, known by its kind only. -/
  | thing (sort : String)
  deriving Repr, DecidableEq, Inhabited

inductive Value where
  | null
  | bool (b : Bool)
  | int (i : Int)
  | float (x : Float)
  | str (s : String)
  | list (items : List Value)
  | object (fields : List (String × Value))
  | tuple (items : List Value)
  | complex (z : Number.Complex)
  /-- A not-a-number that a program computed. Each is the same as itself only. -/
  | nan (mark : Nat)
  | handle (h : Handle)
  deriving Repr, Inhabited

/-- The members of an object. -/
abbrev Fields := List (String × Value)

namespace Fields

def get? (fields : Fields) (name : String) : Option Value :=
  (fields.find? fun f => f.1 == name).map (·.2)

def getD (fields : Fields) (name : String) (default : Value) : Value :=
  (fields.get? name).getD default

def has (fields : Fields) (name : String) : Bool :=
  fields.any fun f => f.1 == name

/-- Write a field: in its place if it is there, at the end otherwise. -/
def set (name : String) (value : Value) : Fields → Fields
  | [] => [(name, value)]
  | f :: rest => if f.1 == name then (name, value) :: rest else f :: set name value rest

/-- Write a list of fields one after the other. -/
def update (fields more : Fields) : Fields :=
  more.foldl (fun acc f => set f.1 f.2 acc) fields

end Fields

def Handle.kindName : Handle → String
  | .canvas => "RecordingContext"
  | .host => "HostRuntime"
  | .table _ => "dict"
  | .program => "function"
  | .function _ => "function"
  | .method .canvas _ => "method"
  | .method .host _ => "method"
  | .method _ _ => "builtin_function_or_method"
  | .builtin _ => "builtin_function_or_method"
  | .kind _ => "type"
  | .library _ => "module"
  | .range _ => "range"
  | .thing sort => sort

def Value.kindName : Value → String
  | .null => "NoneType"
  | .bool _ => "bool"
  | .int _ => "int"
  | .float _ => "float"
  | .str _ => "str"
  | .list _ => "list"
  | .object _ => "dict"
  | .tuple _ => "tuple"
  | .complex _ => "complex"
  | .nan _ => "float"
  | .handle h => h.kindName

/-- Whether a value counts as true: not null, not zero, not empty. -/
def Value.isTrue : Value → Bool
  | .null => false
  | .bool b => b
  | .int i => i != 0
  | .float x => x != 0.0
  | .str s => s != ""
  | .list items => !items.isEmpty
  | .object fields => !fields.isEmpty
  | .tuple items => !items.isEmpty
  | .complex z => !z.isZero
  | .nan _ => true
  | .handle _ => true

def Value.isNull : Value → Bool
  | .null => true
  | _ => false

/-- An integer or a double, not a boolean. -/
def Value.isNumber : Value → Bool
  | .int _ => true
  | .float _ => true
  | .nan _ => true
  | _ => false

/-- Null, a boolean, a number or a text. -/
def Value.isScalar : Value → Bool
  | .null => true
  | .bool _ => true
  | .int _ => true
  | .float _ => true
  | .nan _ => true
  | .str _ => true
  | _ => false

end Sketchflow
