import Sketchflow.Script.Machine

/-!
# What every program has

The functions and kinds that need no definition, the mathematics and chance libraries, and the
members of the objects a program works on.

* `global?` is the value of a name that the program does not bind.
* `memberOf` reads a member of a value, `itemOf` an item, `setItem` and `setMember` assign.
* `callBuiltin`, `callKind`, `callLibrary`, `callTable` perform the calls that need no program.

What is left out of these libraries fails with a fault of its own, `Fault.leftOut`.
-/

namespace Sketchflow.Script

/-! ## Names -/

/-- Functions every program has. -/
def builtins : List String :=
  ["__build_class__", "__import__", "abs", "aiter", "all", "anext", "any", "ascii", "bin",
    "breakpoint", "callable", "chr", "compile", "delattr", "dir", "divmod", "eval", "exec",
    "format", "getattr", "globals", "hasattr", "hash", "hex", "id", "input", "isinstance",
    "issubclass", "iter", "len", "locals", "max", "min", "next", "oct", "open", "ord", "pow",
    "print", "repr", "round", "setattr", "sorted", "sum", "vars"]

def kinds : List String :=
  ["bool", "bytearray", "bytes", "classmethod", "complex", "dict", "enumerate", "filter", "float",
    "frozenset", "int", "list", "map", "memoryview", "object", "property", "range", "reversed",
    "set", "slice", "staticmethod", "str", "super", "tuple", "type", "zip"]

def failures : List String :=
  ["ArithmeticError", "AssertionError", "AttributeError", "BaseException", "BaseExceptionGroup",
    "BlockingIOError", "BrokenPipeError", "BufferError", "BytesWarning", "ChildProcessError",
    "ConnectionAbortedError", "ConnectionError", "ConnectionRefusedError", "ConnectionResetError",
    "DeprecationWarning", "EOFError", "EncodingWarning", "EnvironmentError", "Exception",
    "ExceptionGroup", "FileExistsError", "FileNotFoundError", "FloatingPointError",
    "FutureWarning", "GeneratorExit", "IOError", "ImportError", "ImportWarning",
    "IndentationError", "IndexError", "InterruptedError", "IsADirectoryError", "KeyError",
    "KeyboardInterrupt", "LookupError", "MemoryError", "ModuleNotFoundError", "NameError",
    "NotADirectoryError", "NotImplementedError", "OSError", "OverflowError",
    "PendingDeprecationWarning", "PermissionError", "ProcessLookupError", "RecursionError",
    "ReferenceError", "ResourceWarning", "RuntimeError", "RuntimeWarning", "StopAsyncIteration",
    "StopIteration", "SyntaxError", "SyntaxWarning", "SystemError", "SystemExit", "TabError",
    "TimeoutError", "TypeError", "UnboundLocalError", "UnicodeDecodeError", "UnicodeEncodeError",
    "UnicodeError", "UnicodeTranslateError", "UnicodeWarning", "UserWarning", "ValueError",
    "Warning", "ZeroDivisionError"]

def programName : String := "nodecanvas_program"

/-- Other things every program has. -/
def givens : List (String × Value) :=
  [("False", .bool false), ("None", .null), ("True", .bool true), ("__name__", .str "builtins"),
    ("__package__", .str ""), ("__debug__", .bool true),
    ("__spec__", .handle (.thing "ModuleSpec")), ("__loader__", .handle (.kind "BuiltinImporter")),
    ("__builtins__", .handle (.thing "dict")), (programName, .handle .program),
    ("Ellipsis", .handle (.thing "ellipsis")),
    ("NotImplemented", .handle (.thing "NotImplementedType")), ("exit", .handle (.thing "Quitter")),
    ("quit", .handle (.thing "Quitter")), ("help", .handle (.thing "_Helper")),
    ("copyright", .handle (.thing "_Printer")), ("credits", .handle (.thing "_Printer")),
    ("license", .handle (.thing "_Printer"))]

/-- The value of a name that the program does not bind. -/
def global? (name : String) : Option Value :=
  if builtins.contains name then some (.handle (.builtin name))
  else if kinds.contains name || failures.contains name then some (.handle (.kind name))
  else givens.lookup name

/-! ## Members and items -/

/-- The members of the mathematics library that are numbers. -/
def constants : List (String × Value) :=
  [("pi", .float 3.141592653589793), ("e", .float 2.718281828459045),
    ("tau", .float 6.283185307179586), ("inf", .float (1.0 / 0.0)), ("nan", .nan 0)]

/-- The members of the mathematics library that are functions. -/
def mathFunctions : List String :=
  ["acos", "acosh", "asin", "asinh", "atan", "atan2", "atanh", "cbrt", "ceil", "comb", "copysign",
    "cos", "cosh", "degrees", "dist", "erf", "erfc", "exp", "exp2", "expm1", "fabs", "factorial",
    "floor", "fmod", "frexp", "fsum", "gamma", "gcd", "hypot", "isclose", "isfinite", "isinf",
    "isnan", "isqrt", "lcm", "ldexp", "lgamma", "log", "log10", "log1p", "log2", "modf",
    "nextafter", "perm", "pow", "prod", "radians", "remainder", "sin", "sinh", "sqrt", "tan",
    "tanh", "trunc", "ulp"]

def chanceFunctions : List String :=
  ["betavariate", "choice", "choices", "expovariate", "gammavariate", "gauss", "getrandbits",
    "getstate", "lognormvariate", "normalvariate", "paretovariate", "randbytes", "randint",
    "random", "randrange", "sample", "seed", "setstate", "shuffle", "triangular", "uniform",
    "vonmisesvariate", "weibullvariate"]

def tableFunctions : List String :=
  ["clear", "copy", "fromkeys", "get", "items", "keys", "pop", "popitem", "setdefault", "update",
    "values"]

def libraryMember (library name : String) : Except Fault Value :=
  let functions := if library == "math" then mathFunctions else chanceFunctions
  match if library == "math" then constants.lookup name else none with
  | some x => .ok x
  | none =>
    if functions.contains name then .ok (.handle (.method (.library library) name))
    else .error (.noMember library name)

def memberOf (m : Machine) (owner : Value) (name : String) : Except Fault Value :=
  match owner with
  | .handle .canvas => m.canvas.get name
  | .handle .host => m.host.get name
  | .handle (.library library) => libraryMember library name
  | .handle (.table t) =>
    if tableFunctions.contains name then .ok (.handle (.method (.table t) name))
    else .error (.noAttribute owner.kindName name)
  | .handle (.kind kind) => .error (.noKindAttribute kind name)
  | .handle (.method .canvas _) => .error (.noAttribute Handle.program.kindName name)
  | .handle (.method .host _) => .error (.noAttribute Handle.program.kindName name)
  | _ => .error (.noAttribute owner.kindName name)

/-- The item at a position, counted from the end if it is negative. -/
def atPosition {α : Type} (items : List α) (i : Int) : Option α :=
  if 0 ≤ i then items[i.toNat]?
  else if i.natAbs ≤ items.length then items[items.length - i.natAbs]?
  else none

def sequenceItem {α : Type} (kind noun : String) (items : List α) (wrap : α → Value)
    (index : Value) : Except Fault Value :=
  match index.toIndex with
  | .error _ => .error (.notPosition kind index.kindName)
  | .ok i =>
    if !Value.isCount i then .error .farIndex
    else
      match atPosition items i with
      | some a => .ok (wrap a)
      | none => .error (.outOfRange noun)

/-- An item of the numbers below a count. -/
def rangeItem (count : Nat) (index : Value) : Except Fault Value :=
  match index.toIndex with
  | .error _ => .error (.notPosition "range" index.kindName)
  | .ok i =>
    let i := if i < 0 then i + count else i
    if 0 ≤ i && i < count then .ok (.int i) else .error (.outOfRange "range object")

def fieldItem (fields : Fields) (index : Value) : Except Fault Value := do
  index.checkKey
  match index with
  | .str name =>
    match fields.get? name with
    | some v => .ok v
    | none => .error (.missingKey index)
  | index => .error (.missingKey index)

def itemOf (m : Machine) (owner index : Value) : Except Fault Value :=
  match owner with
  | .handle (.table t) => do
    index.checkKey
    match Entries.value? (m.table t) index with
    | some v => .ok v
    | none => .error (.missingKey index)
  | .str s => sequenceItem "str" "string" s.toList (fun c => .str (String.singleton c)) index
  | .list items => sequenceItem "list" "list" items id index
  | .tuple items => sequenceItem "tuple" "tuple" items id index
  | .object fields => fieldItem fields index
  | .handle (.range count) => rangeItem count index
  | .handle (.kind kind) => .error (.kindNotSubscriptable kind)
  | _ => .error (.notSubscriptable owner.kindName)

def setItem (m : Machine) (owner index v : Value) : Except Fault Machine :=
  match owner with
  | .handle (.table t) => do
    index.checkKey
    .ok (m.setTable t (Entries.put index v (m.table t)))
  | _ => .error (.notItemAssignable owner.kindName)

def setMember (m : Machine) (owner : Value) (name : String) (v : Value) : Except Fault Machine :=
  match owner with
  | .handle .canvas => .ok { m with canvas := m.canvas.set name v }
  | .handle .host =>
    if name == "mouse_x" then .ok { m with host := { m.host with mouseX := v } }
    else if name == "mouse_y" then .ok { m with host := { m.host with mouseY := v } }
    else .error (.leftOut ("runtime." ++ name))
  | _ => .error (.noAttribute owner.kindName name)

/-! ## Questions about values -/

def isTrueIn (m : Machine) (v : Value) : Bool :=
  match v with
  | .handle (.table t) => !(m.table t).isEmpty
  | .handle (.range count) => 0 < count
  | v => v.isTrue

def isInIn (m : Machine) (item container : Value) : Except Fault Bool :=
  match container with
  | .handle (.table t) => do
    item.checkKey
    .ok (Entries.hasKey (m.table t) item)
  | .handle (.range count) => .ok ((List.range count).any fun i => item.hasId i)
  | _ => item.isIn container

/-- Whether two values are one and the same. -/
def identical : Value → Value → Bool
  | .null, .null => true
  | .bool a, .bool b => a == b
  | .int i, .int j => i == j
  | .str s, .str t => s == t
  | .nan m, .nan n => m == n
  | .handle g, .handle h => g == h
  | _, _ => false

/-- Whether a value is of a kind; booleans are integers too. -/
def isOfKind (v : Value) (kind : String) : Bool :=
  v.kindName == kind || (kind == "int" && v.kindName == "bool") || kind == "object"

/-! ## Calls -/

/-- Whether a value is of one of the kinds that another value lists. -/
def isInstance (v kinds : Value) : Except Fault Bool :=
  match kinds with
  | .handle (.kind kind) => .ok (isOfKind v kind)
  | .tuple kinds => .ok (kinds.any fun k =>
    match k with
    | .handle (.kind kind) => isOfKind v kind
    | _ => false)
  | _ => .error .notKinds

/-- How many items a value has. -/
def lengthIn (m : Machine) (v : Value) : Except Fault Nat :=
  match v with
  | .handle (.table t) => .ok (m.table t).length
  | .handle (.range count) => .ok count
  | v => v.count

def itemsIn (m : Machine) (v : Value) : Except Fault (List Value) :=
  match v with
  | .str s => .ok (s.toList.map fun c => .str (String.singleton c))
  | .list items => .ok items
  | .tuple items => .ok items
  | .object fields => .ok (fields.map fun f => .str f.1)
  | .handle (.table t) => .ok ((m.table t).map (·.1))
  | .handle (.range count) => .ok ((List.range count).map fun (i : Nat) => .int i)
  | v => .error (.notIterable v.kindName)

/-- The first item that no later item beats. -/
def extreme (op : Value.Order) (best : Value) : List Value → Except Fault Value
  | [] => .ok best
  | v :: rest => do extreme op (if ← v.ordered op best then v else best) rest

/-- The largest or smallest of several arguments, or of the items of one. -/
def extremeOf (m : Machine) (name : String) (op : Value.Order) (arguments : List Value) :
    Except Fault Value :=
  match arguments with
  | [] => .error (.atLeast name 1 0)
  | [v] => do
    match ← itemsIn m v with
    | [] => .error (.noItems name)
    | first :: rest => extreme op first rest
  | first :: rest => extreme op first rest

/-- A value rounded, to an integer or to a number of places. -/
def roundOf (arguments : List Value) : Except Fault Value :=
  match arguments with
  | [v] => v.rounded
  | [v, .null] => v.rounded
  | [v, places] =>
    match v.number? with
    | none => .error (.noRounding v.kindName)
    | some _ => do v.roundedTo (← places.toIndex)
  | [] => .error (.withoutFirst "round" "number")
  | arguments => .error (.beyond "round" 2 arguments.length)

/-- A function every program has. -/
def builtinValue (m : Machine) (name : String) (arguments : List Value) : Except Fault Value :=
  match name, arguments with
  | "abs", [v] => v.magnitude
  | "abs", arguments => .error (.exactlyOne "abs" arguments.length)
  | "len", [v] => (lengthIn m v).map fun n => .int n
  | "len", arguments => .error (.exactlyOne "len" arguments.length)
  | "max", arguments => extremeOf m "max" .gt arguments
  | "min", arguments => extremeOf m "min" .lt arguments
  | "round", arguments => roundOf arguments
  | "isinstance", [v, kinds] => (isInstance v kinds).map .bool
  | "isinstance", arguments => .error (.exactly "isinstance" 2 arguments.length)
  | "repr", [v] => (m.showValue v).map .str
  | "repr", arguments => .error (.exactlyOne "repr" arguments.length)
  | name, _ => .error (.leftOut name)

def textsIn (m : Machine) : List Value → Except Fault (List String)
  | [] => .ok []
  | v :: rest => do
    let text ← m.textOf v
    .ok (text :: (← textsIn m rest))

/-- Print values with blanks between them. -/
def printAll (arguments : List Value) : Eval Value := do
  let m ← get
  let texts ← fromExcept (textsIn m arguments)
  set { m with output := m.output.push (Text.joinWith " " texts ++ "\n") }
  return .null

/-- Call a function every program has. -/
def callBuiltin (name : String) (arguments : List Value) : Eval Value := do
  if name == "print" then printAll arguments
  else fromExcept (builtinValue (← get) name arguments)

/-- The kind of an argument as messages of argument checks spell it. -/
def argumentKind (v : Value) : String :=
  if v.isNull then "None" else v.kindName

/-- The text of a value decoded by the arguments that follow it. No value can be. -/
def decoded (v : Value) : List (String × Value) → Except Fault Value
  | [] => .error (.notDecoded v.kindName)
  | (_, .str _) :: rest => decoded v rest
  | (parameter, other) :: _ => .error (.notDecoding parameter (argumentKind other))

/-- Call a kind, which converts. -/
def kindValue (m : Machine) (name : String) (arguments : List Value) : Except Fault Value :=
  match name, arguments with
  | "int", [] => .ok (.int 0)
  | "int", [v] => v.toInt
  | "int", [v, base] => v.toIntIn base
  | "int", arguments => .error (.beyond "int" 2 arguments.length)
  | "float", [] => .ok (.float 0.0)
  | "float", [v] => v.toFloat
  | "float", arguments => .error (.atMost "float" 1 arguments.length)
  | "str", [] => .ok (.str "")
  | "str", [v] => (m.textOf v).map .str
  | "str", [v, encoding] => decoded v [("encoding", encoding)]
  | "str", [v, encoding, errors] => decoded v [("encoding", encoding), ("errors", errors)]
  | "str", arguments => .error (.beyond "str" 3 arguments.length)
  | "bool", [] => .ok (.bool false)
  | "bool", [v] => .ok (.bool (isTrueIn m v))
  | "bool", arguments => .error (.atMost "bool" 1 arguments.length)
  | "range", [v] => v.toIndex.map fun n => .handle (.range n.toNat)
  | "range", [] => .error (.atLeast "range" 1 0)
  | name, _ => .error (.leftOut name)

def callKind (name : String) (arguments : List Value) : Eval Value := do
  fromExcept (kindValue (← get) name arguments)

def squareRoot (v : Value) : Except Fault Value := do
  let x ← v.toReal
  if x < 0.0 then .error .mathDomain else .ok (.float x.sqrt)

/-- A function of the mathematics library. -/
def mathValue (name : String) (arguments : List Value) : Except Fault Value :=
  match name, arguments with
  | "floor", [v] => v.toIntegerBy Number.floorRatio
  | "ceil", [v] => v.toIntegerBy Number.ceilRatio
  | "trunc", [v] => v.toIntegerBy Number.truncRatio
  | "sqrt", [v] => squareRoot v
  | "fabs", [v] => v.toReal.map fun x => .float x.abs
  | name, arguments =>
    .error (if ["floor", "ceil", "trunc", "sqrt", "fabs"].contains name then
      .exactlyOne ("math." ++ name) arguments.length else .leftOut ("math." ++ name))

def callLibrary (library name : String) (arguments : List Value) : Eval Value := do
  if library == "random" && name == "random" then
    if !arguments.isEmpty then throw (.noneTaken "Random.random" arguments.length)
    let m ← get
    let (x, chance) := m.chance.draw
    set { m with chance }
    return .float x
  else if library == "math" then fromExcept (mathValue name arguments)
  else throw (.leftOut (library ++ "." ++ name))

def tableGet (entries : Entries) (key default : Value) : Except Fault Value := do
  key.checkKey
  .ok ((Entries.value? entries key).getD default)

def callTable (t : Table) (name : String) (arguments : List Value) : Eval Value := do
  let entries := (← get).table t
  match name, arguments with
  | "get", [key] => fromExcept (tableGet entries key .null)
  | "get", [key, default] => fromExcept (tableGet entries key default)
  | "get", [] => throw (.atLeast "get" 1 0)
  | "get", arguments => throw (.atMost "get" 2 arguments.length)
  | name, _ => throw (.leftOut name)

/-- The kinds of other things that can be called. -/
def callables : List String := ["Quitter", "_Helper", "_Printer"]

/-- Call another thing: it ends everything, or what it does is left out. -/
def thingValue (kind : String) (arguments : List Value) : Except Fault Value :=
  match kind, arguments with
  | "Quitter", [] => .error (.exit .null)
  | "Quitter", [code] => .error (.exit code)
  | "Quitter", arguments =>
    .error (.tooManyArguments "Quitter.__call__" 1 2 (arguments.length + 1))
  | kind, _ => .error (if callables.contains kind then .leftOut kind else .notCallable kind)

/-- The operations of the canvas and the host that take their first argument as a text. -/
def textOperations : List String :=
  ["fill_text", "register_key_press", "is_key_pressed", "press_key", "release_key", "play_sound",
    "warn", "log"]

/-- The arguments of an operation, with a table written out where a text is taken. -/
def spelled (m : Machine) (name : String) (arguments : List Value) : Except Fault (List Value) :=
  match arguments with
  | .handle (.table t) :: rest =>
    if textOperations.contains name then
      (m.textOf (.handle (.table t))).map fun s => .str s :: rest
    else .ok arguments
  | arguments => .ok arguments

def callCanvas (name : String) (arguments : List Value) : Eval Value := do
  let m ← get
  let arguments ← fromExcept (spelled m name arguments)
  match m.canvas.call name arguments with
  | .ok (v, canvas) => set { m with canvas }; return v
  | .error f => throw f

end Sketchflow.Script
