import Sketchflow.Script.Placeholder

/-!
# Running programs

Expressions and statements are evaluated by recursion on their trees. Calling a value is a
parameter of the evaluation; `apply` ties the knot with a bound on calls inside each other.

* `eval` is the value of an expression, left operand first.
* `exec` performs a statement; its `Signal` tells whether the next one follows.
* `apply` calls a value.
-/

namespace Sketchflow.Script

/-! ## Names -/

/-- The value a name has where the names are `bound` to `values`. -/
def boundValue (values : Fields) (fault : String → Fault) (name : String) : Eval Value :=
  match Fields.get? values name with
  | some v => return v
  | none => throw (fault name)

/-- The value of a name: the function's own, the program's, or one every program has. -/
def lookupName (scope : Scope) (name : String) : Eval Value := do
  let m ← get
  match scope.around with
  | none =>
    if scope.own.contains name then boundValue m.names .unassigned name
    else everywhere
  | some outer =>
    if scope.own.contains name then boundValue m.locals .unassigned name
    else if outer.contains name then boundValue m.names .unassignedOuter name
    else everywhere
where
  /-- The value of a name that nothing around binds. -/
  everywhere : Eval Value :=
    match global? name with
    | some v => return v
    | none => throw (.undefined name)

def bindName (scope : Scope) (name : String) (v : Value) : Eval Unit :=
  modify fun m =>
    if scope.around.isNone then { m with names := Fields.set name v m.names }
    else { m with locals := Fields.set name v m.locals }

/-! ## Expressions -/

/-- An operator on two values; `update` tells that it stands in an update. The remainder of a text
is the text with its placeholders filled in. -/
def operate (op : Value.Operator) (update : Bool) (a b : Value) : Eval Value := do
  match op, a with
  | .remainder, .str s => fromExcept (fill (← get) s b)
  | op, a => settle (← fromExcept (Value.operate op update a b))

/-- The field that an entry of a table written out makes, if its key is a text. -/
def fieldOf? : Value × Value → Option (String × Value)
  | (.str key, v) => some (key, v)
  | _ => none

/-- A table written out, as a value: an object, if all keys are texts. -/
def tableValue (entries : Entries) : Value :=
  match entries.mapM fieldOf? with
  | some fields => .object (Fields.update [] fields)
  | none => .handle (.thing "dict")

def compareValues (m : Machine) (c : Comparison) (a b : Value) : Except Fault Bool :=
  match c with
  | .equal => .ok (m.sameValue Machine.tableBound a b)
  | .differs => .ok !(m.sameValue Machine.tableBound a b)
  | .order op => a.ordered op b
  | .member => isInIn m a b
  | .notMember => (isInIn m a b).map (!·)
  | .identical => .ok (identical a b)
  | .notIdentical => .ok !(identical a b)

mutual

def eval (call : Call) (scope : Scope) : Expr → Eval Value
  | .name s => lookupName scope s
  | .constant v => return v
  | .signed op e => do
    let v ← eval call scope e
    settle (← fromExcept (v.signed op))
  | .operate op left right => do
    let a ← eval call scope left
    let b ← eval call scope right
    operate op false a b
  | .both left right => do
    let a ← eval call scope left
    if isTrueIn (← get) a then eval call scope right else return a
  | .either left right => do
    let a ← eval call scope left
    if isTrueIn (← get) a then return a else eval call scope right
  | .negate e => do
    let v ← eval call scope e
    return .bool !(isTrueIn (← get) v)
  | .compare first rest => do
    let a ← eval call scope first
    evalChain call scope a rest
  | .choose condition yes no => do
    let c ← eval call scope condition
    if isTrueIn (← get) c then eval call scope yes else eval call scope no
  | .member owner name => do
    let v ← eval call scope owner
    fromExcept (memberOf (← get) v name)
  | .item owner index => do
    let v ← eval call scope owner
    let i ← eval call scope index
    fromExcept (itemOf (← get) v i)
  | .call callee arguments => do
    let f ← eval call scope callee
    let vs ← evalAll call scope arguments
    settle (← call f vs)
  | .tuple items => do return .tuple (← evalAll call scope items)
  | .list items => do return .list (← evalAll call scope items)
  | .table entries => do return tableValue (← evalEntries call scope entries)
  | .set items => do
    let vs ← evalAll call scope items
    fromExcept (vs.forM Value.checkKey)
    return .handle (.thing "set")
termination_by structural e => e

def evalAll (call : Call) (scope : Scope) : List Expr → Eval (List Value)
  | [] => return []
  | e :: rest => do
    let v ← eval call scope e
    return v :: (← evalAll call scope rest)
termination_by structural es => es

def evalEntries (call : Call) (scope : Scope) : List (Expr × Expr) → Eval Entries
  | [] => return []
  | (key, value) :: rest => do
    let k ← eval call scope key
    let v ← eval call scope value
    fromExcept k.checkKey
    return (k, v) :: (← evalEntries call scope rest)
termination_by structural es => es

/-- The rest of a chain of comparisons after the value on its left. -/
def evalChain (call : Call) (scope : Scope) (left : Value) :
    List (Comparison × Expr) → Eval Value
  | [] => return .bool true
  | (c, e) :: rest => do
    let right ← eval call scope e
    if ← fromExcept (compareValues (← get) c left right) then evalChain call scope right rest
    else return .bool false
termination_by structural es => es

end

/-! ## Statements -/

/-- What follows a statement. -/
inductive Signal where
  | go
  /-- The loop is left. -/
  | leave
  /-- The next round of the loop. -/
  | next
  /-- The function is left with a value. -/
  | give (v : Value)

def assignTo (call : Call) (scope : Scope) (v : Value) : Target → Eval Unit
  | .name s => bindName scope s v
  | .member owner name => do
    let o ← eval call scope owner
    set (← fromExcept (setMember (← get) o name v))
  | .item owner index => do
    let o ← eval call scope owner
    let i ← eval call scope index
    set (← fromExcept (setItem (← get) o i v))

def assignAll (call : Call) (scope : Scope) (v : Value) : List Target → Eval Unit
  | [] => pure ()
  | t :: rest => do
    assignTo call scope v t
    assignAll call scope v rest

/-- Combine the value of a target with another value. -/
def updateTarget (call : Call) (scope : Scope) (op : Value.Operator) (e : Expr) :
    Target → Eval Unit
  | .name s => do
    let a ← lookupName scope s
    let b ← eval call scope e
    bindName scope s (← operate op true a b)
  | .member owner name => do
    let o ← eval call scope owner
    let a ← fromExcept (memberOf (← get) o name)
    let b ← eval call scope e
    let v ← operate op true a b
    set (← fromExcept (setMember (← get) o name v))
  | .item owner index => do
    let o ← eval call scope owner
    let i ← eval call scope index
    let a ← fromExcept (itemOf (← get) o i)
    let b ← eval call scope e
    let v ← operate op true a b
    set (← fromExcept (setItem (← get) o i v))

/-- Rounds of a loop over numbers from `i` on. -/
def countedRounds (round : Value → Eval Signal) : Nat → Nat → Eval Signal
  | 0, _ => return .go
  | count + 1, i => do
    match ← round (.int i) with
    | .leave => return .go
    | .give v => return .give v
    | _ => countedRounds round count (i + 1)

def itemRounds (round : Value → Eval Signal) : List Value → Eval Signal
  | [] => return .go
  | v :: rest => do
    match ← round v with
    | .leave => return .go
    | .give v => return .give v
    | _ => itemRounds round rest

/-- More rounds than a loop can make. -/
def roundBound : Nat := Number.ten 15

def conditionRounds (test : Eval Bool) (round : Eval Signal) : Nat → Eval Signal
  | 0 => throw .exhausted
  | bound + 1 => do
    if ← test then
      match ← round with
      | .leave => return .go
      | .give v => return .give v
      | _ => conditionRounds test round bound
    else return .go

def test (call : Call) (scope : Scope) (e : Expr) : Eval Bool := do
  let v ← eval call scope e
  return isTrueIn (← get) v

def evalParameters (call : Call) (scope : Scope) :
    List (String × Option Expr) → Eval (List (String × Option Value))
  | [] => return []
  | (name, none) :: rest => do
    return (name, none) :: (← evalParameters call scope rest)
  | (name, some e) :: rest => do
    let v ← eval call scope e
    return (name, some v) :: (← evalParameters call scope rest)

def define (call : Call) (scope : Scope) (name : String)
    (parameters : List (String × Option Expr)) (body : List Stmt) : Eval Unit := do
  let parameters ← evalParameters call scope parameters
  let inner : Scope :=
    { own := parameters.map (·.1) ++ bindsAll body, around := some (scope.around.getD scope.own) }
  let index := (← get).closures.size
  modify fun m => { m with closures := m.closures.push ⟨name, parameters, body, inner⟩ }
  bindName scope name (.handle (.function index))

/-- Give targets the value of an expression. A table written out under one of the names that
programs keep tables under becomes that table. -/
def assign (call : Call) (scope : Scope) (targets : List Target) (e : Expr) : Eval Unit := do
  match targets, e with
  | [.name s], .table entries =>
    let entries ← evalEntries call scope entries
    match tableNamed? s with
    | some t =>
      modify fun m => m.setTable t (entries.foldl (fun es e => Entries.put e.1 e.2 es) [])
      bindName scope s (.handle (.table t))
    | none => bindName scope s (tableValue entries)
  | targets, e =>
    let v ← eval call scope e
    assignAll call scope v targets

mutual

def exec (call : Call) (scope : Scope) : Stmt → Eval Signal
  | .expr e => do
    let _ ← eval call scope e
    return .go
  | .assign targets e => do
    assign call scope targets e
    return .go
  | .update target op e => do
    updateTarget call scope op e target
    return .go
  | .skip => return .go
  | .leave => return .leave
  | .next => return .next
  | .give none => return .give .null
  | .give (some e) => do return .give (← eval call scope e)
  | .load library => do
    bindName scope library (.handle (.library library))
    return .go
  | .branch condition yes no => do
    if ← test call scope condition then execAll call scope yes else execAll call scope no
  | .loop condition body =>
    conditionRounds (test call scope condition) (execAll call scope body) roundBound
  | .each name items body => do
    let v ← eval call scope items
    let round (v : Value) : Eval Signal := do
      bindName scope name v
      execAll call scope body
    match v with
    | .handle (.range count) => countedRounds round count 0
    | v => itemRounds round (← fromExcept (itemsIn (← get) v))
  | .define name parameters body => do
    define call scope name parameters body
    return .go
termination_by structural s => s

def execAll (call : Call) (scope : Scope) : List Stmt → Eval Signal
  | [] => return .go
  | s :: rest => do
    match ← exec call scope s with
    | .go => execAll call scope rest
    | signal => return signal
termination_by structural body => body

end

/-- The value of a function after its statements. -/
def Signal.result : Signal → Value
  | .give v => v
  | _ => .null

/-! ## Calls -/

/-- What messages put before the name of a program's function. -/
def functionPath : String := programName ++ ".<locals>."

def programParameters : List String := ["ctx", "variables", "runtime"]

/-- Call the program from inside it. With the right arguments this has no end. -/
def callProgram (arguments : List Value) : Except Fault Value :=
  let taken := programParameters.length
  if taken < arguments.length then
    .error (.tooManyArguments programName taken taken arguments.length)
  else if arguments.length < taken then
    .error (.missingArguments programName (programParameters.drop arguments.length))
  else .error .exhausted

/-- The names of a function's parameters with their values. -/
def Closure.bindArguments (c : Closure) (arguments : List Value) : Except Fault Fields :=
  let least := (c.parameters.filter fun p => p.2.isNone).length
  let most := c.parameters.length
  if most < arguments.length then
    .error (.tooManyArguments (functionPath ++ c.name) least most arguments.length)
  else if arguments.length < least then
    .error (.missingArguments (functionPath ++ c.name)
      (((c.parameters.take least).drop arguments.length).map (·.1)))
  else
    let given := (c.parameters.map (·.1)).zip arguments
    let rest := (c.parameters.drop arguments.length).filterMap fun p => p.2.map fun v => (p.1, v)
    .ok (given ++ rest)

/-- Call a function of the program. Its names are its own; those of the caller come back after
it. -/
def callFunction (call : Call) (index : Nat) (arguments : List Value) : Eval Value := do
  let m ← get
  match m.closures[index]? with
  | none => throw (.notCallable "function")
  | some c =>
    let own ← fromExcept (c.bindArguments arguments)
    set { m with locals := own }
    let signal ← execAll call c.scope c.body
    modify fun after => { after with locals := m.locals }
    return signal.result

/-- Call a value. The bound is on calls inside each other. -/
def apply : Nat → Call
  | 0, _, _ => throw .exhausted
  | bound + 1, callee, arguments =>
    match callee with
    | .handle .program => fromExcept (callProgram arguments)
    | .handle (.function index) => callFunction (apply bound) index arguments
    | .handle (.method .canvas name) => callCanvas name arguments
    | .handle (.method .host name) => do
      let arguments ← fromExcept (spelled (← get) name arguments)
      Host.call Machine.place (apply bound) name arguments
    | .handle (.method (.library library) name) => callLibrary library name arguments
    | .handle (.method (.table t) name) => callTable t name arguments
    | .handle (.builtin name) => callBuiltin name arguments
    | .handle (.kind name) => callKind name arguments
    | .handle (.thing kind) => fromExcept (thingValue kind arguments)
    | v => throw (.notCallable v.kindName)

/-- How many calls may stand inside each other. -/
def callBound : Nat := 960

def invoke : Call := apply callBound

end Sketchflow.Script
