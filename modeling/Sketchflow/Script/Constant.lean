import Sketchflow.Script.Tree

/-!
# Constants in programs

An expression of constants alone has one value, however often a run comes to it. That shows only
where the value is not a number, which is the same as itself only.

* `Expr.constantValue?` is the value of an expression of constants.
* `markAll` replaces the expressions of constants that are not a number, each by a value with a mark
  of its own, and leaves everything else as it is.
-/

namespace Sketchflow.Script

/-! ## Expressions of constants -/

/-- How many bits an integer may have that is computed from constants. -/
def constantBits : Nat := 128

/-- How many bits an integer has. -/
def bitCount (i : Int) : Nat :=
  if i == 0 then 0 else i.natAbs.log2 + 1

/-- Whether an operator on constants has a result that is small enough. -/
def isSmall (op : Value.Operator) (a b : Value) : Bool :=
  match a.number?, b.number? with
  | some (.int i), some (.int j) =>
    match op with
    | .multiply => i == 0 || j == 0 || bitCount i + bitCount j ≤ constantBits
    | .power => i == 0 || j ≤ 0 || bitCount i ≤ constantBits / j.toNat
    | .shiftLeft => i == 0 || j ≤ 0 || bitCount i + j.toNat ≤ constantBits
    | _ => true
  | _, _ => true

def isNumeric : Value → Bool
  | .bool _ => true
  | .complex _ => true
  | v => v.isNumber

/-- The value of an expression of numbers alone. -/
def Expr.constantValue? : Expr → Option Value
  | .constant v => if isNumeric v then some v else none
  | .signed op e => do
    let v ← e.constantValue?
    (v.signed op).toOption
  | .operate op left right => do
    let a ← left.constantValue?
    let b ← right.constantValue?
    if isSmall op a b then (Value.operate op false a b).toOption else none
  | .negate e => e.constantValue?.map fun v => .bool !v.isTrue
  | _ => none

/-- Whether an expression of constants is not a number. -/
def Expr.isNanConstant (e : Expr) : Bool :=
  match e.constantValue? with
  | some (.float x) => x.isNaN
  | _ => false

/-! ## Marks -/

/-- A computation that draws marks. -/
abbrev Marking := StateM Nat

/-- An expression with the next mark. -/
def nextNan : Marking Expr :=
  modifyGet fun mark => (.constant (.nan mark), mark + 1)

mutual

def markExpr (e : Expr) : Marking Expr :=
  if e.isNanConstant then nextNan
  else
    match e with
    | .name s => return .name s
    | .constant v => return .constant v
    | .signed op e => return .signed op (← markExpr e)
    | .operate op left right => return .operate op (← markExpr left) (← markExpr right)
    | .both left right => return .both (← markExpr left) (← markExpr right)
    | .either left right => return .either (← markExpr left) (← markExpr right)
    | .negate e => return .negate (← markExpr e)
    | .compare first rest => return .compare (← markExpr first) (← markChain rest)
    | .choose condition yes no =>
      return .choose (← markExpr condition) (← markExpr yes) (← markExpr no)
    | .member owner name => return .member (← markExpr owner) name
    | .item owner index => return .item (← markExpr owner) (← markExpr index)
    | .call callee arguments => return .call (← markExpr callee) (← markExprs arguments)
    | .tuple items => return .tuple (← markExprs items)
    | .list items => return .list (← markExprs items)
    | .table entries => return .table (← markEntries entries)
    | .set items => return .set (← markExprs items)
termination_by structural e

def markExprs : List Expr → Marking (List Expr)
  | [] => return []
  | e :: rest => return (← markExpr e) :: (← markExprs rest)
termination_by structural es => es

def markEntries : List (Expr × Expr) → Marking (List (Expr × Expr))
  | [] => return []
  | (key, value) :: rest =>
    return (← markExpr key, ← markExpr value) :: (← markEntries rest)
termination_by structural es => es

def markChain : List (Comparison × Expr) → Marking (List (Comparison × Expr))
  | [] => return []
  | (c, e) :: rest => return (c, ← markExpr e) :: (← markChain rest)
termination_by structural es => es

end

def markTarget : Target → Marking Target
  | .name s => return .name s
  | .member owner name => return .member (← markExpr owner) name
  | .item owner index => return .item (← markExpr owner) (← markExpr index)

def markOption : Option Expr → Marking (Option Expr)
  | none => return none
  | some e => return some (← markExpr e)

def markParameters (parameters : List (String × Option Expr)) :
    Marking (List (String × Option Expr)) :=
  parameters.mapM fun p => return (p.1, ← markOption p.2)

mutual

def markStmt : Stmt → Marking Stmt
  | .expr e => return .expr (← markExpr e)
  | .assign targets e => return .assign (← targets.mapM markTarget) (← markExpr e)
  | .update target op e => return .update (← markTarget target) op (← markExpr e)
  | .skip => return .skip
  | .leave => return .leave
  | .next => return .next
  | .give e => return .give (← markOption e)
  | .load library => return .load library
  | .branch condition yes no =>
    return .branch (← markExpr condition) (← markAll yes) (← markAll no)
  | .loop condition body => return .loop (← markExpr condition) (← markAll body)
  | .each name items body => return .each name (← markExpr items) (← markAll body)
  | .define name parameters body =>
    return .define name (← markParameters parameters) (← markAll body)
termination_by structural s => s

def markAll : List Stmt → Marking (List Stmt)
  | [] => return []
  | s :: rest => return (← markStmt s) :: (← markAll rest)
termination_by structural body => body

end

end Sketchflow.Script
