import Sketchflow.Value.Operators

/-!
# Programs as trees

Expressions and statements of the language that programs are written in.
-/

namespace Sketchflow.Script

inductive Comparison where
  | equal
  | differs
  | order (op : Value.Order)
  | member
  | notMember
  | identical
  | notIdentical
  deriving Repr, DecidableEq

inductive Expr where
  | name (s : String)
  | constant (v : Value)
  | signed (op : Value.Sign) (e : Expr)
  | operate (op : Value.Operator) (left right : Expr)
  /-- The first operand that is false, or the last. -/
  | both (left right : Expr)
  /-- The first operand that is true, or the last. -/
  | either (left right : Expr)
  | negate (e : Expr)
  /-- A chain of comparisons, each of two neighbours. -/
  | compare (first : Expr) (rest : List (Comparison × Expr))
  | choose (condition yes no : Expr)
  | member (owner : Expr) (name : String)
  | item (owner index : Expr)
  | call (callee : Expr) (arguments : List Expr)
  | tuple (items : List Expr)
  | list (items : List Expr)
  /-- A table written out, key by key. -/
  | table (entries : List (Expr × Expr))
  | set (items : List Expr)
  deriving Inhabited

/-- Something a value can be given to. -/
inductive Target where
  | name (s : String)
  | member (owner : Expr) (name : String)
  | item (owner index : Expr)

inductive Stmt where
  | expr (e : Expr)
  | assign (targets : List Target) (e : Expr)
  | update (target : Target) (op : Value.Operator) (e : Expr)
  | skip
  | leave
  | next
  | give (e : Option Expr)
  | load (library : String)
  | branch (condition : Expr) (yes no : List Stmt)
  | loop (condition : Expr) (body : List Stmt)
  | each (name : String) (items : Expr) (body : List Stmt)
  /-- A function: its name, its parameters with their defaults, and its body. -/
  | define (name : String) (parameters : List (String × Option Expr)) (body : List Stmt)
  deriving Inhabited

/-! ## Names -/

def Target.binds : Target → List String
  | .name s => [s]
  | _ => []

mutual

/-- The names a statement binds in the function it stands in. -/
def Stmt.binds : Stmt → List String
  | .assign targets _ => targets.flatMap Target.binds
  | .update target _ _ => target.binds
  | .load library => [library]
  | .branch _ yes no => bindsAll yes ++ bindsAll no
  | .loop _ body => bindsAll body
  | .each name _ body => name :: bindsAll body
  | .define name _ _ => [name]
  | _ => []
termination_by structural s => s

/-- The names that statements bind. -/
def bindsAll : List Stmt → List String
  | [] => []
  | s :: rest => Stmt.binds s ++ bindsAll rest
termination_by structural body => body

end

/-! ## Shape -/

/-- How many loops may stand inside each other in a function. -/
def loopBound : Nat := 20

mutual

/-- Whether loops are left only from inside, and not too many stand inside each other; `depth`
counts the loops around. -/
def Stmt.wellShaped (depth : Nat) : Stmt → Bool
  | .leave => 0 < depth
  | .next => 0 < depth
  | .branch _ yes no => allWellShaped depth yes && allWellShaped depth no
  | .loop _ body => depth < loopBound && allWellShaped (depth + 1) body
  | .each _ _ body => depth < loopBound && allWellShaped (depth + 1) body
  | .define _ _ body => allWellShaped 0 body
  | _ => true
termination_by structural s => s

def allWellShaped (depth : Nat) : List Stmt → Bool
  | [] => true
  | s :: rest => Stmt.wellShaped depth s && allWellShaped depth rest
termination_by structural body => body

end

end Sketchflow.Script
