import Sketchflow.Script.Lexer
import Sketchflow.Script.Tree

/-!
# From tokens to trees

Operators bind, from loosest to tightest: the conditional, `or`, `and`, `not`, comparisons, the
bitwise operators, shifts, sums, products, signs, powers, and what follows a name: members, items
and calls.

This is a part of the language: functions written in place, comprehensions, slices, arguments by
name, texts with expressions in them, bytes and assignments in expressions are not well formed here.

`program?` reads a program, none if it is not well formed. Each function has a bound that falls on
every call; it is large enough for any text of the given number of tokens.
-/

namespace Sketchflow.Script

def takeOp (s : String) : List Token → Option (List Token)
  | .op t :: rest => if t == s then some rest else none
  | _ => none

def takeKeyword (s : String) : List Token → Option (List Token)
  | .keyword t :: rest => if t == s then some rest else none
  | _ => none

/-! ## Expressions -/

/-- The binary operators by how tightly they bind, loosest first. -/
def ranks : List (List (String × Value.Operator)) :=
  [[("|", .bitOr)], [("^", .bitXor)], [("&", .bitAnd)],
    [("<<", .shiftLeft), (">>", .shiftRight)], [("+", .add), ("-", .subtract)],
    [("*", .multiply), ("/", .divide), ("//", .wholeQuotient), ("%", .remainder), ("@", .matrix)]]

def takeRanked (rank : List (String × Value.Operator)) :
    List Token → Option (Value.Operator × List Token)
  | .op s :: rest => (rank.lookup s).map fun op => (op, rest)
  | _ => none

def comparisonSigns : List (String × Comparison) :=
  [("==", .equal), ("!=", .differs), ("<", .order .lt), ("<=", .order .le), (">", .order .gt),
    (">=", .order .ge)]

def takeComparison : List Token → Option (Comparison × List Token)
  | .op s :: rest => (comparisonSigns.lookup s).map fun c => (c, rest)
  | .keyword s :: rest =>
    if s == "in" then some (.member, rest)
    else if s == "not" then (takeKeyword "in" rest).map fun rest => (.notMember, rest)
    else if s == "is" then
      match takeKeyword "not" rest with
      | some rest => some (.notIdentical, rest)
      | none => some (.identical, rest)
    else none
  | _ => none

def signs : List (String × Value.Sign) :=
  [("+", .plus), ("-", .minus), ("~", .invert)]

def takeSigned : List Token → Option (Value.Sign × List Token)
  | .op s :: rest => (signs.lookup s).map fun sign => (sign, rest)
  | _ => none

/-- The keywords that stand for values. -/
def wordValues : List (String × Value) :=
  [("None", .null), ("True", .bool true), ("False", .bool false)]

def takeTexts (s : String) : List Token → String × List Token
  | .text t :: rest => takeTexts (s ++ t) rest
  | ts => (s, ts)

mutual

def expr? : Nat → List Token → Option (Expr × List Token)
  | 0, _ => none
  | bound + 1, ts => do
    let (e, ts) ← either? bound ts
    match takeKeyword "if" ts with
    | none => some (e, ts)
    | some ts =>
      let (condition, ts) ← either? bound ts
      let ts ← takeKeyword "else" ts
      let (no, ts) ← expr? bound ts
      some (.choose condition e no, ts)
termination_by structural bound => bound

def either? : Nat → List Token → Option (Expr × List Token)
  | 0, _ => none
  | bound + 1, ts => do
    let (e, ts) ← both? bound ts
    match takeKeyword "or" ts with
    | none => some (e, ts)
    | some ts =>
      let (right, ts) ← either? bound ts
      some (.either e right, ts)
termination_by structural bound => bound

def both? : Nat → List Token → Option (Expr × List Token)
  | 0, _ => none
  | bound + 1, ts => do
    let (e, ts) ← negation? bound ts
    match takeKeyword "and" ts with
    | none => some (e, ts)
    | some ts =>
      let (right, ts) ← both? bound ts
      some (.both e right, ts)
termination_by structural bound => bound

def negation? : Nat → List Token → Option (Expr × List Token)
  | 0, _ => none
  | bound + 1, ts =>
    match takeKeyword "not" ts with
    | some ts => (negation? bound ts).map fun r => (.negate r.1, r.2)
    | none => do
      let (e, ts) ← ranked? bound ranks ts
      let (rest, ts) ← comparisons? bound ts
      some (if rest.isEmpty then e else .compare e rest, ts)
termination_by structural bound => bound

/-- The rest of a chain of comparisons. -/
def comparisons? : Nat → List Token → Option (List (Comparison × Expr) × List Token)
  | 0, _ => none
  | bound + 1, ts =>
    match takeComparison ts with
    | none => some ([], ts)
    | some (op, ts) => do
      let (e, ts) ← ranked? bound ranks ts
      let (rest, ts) ← comparisons? bound ts
      some ((op, e) :: rest, ts)
termination_by structural bound => bound

def ranked? : Nat → List (List (String × Value.Operator)) → List Token → Option (Expr × List Token)
  | 0, _, _ => none
  | bound + 1, [], ts => signed? bound ts
  | bound + 1, rank :: tighter, ts => do
    let (e, ts) ← ranked? bound tighter ts
    rankedRest? bound rank tighter e ts
termination_by structural bound => bound

/-- More operands of the operators of a rank, which group to the left. -/
def rankedRest? : Nat → List (String × Value.Operator) → List (List (String × Value.Operator)) →
    Expr → List Token → Option (Expr × List Token)
  | 0, _, _, _, _ => none
  | bound + 1, rank, tighter, left, ts =>
    match takeRanked rank ts with
    | none => some (left, ts)
    | some (op, ts) => do
      let (right, ts) ← ranked? bound tighter ts
      rankedRest? bound rank tighter (.operate op left right) ts
termination_by structural bound => bound

def signed? : Nat → List Token → Option (Expr × List Token)
  | 0, _ => none
  | bound + 1, ts =>
    match takeSigned ts with
    | some (op, ts) => (signed? bound ts).map fun r => (.signed op r.1, r.2)
    | none => do
      let (e, ts) ← primary? bound ts
      match takeOp "**" ts with
      | none => some (e, ts)
      | some ts =>
        let (power, ts) ← signed? bound ts
        some (.operate .power e power, ts)
termination_by structural bound => bound

/-- An atom and what follows it. -/
def primary? : Nat → List Token → Option (Expr × List Token)
  | 0, _ => none
  | bound + 1, ts => do
    let (e, ts) ← atom? bound ts
    trailers? bound e ts
termination_by structural bound => bound

/-- Members, items and calls of an expression. -/
def trailers? : Nat → Expr → List Token → Option (Expr × List Token)
  | 0, _, _ => none
  | bound + 1, e, ts =>
    match takeOp "." ts with
    | some (.name s :: rest) => trailers? bound (.member e s) rest
    | some _ => none
    | none =>
      match takeOp "(" ts with
      | some ts => do
        let (arguments, ts) ← items? bound ")" ts
        trailers? bound (.call e arguments.1) ts
      | none =>
        match takeOp "[" ts with
        | some ts => do
          let (index, ts) ← items? bound "]" ts
          match index with
          | ([], _) => none
          | ([i], false) => trailers? bound (.item e i) ts
          | (several, _) => trailers? bound (.item e (.tuple several)) ts
        | none => some (e, ts)
termination_by structural bound => bound

/-- Expressions with commas between them up to a closing bracket; the flag tells whether a comma
stands after the last. -/
def items? : Nat → String → List Token → Option ((List Expr × Bool) × List Token)
  | 0, _, _ => none
  | bound + 1, close, ts =>
    match takeOp close ts with
    | some ts => some (([], false), ts)
    | none => do
      let (e, ts) ← expr? bound ts
      match takeOp "," ts with
      | none =>
        let ts ← takeOp close ts
        some (([e], false), ts)
      | some ts =>
        match takeOp close ts with
        | some ts => some (([e], true), ts)
        | none =>
          let (rest, ts) ← items? bound close ts
          some ((e :: rest.1, rest.2), ts)
termination_by structural bound => bound

/-- More entries of a table up to the closing brace. -/
def entriesRest? : Nat → List Token → Option (List (Expr × Expr) × List Token)
  | 0, _ => none
  | bound + 1, ts =>
    match takeOp "," ts with
    | none => (takeOp "\x7d" ts).map fun ts => ([], ts)
    | some ts =>
      match takeOp "\x7d" ts with
      | some ts => some ([], ts)
      | none => do
        let (key, ts) ← expr? bound ts
        let ts ← takeOp ":" ts
        let (value, ts) ← expr? bound ts
        let (more, ts) ← entriesRest? bound ts
        some ((key, value) :: more, ts)
termination_by structural bound => bound

/-- Something in brackets, the opening one taken. -/
def bracketed? : Nat → String → List Token → Option (Expr × List Token)
  | 0, _, _ => none
  | bound + 1, op, ts =>
    if op == "(" then do
      let (items, ts) ← items? bound ")" ts
      match items with
      | ([e], false) => some (e, ts)
      | (several, _) => some (.tuple several, ts)
    else if op == "[" then do
      let (items, ts) ← items? bound "]" ts
      some (.list items.1, ts)
    else if op == "\x7b" then
      match takeOp "\x7d" ts with
      | some ts => some (.table [], ts)
      | none => do
        let (first, ts) ← expr? bound ts
        match takeOp ":" ts with
        | some ts =>
          let (value, ts) ← expr? bound ts
          let (more, ts) ← entriesRest? bound ts
          some (.table ((first, value) :: more), ts)
        | none =>
          match takeOp "," ts with
          | some ts =>
            let (more, ts) ← items? bound "\x7d" ts
            some (.set (first :: more.1), ts)
          | none =>
            let ts ← takeOp "\x7d" ts
            some (.set [first], ts)
    else none
termination_by structural bound => bound

/-- A name, a literal, or something in brackets. -/
def atom? : Nat → List Token → Option (Expr × List Token)
  | 0, _ => none
  | bound + 1, ts =>
    match ts with
    | .name s :: rest => some (.name s, rest)
    | .number v :: rest => some (.constant v, rest)
    | .text s :: rest =>
      let (s, rest) := takeTexts s rest
      some (.constant (.str s), rest)
    | .keyword s :: rest => (wordValues.lookup s).map fun v => (.constant v, rest)
    | .op s :: rest =>
      if s == "..." then some (.constant (.handle (.thing "ellipsis")), rest)
      else bracketed? bound s rest
    | _ => none
termination_by structural bound => bound

end

/-- Whether an expression cannot start here: the expressions of a statement end at such a place. -/
def endsList : List Token → Bool
  | .newline :: _ => true
  | .op s :: _ => s == "=" || s == ":" || s == ";"
  | [] => true
  | _ => false

/-- Expressions with commas between them; the flag tells whether a comma stands after the last. -/
def exprList? : Nat → List Token → Option ((List Expr × Bool) × List Token)
  | 0, _ => none
  | bound + 1, ts => do
    let (e, ts) ← expr? (bound + 1) ts
    match takeOp "," ts with
    | none => some (([e], false), ts)
    | some ts =>
      if endsList ts then some (([e], true), ts)
      else
        let (rest, ts) ← exprList? bound ts
        some ((e :: rest.1, rest.2), ts)

/-- One expression, or several with commas, which make a tuple. -/
def exprs? (bound : Nat) (ts : List Token) : Option (Expr × List Token) := do
  let (items, ts) ← exprList? bound ts
  match items with
  | ([e], false) => some (e, ts)
  | (several, _) => some (.tuple several, ts)

/-! ## Statements -/

/-- What an expression on the left of an assignment names. -/
def target? : Expr → Option Target
  | .name s => some (.name s)
  | .member owner name => some (.member owner name)
  | .item owner index => some (.item owner index)
  | _ => none

def updates : List (String × Value.Operator) :=
  [("+=", .add), ("-=", .subtract), ("*=", .multiply), ("/=", .divide), ("//=", .wholeQuotient),
    ("%=", .remainder), ("**=", .power), ("@=", .matrix), ("&=", .bitAnd), ("|=", .bitOr),
    ("^=", .bitXor), ("<<=", .shiftLeft), (">>=", .shiftRight)]

/-- The rest of an assignment: more targets and the value. -/
def assignment? (targets : List Target) : Nat → List Token → Option (Stmt × List Token)
  | 0, _ => none
  | bound + 1, ts => do
    let (e, ts) ← exprs? (bound + 1) ts
    match takeOp "=" ts with
    | none => some (.assign targets e, ts)
    | some ts =>
      let target ← target? e
      assignment? (targets ++ [target]) bound ts

/-- A statement that starts with an expression. -/
def exprStmt? (bound : Nat) (ts : List Token) : Option (Stmt × List Token) := do
  let (e, ts) ← exprs? bound ts
  match ts with
  | .op s :: rest =>
    if s == "=" then
      let target ← target? e
      assignment? [target] bound rest
    else
      match updates.lookup s with
      | some op =>
        let target ← target? e
        let (value, ts) ← exprs? bound rest
        some (.update target op value, ts)
      | none => some (.expr e, ts)
  | _ => some (.expr e, ts)

def simple? (bound : Nat) (ts : List Token) : Option (Stmt × List Token) :=
  match ts with
  | .keyword "pass" :: rest => some (.skip, rest)
  | .keyword "break" :: rest => some (.leave, rest)
  | .keyword "continue" :: rest => some (.next, rest)
  | .keyword "return" :: .newline :: rest => some (.give none, .newline :: rest)
  | .keyword "return" :: .op ";" :: rest => some (.give none, .op ";" :: rest)
  | .keyword "return" :: rest => (exprs? bound rest).map fun r => (.give (some r.1), r.2)
  | .keyword "import" :: .name s :: rest => some (.load s, rest)
  | _ => exprStmt? bound ts

/-- Statements on one line, with semicolons between them. -/
def line? : Nat → List Token → Option (List Stmt × List Token)
  | 0, _ => none
  | bound + 1, ts => do
    let (s, ts) ← simple? bound ts
    match ts with
    | .newline :: rest => some ([s], rest)
    | .op ";" :: .newline :: rest => some ([s], rest)
    | .op ";" :: rest =>
      let (more, ts) ← line? bound rest
      some (s :: more, ts)
    | _ => none

/-- The parameters of a function up to the closing bracket. -/
def parameters? : Nat → List Token → Option (List (String × Option Expr) × List Token)
  | 0, _ => none
  | bound + 1, ts =>
    match ts with
    | .op ")" :: rest => some ([], rest)
    | .name s :: .op "=" :: rest => do
      let (e, ts) ← expr? bound rest
      finishParameter bound (s, some e) ts
    | .name s :: rest => finishParameter bound (s, none) rest
    | _ => none
where
  /-- The rest of the parameters after one. -/
  finishParameter (bound : Nat) (p : String × Option Expr) (ts : List Token) :
      Option (List (String × Option Expr) × List Token) :=
    match ts with
    | .op ")" :: rest => some ([p], rest)
    | .op "," :: rest => (parameters? bound rest).map fun r => (p :: r.1, r.2)
    | _ => none

mutual

/-- A statement; simple statements on one line come together. -/
def stmt? : Nat → List Token → Option (List Stmt × List Token)
  | 0, _ => none
  | bound + 1, ts =>
    match ts with
    | .keyword "if" :: rest => branch? bound rest
    | .keyword "while" :: rest => do
      let (condition, ts) ← expr? bound rest
      let ts ← takeOp ":" ts
      let (body, ts) ← body? bound ts
      some ([.loop condition body], ts)
    | .keyword "for" :: .name s :: .keyword "in" :: rest => do
      let (items, ts) ← exprs? bound rest
      let ts ← takeOp ":" ts
      let (body, ts) ← body? bound ts
      some ([.each s items body], ts)
    | .keyword "def" :: .name s :: .op "(" :: rest => do
      let (parameters, ts) ← parameters? bound rest
      let ts ← takeOp ":" ts
      let (body, ts) ← body? bound ts
      some ([.define s parameters body], ts)
    | _ => line? bound ts
termination_by structural bound => bound

/-- A conditional, its first keyword taken. -/
def branch? : Nat → List Token → Option (List Stmt × List Token)
  | 0, _ => none
  | bound + 1, ts => do
    let (condition, ts) ← expr? bound ts
    let ts ← takeOp ":" ts
    let (yes, ts) ← body? bound ts
    match ts with
    | .keyword "elif" :: rest =>
      let (no, ts) ← branch? bound rest
      some ([.branch condition yes no], ts)
    | .keyword "else" :: .op ":" :: rest =>
      let (no, ts) ← body? bound rest
      some ([.branch condition yes no], ts)
    | _ => some ([.branch condition yes []], ts)
termination_by structural bound => bound

/-- A body: an indented block, or statements on the same line. -/
def body? : Nat → List Token → Option (List Stmt × List Token)
  | 0, _ => none
  | bound + 1, ts =>
    match ts with
    | .newline :: .indent :: rest => stmts? bound rest
    | .newline :: _ => none
    | _ => line? bound ts
termination_by structural bound => bound

/-- One or more statements up to the end of their block. -/
def stmts? : Nat → List Token → Option (List Stmt × List Token)
  | 0, _ => none
  | bound + 1, ts => do
    let (first, ts) ← stmt? bound ts
    match ts with
    | .dedent :: rest => some (first, rest)
    | _ =>
      let (more, ts) ← stmts? bound ts
      some (first ++ more, ts)
termination_by structural bound => bound

end

/-- The bound for a number of tokens. -/
def parseBound (count : Nat) : Nat := 24 * count + 64

/-- A function: its name, its parameters with their defaults, and its body. -/
structure Definition where
  name : String
  parameters : List (String × Option Expr)
  body : List Stmt
  deriving Inhabited

/-- The one function that a text defines. -/
def definition? (cs : List Char) : Option Definition := do
  let ts ← tokens? cs
  let (s, rest) ← stmt? (parseBound ts.length) ts
  match s, rest with
  | [.define name parameters body], [] =>
    if allWellShaped 0 body then some { name, parameters, body } else none
  | _, _ => none

end Sketchflow.Script
