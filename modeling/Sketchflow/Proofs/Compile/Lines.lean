import Sketchflow.Proofs.Compile.Operands
import Sketchflow.Proofs.Compile.Plan
import Sketchflow.Proofs.Script.Sentences

/-!
# Lines of programs

Lines that draw, each with the statement that it is. The texts of inputs stand in them between fixed
parts; they are given as the expressions that they are.

* **`says_ask`**: a line that calls an operation is this call, whatever its arguments are.
* `says_bare`, `says_style`: the other lines that draw.
* `says_preamble`: how every program begins.
-/

namespace Sketchflow.Compile

open Listing (Step)
open Script

/-! ## Calls -/

def ask (owner operation : String) (arguments : List Expr) : Expr :=
  .call (.member (.name owner) operation) arguments

section

variable {ts us : List Token} {e : Expr} {es : List Expr}

theorem isUnary_ask (owner operation : String) (h : AreItems ")" ts es) :
    IsUnary (.name owner :: .op "." :: .name operation :: .op "(" :: ts)
      (ask owner operation es) :=
  (isTrailed_call h).member.name.unary

theorem argument (h : IsExpr ts e) : AreItems ")" (ts ++ [Token.op ")"]) [e] :=
  h.items (by decide)

end

/-- What stands between the arguments of a call and after them. -/
def commas : Nat → List (List Char)
  | 0 => [[')']]
  | count + 1 => [',', ' '] :: commas count

def commaTokens : Nat → List (List Token)
  | 0 => [[.op ")"]]
  | count + 1 => [.op ","] :: commaTokens count

theorem segments?_commas (count : Nat) :
    segments? false (commas count) = some (commaTokens count) := by
  have hcomma : segment? false false [',', ' '] = some [.op ","] := rfl
  induction count with
  | zero => rfl
  | succ count ih =>
    cases count with
    | zero => rfl
    | succ count =>
      simp only [commas, segments?, hcomma, Option.bind_some] at ih ⊢
      rw [ih]
      rfl

theorem bracketsAll_commas (count : Nat) (brackets : List Char) :
    bracketsAll ('(' :: brackets) (commaTokens count).flatten = some brackets := by
  induction count with
  | zero => rfl
  | succ count ih => exact ih

theorem length_commas (count : Nat) : (commas count).length = count + 1 := by
  induction count with
  | zero => rfl
  | succ count ih => rw [commas, List.length_cons, ih]

theorem areItems_commas {ta : List Token} {e : Expr} (h : IsExpr ta e) {tas : List (List Token)}
    {es : List Expr} (hs : List.Forall₂ IsExpr tas es) :
    AreItems ")" (ta ++ weave (commaTokens tas.length) tas) (e :: es) := by
  induction hs generalizing ta e with
  | nil => exact argument h
  | cons hnext _ ih => exact .cons (by decide) h (ih hnext) (by simp)

/-- The fixed parts of a call with this many arguments after the first. -/
def callParts (owner operation : String) (count : Nat) : List (List Char) :=
  (owner ++ "." ++ operation ++ "(").toList :: commas count

/-- A call begins as it is written. -/
structure Begins (owner operation : String) : Prop where
  tokens : opening? (owner ++ "." ++ operation ++ "(").toList =
    some [.name owner, .op ".", .name operation, .op "("]
  line : isOneLine (owner ++ "." ++ operation ++ "(").toList = true
  begins : begins (owner ++ "." ++ operation ++ "(").toList = true

/-- **A line that calls an operation.** -/
theorem says_ask {owner operation text : String} {e : Expr} {es : List Expr} (a : String)
    (args : List String) (htext : text.toList = weave (callParts owner operation args.length)
      (a.toList :: args.map String.toList))
    (hbegins : Begins owner operation) (ha : Reads a.toList e)
    (h : List.Forall₂ Reads (args.map String.toList) es) :
    Says [.line text] [.expr (ask owner operation (e :: es))] := by
  have hfs : segments? true (callParts owner operation args.length) =
      some ([.name owner, .op ".", .name operation, .op "("] :: commaTokens args.length) := by
    have hfirst : segment? true false (owner ++ "." ++ operation ++ "(").toList =
        some [.name owner, .op ".", .name operation, .op "("] := by
      rw [segment?, hbegins.line]
      exact hbegins.tokens
    have hrest := segments?_commas args.length
    unfold callParts
    generalize commas args.length = fs at hrest
    cases fs with
    | nil => cases hrest
    | cons f fs => rw [segments?, hfirst, Option.bind_some, hrest, Option.map_some]; simp
  obtain ⟨tas, htas, hline⟩ := heads_phrase htext hfs (bracketsAll_commas args.length [])
    (.cons ha h) (by simp [callParts, length_commas]) (by simpa [callParts] using hbegins.begins)
  obtain _ | @⟨ta, _, tas, _, hta, htas⟩ := htas
  have hlen : tas.length = args.length := by rw [htas.length_eq, ← h.length_eq, List.length_map]
  rw [← hlen] at hline
  exact says_expr hline (isUnary_ask _ _ (areItems_commas hta htas)).expr

/-! ## Lines that draw -/

def perform (operation : String) (arguments : List Expr) : Stmt :=
  .expr (ask "ctx" operation arguments)

theorem says_bare {text operation : String} (hline : isOneLine text.toList = true)
    (h : inline? text.toList =
      some [.name "ctx", .op ".", .name operation, .op "(", .op ")"])
    (hbegins : begins text.toList = true) : Says [.line text] [perform operation []] :=
  says_expr (heads_of_inline? hline h rfl hbegins) (isUnary_ask _ _ (areItems_nil ")")).expr

/-- A style of the canvas gets a value. -/
def style (field : String) (e : Expr) : Stmt :=
  .assign [.member (.name "ctx") field] e

theorem says_style {field text : String} {e : Expr} (value : String)
    (htext : text.toList = ("ctx." ++ field ++ " = ").toList ++ value.toList)
    (hfs : segments? true [("ctx." ++ field ++ " = ").toList, []] =
      some [[.name "ctx", .op ".", .name field, .op "="], []])
    (hbegins : begins ("ctx." ++ field ++ " = ").toList = true) (h : Reads value.toList e) :
    Says [.line text] [style field e] := by
  have hweave : text.toList = weave [("ctx." ++ field ++ " = ").toList, []] [value.toList] := by
    rw [htext]
    simp [weave]
  obtain ⟨tas, htas, hline⟩ := heads_phrase hweave hfs rfl (.cons h .nil) (by simp)
    (by simpa using hbegins)
  obtain _ | @⟨ta, _, _, _, hta, _ | _⟩ := htas
  have hassign : Heads text
      ((Token.name "ctx" :: [.op ".", .name field]) ++ Token.op "=" :: ta) := by
    simpa [weave] using hline
  exact says_assign hassign (isTrailed_member _ _).name.expr rfl hta

theorem reads_text {text : String} (s : String) (hline : isOneLine text.toList = true)
    (h : inline? text.toList = some [.text s]) : Reads text.toList (.constant (.str s)) :=
  (forms_of_inline hline (inline_of_inline? h) rfl (isPrimary_text s).unary).reads

/-! ## How programs begin -/

/-- How a program begins. -/
def preambleStmts : List Stmt :=
  [.load "math", .load "random", .assign [.name "functions"] (.table []),
    .assign [.name "controls"] (.table []),
    .assign [.name "tick_state"] (.table [(.constant (.str "running"), .constant (.bool false)),
      (.constant (.str "frame"), .constant .null)]),
    style "font" (.constant (.str "16px Arial")),
    style "stroke_style" (.constant (.str "#000000")),
    style "fill_style" (.constant (.str "#000000")), style "line_width" (.constant (.int 2)),
    perform "begin_path" []]

theorem says_preamble : Says preambleSteps preambleStmts := by
  have hload : ∀ {text library : String}, isOneLine text.toList = true →
      inline? text.toList = some [.keyword "import", .name library] →
      begins text.toList = true → Says [.line text] [.load library] :=
    fun hline h hbegins => says_import (heads_of_inline? hline h rfl hbegins)
  have hempty : ∀ {text name : String}, isOneLine text.toList = true →
      inline? text.toList = some ([Token.name name] ++ Token.op "=" :: [.op "\x7b", .op "\x7d"]) →
      begins text.toList = true → Says [.line text] [.assign [.name name] (.table [])] :=
    fun hline h hbegins => says_assign (heads_of_inline? hline h rfl hbegins)
      (isPrimary_name _).expr rfl (isExpr_of_expr? (k := 60) rfl)
  have hstate : Says [.line "tick_state = \x7b'running': False, 'frame': None\x7d"]
      [.assign [.name "tick_state"] (.table [(.constant (.str "running"), .constant (.bool false)),
        (.constant (.str "frame"), .constant .null)])] := by
    have hinline : inline? "tick_state = \x7b'running': False, 'frame': None\x7d".toList =
        some ([Token.name "tick_state"] ++ Token.op "=" :: [.op "\x7b", .text "running", .op ":",
          .keyword "False", .op ",", .text "frame", .op ":", .keyword "None", .op "\x7d"]) := rfl
    exact says_assign (heads_of_inline? (by decide) hinline rfl (by decide))
      (isPrimary_name _).expr rfl (isExpr_of_expr? (k := 120) rfl)
  have hwidth : Says [.line "ctx.line_width = 2"] [style "line_width" (.constant (.int 2))] := by
    have hinline : inline? "ctx.line_width = 2".toList = some ([Token.name "ctx", .op ".",
        .name "line_width"] ++ Token.op "=" :: [.number (.int 2)]) := rfl
    exact says_assign (heads_of_inline? (by decide) hinline rfl (by decide))
      (isTrailed_member _ _).name.expr rfl (isPrimary_number _).expr
  refine (says_comment _).cons ((hload (by decide) rfl (by decide)).cons
    ((hload (by decide) rfl (by decide)).cons (says_blank.cons
      ((hempty (by decide) rfl (by decide)).cons ((hempty (by decide) rfl (by decide)).cons
        (hstate.cons (says_blank.cons ((says_comment _).cons ?_))))))))
  refine Says.cons (says_style "'16px Arial'" (by simp) rfl (by decide)
    (reads_text "16px Arial" (by decide) rfl)) ?_
  refine Says.cons (says_style "'#000000'" (by simp) rfl (by decide)
    (reads_text "#000000" (by decide) rfl)) ?_
  refine Says.cons (says_style "'#000000'" (by simp) rfl (by decide)
    (reads_text "#000000" (by decide) rfl)) ?_
  exact hwidth.cons (says_bare (by decide) rfl (by decide))

end Sketchflow.Compile
