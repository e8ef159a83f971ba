import Sketchflow.Proofs.Script.Phrase

/-!
# Texts that are one expression

A text on one line is an expression if all its tokens are, and it is one if it can be read at all:
no more than so many brackets may be open at once.

* `expression?` is the expression of a text, which may also be several with commas between them.
* **`expression?_of_inline`**: reading the pieces of a text one by one says which expression it is.
* **`forms_of_expression?`**: in brackets a text without comments is the expression it is alone.
-/

namespace Sketchflow.Script

open List

variable {cs text : List Char}

def whole? (ts : List Token) : Option Expr :=
  match exprs? (parseBound ts.length) ts with
  | some (e, []) => some e
  | _ => none

/-- The expression of a text: its tokens are those of the expression, and its line ends. Blanks in
front of it do not count. -/
def expression? (cs : List Char) : Option Expr :=
  (tokens? (cs.dropWhile isGap)).bind fun ts =>
    match ts.reverse with
    | .newline :: line => whole? line.reverse
    | _ => none

/-! ## Several expressions in brackets -/

section

variable {ts : List Token} {e : Expr}

/-- Expressions with commas between them are read up to a bracket as they are read alone. -/
theorem items?_of_exprList? {bound : Nat} : ∀ {ts : List Token} {items : List Expr × Bool},
    exprList? bound ts = some (items, []) →
      ∀ x, Yields (items? · ")") (ts ++ Token.op ")" :: x) items x := by
  induction bound with
  | zero => exact fun h => nomatch h
  | succ bound ih =>
    intro ts items h x
    have hhalts : Halts (.op ")" :: x) := show haltSigns.contains ")" = true by decide
    rw [exprList?] at h
    obtain ⟨⟨e, r⟩, he, h⟩ := Option.bind_eq_some_iff.mp h
    have hfirst : Yields expr? (ts ++ Token.op ")" :: x) e (r ++ Token.op ")" :: x) :=
      ⟨_, fun _ hb => (expr?_read he).more hhalts hb⟩
    have hclose : takeOp ")" (ts ++ Token.op ")" :: x) = none := takeOp_of_expr? he (by decide) _
    dsimp only at h
    split at h
    · cases h
      refine hfirst.step fun n hn => ?_
      simp [items?, hclose, hn, takeOp_other (show (")" == ",") = false by decide), takeOp_self]
    · rename_i rest hcomma
      have hcomma' := just_eq_some.mp
        ((looksAt_op ",").looks.found hhalts (just_eq_some.mpr hcomma))
      split at h
      · cases h
        refine hfirst.step fun n hn => ?_
        simp [items?, hclose, hn, hcomma', takeOp_self]
      · obtain ⟨⟨more, r'⟩, hmore, h⟩ := Option.bind_eq_some_iff.mp h
        cases h
        have hnext : takeOp ")" (rest ++ Token.op ")" :: x) = none := by
          cases bound with
          | zero => cases hmore
          | succ bound =>
            rw [exprList?] at hmore
            obtain ⟨_, he', -⟩ := Option.bind_eq_some_iff.mp hmore
            exact takeOp_of_expr? he' (by decide) _
        refine hfirst.step₂ (ih hmore x) fun n hn hm => ?_
        simp [items?, hclose, hn, hcomma', hnext, hm]

/-- **In brackets tokens are the expression they are alone.** -/
theorem inner_of_exprs? {bound : Nat} (h : exprs? bound ts = some (e, [])) : IsInner ts e := by
  rw [exprs?] at h
  obtain ⟨⟨items, r⟩, hitems, h⟩ := Option.bind_eq_some_iff.mp h
  have hr : r = [] := by
    dsimp only at h
    split at h <;> cases h <;> rfl
  subst hr
  have hbracketed : ∀ y, Yields (bracketed? · "(") (ts ++ Token.op ")" :: y) e y := by
    refine fun y => (items?_of_exprList? hitems y).step fun n hn => ?_
    rw [bracketed?, if_pos (by decide)]
    simp only [hn, Option.bind_eq_bind, Option.bind_some]
    dsimp only at h
    split at h <;> cases h <;> rfl
  refine isPrimary_of_atom fun y _ => (hbracketed y).step fun n hn => ?_
  simpa [atom?] using hn

theorem whole?_eq_some (h : whole? ts = some e) : IsInner ts e := by
  unfold whole? at h
  split at h
  · rename_i hread
    cases h
    exact inner_of_exprs? hread
  · cases h

theorem IsExpr.whole? (h : IsExpr ts e) : whole? ts = some e := by
  have hread := exprs?_expr h (x := []) trivial rfl
    (show 24 * ts.length + 14 ≤ parseBound ts.length by simp only [parseBound]; omega)
  rw [append_nil] at hread
  rw [Script.whole?, hread]

end

/-! ## The tokens of a line -/

/-- The state of the lexer after some tokens, none if one of them cannot be taken. -/
def LexState.takes (s : LexState) (ts : List Token) : Option LexState :=
  ts.foldlM LexState.take s

/-- Tokens can be taken if they close no bracket that is not open, and open not too many at once. -/
theorem takes_eq (ts : List Token) : ∀ s : LexState, s.brackets.length ≤ bracketBound →
    s.takes ts = if deepest s.brackets.length ts ≤ bracketBound
      then (bracketsAll s.brackets ts).map (s.takeAll ts) else none := by
  induction ts with
  | nil =>
    intro s hs
    rw [if_pos (by simpa [deepest] using hs)]
    simp [LexState.takes, LexState.takeAll]
  | cons t ts ih =>
    intro s hs
    have hstep : s.takes (t :: ts) = (s.take t).bind (·.takes ts) := rfl
    rw [hstep, LexState.take, bracketsAll_cons]
    cases hafter : bracketsAfter s.brackets t with
    | none => simp
    | some after =>
      have hlen := length_bracketsAfter hafter
      have hdeepest : deepest s.brackets.length (t :: ts) ≤ bracketBound ↔
          deepest after.length ts ≤ bracketBound := by
        rw [hlen]
        simp only [deepest]
        omega
      simp only [Option.bind_some, hdeepest]
      split
      · rename_i hfits
        rw [Option.bind_some, ih _ hfits]
        refine if_congr Iff.rfl ?_ rfl
        refine congrArg (Option.map · _) (funext fun brackets => ?_)
        simp [LexState.takeAll]
      · rename_i hfits
        rw [Option.bind_none, if_neg fun h => hfits (Nat.le_trans (le_deepest _ ts) h)]

theorem lexes_takes {ts : List Token} (h : Inline cs ts) : ∀ s : LexState,
    Lexes false s cs ((s.takes ts).bind LexState.finish) := by
  induction h with
  | nil =>
    intro s bound hb
    obtain ⟨bound, rfl⟩ : ∃ b, bound = b + 1 := ⟨bound - 1, by omega⟩
    rfl
  | blank hc _ ih => exact fun s => (ih s).blank hc
  | token ht _ ih =>
    rename_i t ts _
    intro s
    have hstep : s.takes (t :: ts) = (s.take t).bind (·.takes ts) := rfl
    rw [hstep]
    cases hs : s.take t with
    | none => exact lexes_stuck ht hs
    | some s' => exact (ih s').token ht hs

theorem Inline.dropGaps {ts : List Token} (h : Inline cs ts) :
    Inline (cs.dropWhile isGap) ts ∧
      ∀ c rest, cs.dropWhile isGap = c :: rest → c ∉ ['\n', '#', ' ', '\t', '\x0c'] := by
  induction h with
  | nil => exact ⟨.nil, fun _ _ h => nomatch h⟩
  | blank hc _ ih =>
    rw [dropWhile_cons_of_pos hc]
    exact ih
  | @token cs _ _ _ ht h _ =>
    cases cs with
    | nil => cases ht
    | cons c cs =>
      have hc : c ∉ ['\n', '#', '\\', ' ', '\t', '\x0c'] := fun hm => by
        rw [token?_eq_none hm] at ht
        cases ht
      simp only [mem_cons, not_mem_nil, or_false, not_or] at hc
      have hgap : ¬isGap c = true := by simp [isGap, hc]
      rw [dropWhile_cons_of_neg hgap]
      refine ⟨.token ht h, fun d rest he => ?_⟩
      cases he
      simp [hc]

theorem tokens?_of_inline {ts : List Token} (h : Inline cs ts) (hts : ts ≠ [])
    (hclean : IsClean cs) (hwhole : '\x00' ∉ cs) :
    tokens? (cs.dropWhile isGap) =
      if deepest 0 ts ≤ bracketBound ∧ bracketsAll [] ts = some [] then some (ts ++ [.newline])
      else none := by
  obtain ⟨hin, hhead⟩ := h.dropGaps
  have hsub : ∀ c ∈ cs.dropWhile isGap, c ∈ cs := fun c hc => (dropWhile_sublist _).subset hc
  have hread : tokens? (cs.dropWhile isGap) =
      lexFrom (2 * (cs.dropWhile isGap).length + 2) true {} (cs.dropWhile isGap) := by
    unfold tokens?
    rw [if_neg fun hm => hwhole (hsub _ (contains_iff_mem.mp hm)),
      plainLines_eq (fun hm => hclean.2 (hsub _ hm)) []]
    rfl
  cases hcs : cs.dropWhile isGap with
  | nil =>
    rw [hcs] at hin
    cases hin with
    | nil => exact absurd rfl hts
    | token ht _ => cases ht
  | cons c rest =>
    have hfresh := lexFrom_fresh (hhead c rest hcs) (2 * (c :: rest).length + 1) 0 {} rest
    rw [replicate_zero, nil_append] at hfresh
    have hindent : ({} : LexState).indentTo ⟨0, 0⟩ = some {} := rfl
    rw [hcs] at hread hin
    rw [hread, hfresh, hindent, Option.bind_some, lexes_takes hin {} _ (by simp),
      takes_eq ts {} (by simp [bracketBound])]
    have hfinish : ∀ brackets, (({} : LexState).takeAll ts brackets).finish =
        if brackets = [] then some (ts ++ [.newline]) else none := by
      intro brackets
      cases brackets with
      | nil => simp [LexState.finish, LexState.takeAll, LexState.endLine, hts]
      | cons b brackets => simp [LexState.finish, LexState.takeAll]
    by_cases hdeep : deepest 0 ts ≤ bracketBound
    · rw [if_pos (by simpa using hdeep)]
      cases hbrackets : bracketsAll [] ts with
      | none => simp
      | some brackets => simp [hfinish, hdeep]
    · rw [if_neg (by simpa using hdeep), if_neg fun h => hdeep h.1]
      rfl

/-- **A text on one line is the expression of its tokens**, if they close their brackets and open
not too many at once. -/
theorem expression?_of_inline {ts : List Token} (h : Inline cs ts)
    (hclean : IsClean cs) (hwhole : '\x00' ∉ cs) :
    expression? cs = if deepest 0 ts ≤ bracketBound ∧ bracketsAll [] ts = some [] then whole? ts
      else none := by
  by_cases hts : ts = []
  · subst hts
    have hnil : cs.dropWhile isGap = [] := by
      obtain ⟨hin, hhead⟩ := h.dropGaps
      cases hcs : cs.dropWhile isGap with
      | nil => rfl
      | cons c rest =>
        have hc := hhead c rest hcs
        simp only [mem_cons, not_mem_nil, or_false, not_or] at hc
        rw [hcs] at hin
        obtain ⟨_, _, _, hnone, -⟩ := hin.head (by simp [isGap, hc])
        cases hnone
    rw [expression?, hnil]
    rfl
  · rw [expression?, tokens?_of_inline h hts hclean hwhole]
    split <;> simp

theorem FormsBy.expression? {e : Expr} (h : FormsBy IsExpr false text e) :
    ∃ ts, inline? text = some ts ∧
      expression? text = if deepest 0 ts ≤ bracketBound then some e else none := by
  obtain ⟨ts, hspells, hbalanced, hexpr⟩ := h.tokens
  have hinline : Inline text ts := hspells.inline
  refine ⟨ts, hinline.inline?, ?_⟩
  rw [expression?_of_inline hinline hspells.clean hspells.whole, hexpr.whole?, hbalanced []]
  simp

theorem FormsBy.expression?_of_brief {e : Expr} {most : Nat}
    (h : FormsBy (IsBrief most) false text e) (hmost : most ≤ bracketBound) :
    Script.expression? text = some e := by
  obtain ⟨ts, hspells, hbalanced, hbrief⟩ := h.tokens
  have hinline : Inline text ts := hspells.inline
  have hfits : deepest 0 ts ≤ bracketBound := by
    have hdeep := deepest_le 0 ts
    have hlen := hbrief.brief
    omega
  rw [expression?_of_inline hinline hspells.clean hspells.whole, hbrief.unary.expr.whole?,
    hbalanced [], if_pos ⟨hfits, rfl⟩]

/-- **In brackets a text without comments is the expression that it is alone.** -/
theorem forms_of_expression? {ts : List Token} {e : Expr}
    (hclean : IsClean text) (hi : inline? text = some ts) (h : expression? text = some e) :
    FormsBy IsInner false text e := by
  have hinline := inline_of_inline? hi
  have hwhole : '\x00' ∉ text := by
    intro hm
    rw [← takeWhile_append_dropWhile (p := isGap) (l := text), mem_append] at hm
    rcases hm with hm | hm
    · have hgap := mem_takeWhile_imp hm
      exact absurd hgap (by decide)
    · have hnone : tokens? (text.dropWhile isGap) = none := by
        unfold tokens?
        rw [if_pos (contains_iff_mem.mpr hm)]
      rw [Script.expression?, hnone] at h
      cases h
  rw [expression?_of_inline hinline hclean hwhole] at h
  split at h
  · rename_i hfits
    exact ⟨ts, ⟨fun _ => rfl, hclean, hwhole, hinline⟩, balanced_of_bracketsAll hfits.2,
      whole?_eq_some h⟩
  · cases h

end Sketchflow.Script
