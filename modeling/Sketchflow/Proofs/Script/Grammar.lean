import Sketchflow.Proofs.Script.Reading

/-!
# The grammar of expressions

Which tokens are which expression, told rule by rule and without bounds. Each predicate says that
the parser reads an expression from the tokens whatever follows, if that does not go on the
expression at this level of the grammar.

* `IsPrimary`: names, literals, brackets, and members, calls and items of them.
* `IsUnary`, `IsRanked`: signs and binary operators.
* `IsComparison`, `IsEither`, `IsExpr`: comparisons, `not`, `and`, `or` and the conditional.
-/

namespace Sketchflow.Script

open List

variable {left right : Expr} {n : Nat} {close s : String} {op : Value.Operator}

/-! ## What ends an operand -/

/-- Tokens that do not go on a primary expression. -/
structure Quiet (x : List Token) : Prop where
  dot : takeOp "." x = none
  call : takeOp "(" x = none
  item : takeOp "[" x = none
  power : takeOp "**" x = none
  text : ∀ s, takeTexts s x = (s, x)

/-- Tokens that do not go on an operand of the given ranks. -/
structure EndsRanked (rs : List (List (String × Value.Operator))) (x : List Token) : Prop where
  quiet : Quiet x
  ranks : ∀ rank ∈ rs, takeRanked rank x = none

structure EndsComparison (x : List Token) : Prop extends EndsRanked Script.ranks x where
  comparison : takeComparison x = none

/-- Tokens that do not go on operands of `or`. -/
structure EndsEither (x : List Token) : Prop extends EndsComparison x where
  both : takeKeyword "and" x = none
  either : takeKeyword "or" x = none

theorem Halts.endsEither {x : List Token} (hx : Halts x) : EndsEither x := by
  have hop : ∀ s ∉ haltSigns, takeOp s x = none := fun s hs => just_eq_none.mp (passes_op hs x hx)
  have hword : ∀ s, takeKeyword s x = none := fun s => just_eq_none.mp (passes_keyword s x hx)
  have hrank : ∀ rank ∈ ranks, ∀ s ∈ haltSigns, rank.lookup s = none := by decide
  have hquiet : Quiet x := ⟨hop _ (by decide), hop _ (by decide), hop _ (by decide),
    hop _ (by decide), fun s => takeTexts_append hx s []⟩
  exact ⟨⟨⟨hquiet, fun rank hr => passes_ranked (hrank rank hr) x hx⟩, passes_comparison x hx⟩,
    hword _, hword _⟩

/-! ## Reading without bounds -/

/-- A function of the parser reads `a` and leaves `rest` within every bound from some bound on. -/
def Yields {α : Type} (f : Nat → List Token → Option (α × List Token)) (ts : List Token) (a : α)
    (rest : List Token) : Prop :=
  ∃ least, ∀ bound, least ≤ bound → f bound ts = some (a, rest)

section

variable {α β γ : Type} {f : Nat → List Token → Option (α × List Token)}
  {g : Nat → List Token → Option (β × List Token)} {h : Nat → List Token → Option (γ × List Token)}
  {ts us vs r r' r'' : List Token} {a : α} {b : β} {c : γ}

theorem Read.yields {least extra : Nat} (k : Read f least extra ts a r) : Yields f ts a r :=
  ⟨24 * ts.length + extra, fun _ hb => by
    simpa using k.more (x := []) trivial (Nat.le_trans (by omega) hb)⟩

theorem yields_step (step : ∀ n, f (n + 1) ts = some (a, r)) : Yields f ts a r :=
  ⟨1, fun n hn => by
    obtain ⟨n, rfl⟩ : ∃ m, n = m + 1 := ⟨n - 1, by omega⟩
    exact step n⟩

theorem Yields.step (k : Yields g us b r')
    (step : ∀ n, g n us = some (b, r') → f (n + 1) ts = some (a, r)) : Yields f ts a r := by
  obtain ⟨least, k⟩ := k
  refine ⟨least + 1, fun n hn => ?_⟩
  obtain ⟨n, rfl⟩ : ∃ m, n = m + 1 := ⟨n - 1, by omega⟩
  exact step n (k n (by omega))

theorem Yields.step₂ (k : Yields g us b r') (k' : Yields h vs c r'')
    (step : ∀ n, g n us = some (b, r') → h n vs = some (c, r'') → f (n + 1) ts = some (a, r)) :
    Yields f ts a r := by
  obtain ⟨least, k⟩ := k
  obtain ⟨least', k'⟩ := k'
  refine ⟨max least least' + 1, fun n hn => ?_⟩
  obtain ⟨n, rfl⟩ : ∃ m, n = m + 1 := ⟨n - 1, by omega⟩
  exact step n (k n (by omega)) (k' n (by omega))

end

/-! ## Expressions in brackets and lists -/

def IsExpr (ts : List Token) (e : Expr) : Prop :=
  Yields expr? ts e []

section

variable {ts us x : List Token} {e owner : Expr} {es : List Expr}

theorem IsExpr.reads (h : IsExpr ts e) : Read expr? 1 14 ts e [] := by
  obtain ⟨least, h⟩ := h
  exact expr?_read (h least (Nat.le_refl _))

theorem IsExpr.yields (h : IsExpr ts e) (hx : Halts x) : Yields expr? (ts ++ x) e x :=
  ⟨_, fun _ hb => h.reads.more hx hb⟩

/-- Tokens that start no primary expression start no operand. -/
theorem ranked?_eq_none (hatom : ∀ n, atom? n ts = none) (hsign : takeSigned ts = none)
    (rs : List (List (String × Value.Operator))) : ∀ n, ranked? n rs ts = none := by
  have hprimary : ∀ n, primary? n ts = none := by
    intro n
    cases n <;> simp [primary?, hatom]
  have hsigned : ∀ n, signed? n ts = none := by
    intro n
    cases n <;> simp [signed?, hsign, hprimary]
  induction rs with
  | nil =>
    intro n
    cases n <;> simp [ranked?, hsigned]
  | cons rank rs ih =>
    intro n
    cases n <;> simp [ranked?, ih]

/-- The operators that start a primary expression. -/
def starters : List String := ["...", "(", "[", "\x7b"]

theorem atom?_op_eq_none (hs : s ∉ starters) (ts : List Token) (n : Nat) :
    atom? n (.op s :: ts) = none := by
  simp only [starters, mem_cons, not_mem_nil, or_false, not_or] at hs
  match n with
  | 0 => rfl
  | 1 => simp [atom?, hs, bracketed?]
  | n + 2 => simp [atom?, hs, bracketed?]

/-- The operators that no expression starts with and that stand after one. -/
def enders : List String := [")", "]", "\x7d", ","]

theorem expr?_eq_none (hs : s ∈ enders) (ts : List Token) (n : Nat) :
    expr? n (.op s :: ts) = none := by
  have hsign : ∀ s ∈ enders, s ∉ starters ∧ signs.lookup s = none := by decide
  obtain ⟨hstart, hlookup⟩ := hsign s hs
  have hranked : ∀ n, ranked? n ranks (.op s :: ts) = none :=
    ranked?_eq_none (atom?_op_eq_none hstart ts) (by simp [takeSigned, hlookup]) ranks
  have hnegation : ∀ n, negation? n (.op s :: ts) = none := by
    intro n
    cases n <;> simp [negation?, takeKeyword, hranked]
  have hboth : ∀ n, both? n (.op s :: ts) = none := by
    intro n
    cases n <;> simp [both?, hnegation]
  have heither : ∀ n, either? n (.op s :: ts) = none := by
    intro n
    cases n <;> simp [either?, hboth]
  cases n <;> simp [expr?, heither]

/-- What starts with an expression starts with no closing bracket and no comma. -/
theorem takeOp_of_expr? {r : Expr × List Token} (h : expr? n ts = some r)
    (hs : s ∈ enders) (x : List Token) : takeOp s (ts ++ x) = none := by
  cases ts with
  | nil => exact absurd (expr?_read h).shorter (Nat.not_succ_le_zero _)
  | cons t ts =>
    cases t with
    | op s' =>
      have hne : s' ≠ s := by
        rintro rfl
        rw [expr?_eq_none hs] at h
        cases h
      simp [takeOp, hne]
    | _ => rfl

theorem IsExpr.takeOp_eq_none (h : IsExpr ts e) (hs : s ∈ enders) (x : List Token) :
    takeOp s (ts ++ x) = none := by
  obtain ⟨b, h⟩ := h
  exact takeOp_of_expr? (h b (Nat.le_refl _)) hs x

theorem takeOp_self (s : String) (ts : List Token) : takeOp s (.op s :: ts) = some ts := by
  simp [takeOp]

theorem takeOp_other {t : String} (h : (t == s) = false) (ts : List Token) :
    takeOp s (.op t :: ts) = none := by
  simp only [takeOp, h]
  rfl

def closers : List String := [")", "]"]

theorem halts_closer (hc : close ∈ closers) (x : List Token) :
    Halts (.op close :: x) := by
  have hall : ∀ c ∈ closers, haltSigns.contains c = true := by decide
  exact hall close hc

/-- Expressions with commas between them, up to the closing bracket. -/
structure AreItems (close : String) (ts : List Token) (es : List Expr) : Prop where
  read : ∀ x, Yields (items? · close) (ts ++ x) (es, false) x
  starts : es ≠ [] → ∀ x, takeOp close (ts ++ x) = none

theorem areItems_nil (close : String) : AreItems close [.op close] [] :=
  ⟨fun x => yields_step fun n => by simp only [cons_append, items?, takeOp_self]; rfl,
    fun h => absurd rfl h⟩

theorem IsExpr.takeOp_closer (h : IsExpr ts e) (hc : close ∈ closers)
    (x : List Token) : takeOp close (ts ++ x) = none :=
  h.takeOp_eq_none (mem_append_left ["\x7d", ","] hc) x

theorem IsExpr.items (h : IsExpr ts e) (hc : close ∈ closers) :
    AreItems close (ts ++ [Token.op close]) [e] := by
  have hcomma : ∀ c ∈ closers, (c == ",") = false := by decide
  refine ⟨fun x => (h.yields (halts_closer hc x)).step fun n hn => ?_, fun _ x => ?_⟩
  · simp [items?, h.takeOp_closer hc, hn, takeOp_other (hcomma close hc), takeOp_self]
  · rw [append_assoc]
    exact h.takeOp_closer hc _

theorem AreItems.cons (hc : close ∈ closers) (h : IsExpr ts e)
    (hs : AreItems close us es) (hne : es ≠ []) :
    AreItems close (ts ++ Token.op "," :: us) (e :: es) := by
  refine ⟨fun x => ?_, fun _ x => ?_⟩
  · have hhalts : Halts (.op "," :: (us ++ x)) := show haltSigns.contains "," = true by decide
    refine (h.yields hhalts).step₂ (hs.read x) fun n hn hm => ?_
    simp [items?, h.takeOp_closer hc, hn, takeOp_self, hs.starts hne, hm]
  · rw [append_assoc]
    exact h.takeOp_closer hc _

/-! ## Primary expressions -/

/-- What follows an expression `owner` and makes it `e`: members, calls and items. -/
def IsTrailed (owner : Expr) (ts : List Token) (e : Expr) : Prop :=
  ∀ x, Quiet x → Yields (trailers? · owner) (ts ++ x) e x

theorem isTrailed_nil (e : Expr) : IsTrailed e [] e :=
  fun _ hx => yields_step fun n => by simp [trailers?, hx.dot, hx.call, hx.item]

theorem IsTrailed.member {name : String} (h : IsTrailed (.member owner name) ts e) :
    IsTrailed owner (.op "." :: .name name :: ts) e := by
  refine fun _ hx => (h _ hx).step fun n hn => ?_
  simp [trailers?, takeOp_self, hn]

theorem IsTrailed.call (hs : AreItems ")" us es) (h : IsTrailed (.call owner es) ts e) :
    IsTrailed owner (.op "(" :: (us ++ ts)) e := by
  refine fun x hx => (hs.read (ts ++ x)).step₂ (h _ hx) fun n hn hm => ?_
  simp [trailers?, takeOp_other (show ("(" == ".") = false by decide), takeOp_self, hn, hm]

theorem isTrailed_member (owner : Expr) (name : String) :
    IsTrailed owner [.op ".", .name name] (.member owner name) :=
  (isTrailed_nil _).member

theorem isTrailed_call (hs : AreItems ")" us es) :
    IsTrailed owner (.op "(" :: us) (.call owner es) := by
  have hcall := (isTrailed_nil (.call owner es)).call hs
  rwa [append_nil] at hcall

/-- Names, literals and brackets, and members, calls and items of them. -/
def IsPrimary (ts : List Token) (e : Expr) : Prop :=
  ∀ x, Quiet x → Yields primary? (ts ++ x) e x

theorem IsTrailed.name {name : String} (h : IsTrailed (.name name) ts e) :
    IsPrimary (.name name :: ts) e := by
  have hatom : ∀ y, Yields atom? (.name name :: y) (.name name) y := fun y =>
    yields_step fun n => rfl
  refine fun x hx => (hatom (ts ++ x)).step₂ (h _ hx) fun n hn hm => ?_
  simp [primary?, hn, hm]

theorem IsTrailed.paren {inner : Expr} (hs : IsExpr us inner) (h : IsTrailed inner ts e) :
    IsPrimary (.op "(" :: (us ++ Token.op ")" :: ts)) e := by
  have hclose : ")" ∈ closers := by decide
  have hatom : ∀ y, Yields atom? (.op "(" :: (us ++ Token.op ")" :: y)) inner y := by
    intro y
    have hbracketed : Yields (bracketed? · "(") (us ++ Token.op ")" :: y) inner y := by
      refine ((hs.items hclose).read y).step fun n hn => ?_
      simp only [append_assoc, cons_append, nil_append] at hn
      simp [bracketed?, hn]
    exact hbracketed.step fun n hn => by simpa [atom?] using hn
  refine fun x hx => (hatom (ts ++ x)).step₂ (h _ hx) fun n hn hm => ?_
  simp [primary?, hn, hm]

theorem isPrimary_name (name : String) : IsPrimary [.name name] (.name name) :=
  (isTrailed_nil _).name

theorem isPrimary_paren {inner : Expr} (hs : IsExpr us inner) :
    IsPrimary (.op "(" :: (us ++ [Token.op ")"])) inner :=
  (isTrailed_nil inner).paren hs

/-- Tokens that are an expression in brackets. -/
def IsInner (ts : List Token) (e : Expr) : Prop :=
  IsPrimary (.op "(" :: (ts ++ [Token.op ")"])) e

theorem IsExpr.inner (h : IsExpr ts e) : IsInner ts e :=
  isPrimary_paren h

theorem isPrimary_of_atom (hatom : ∀ x, Quiet x → Yields atom? (ts ++ x) e x) :
    IsPrimary ts e := by
  refine fun x hx => (hatom _ hx).step₂ (isTrailed_nil e _ hx) fun n hn hm => ?_
  simp only [nil_append] at hm
  simp [primary?, hn, hm]

theorem isPrimary_number (v : Value) : IsPrimary [.number v] (.constant v) :=
  isPrimary_of_atom fun _ _ => yields_step fun _ => rfl

theorem isPrimary_text (s : String) : IsPrimary [.text s] (.constant (.str s)) :=
  isPrimary_of_atom fun _ hx => yields_step fun n => by simp [atom?, hx.text]

theorem isPrimary_word {word : String} {v : Value} (h : wordValues.lookup word = some v) :
    IsPrimary [.keyword word] (.constant v) :=
  isPrimary_of_atom fun _ _ => yields_step fun n => by simp [atom?, h]

/-! ## Signs and binary operators -/

/-- Primary expressions and signed ones. -/
def IsUnary (ts : List Token) (e : Expr) : Prop :=
  ∀ x, Quiet x → Yields signed? (ts ++ x) e x

theorem takeSigned_eq_none {ts rest : List Token} (h : primary? n ts = some (e, rest)) :
    takeSigned ts = none := by
  cases hs : takeSigned ts with
  | none => rfl
  | some r =>
    exfalso
    unfold takeSigned at hs
    split at hs
    · rename_i s ts
      obtain ⟨sign, hsign, -⟩ := Option.map_eq_some_iff.mp hs
      have hstart : s ∉ starters := by
        have hall : ∀ s ∈ starters, signs.lookup s = none := by decide
        intro hmem
        rw [hall s hmem] at hsign
        cases hsign
      cases n with
      | zero => cases h
      | succ n => simp [primary?, atom?_op_eq_none hstart] at h
    · cases hs

theorem IsPrimary.unary (h : IsPrimary ts e) : IsUnary ts e := by
  refine fun x hx => (h _ hx).step fun n hn => ?_
  simp [signed?, takeSigned_eq_none hn, hn, hx.power]

theorem IsUnary.signed {sign : String} {op : Value.Sign} (hop : signs.lookup sign = some op)
    (h : IsUnary ts e) : IsUnary (.op sign :: ts) (.signed op e) := by
  refine fun x hx => (h _ hx).step fun n hn => ?_
  have hsign : takeSigned (.op sign :: (ts ++ x)) = some (op, ts ++ x) := by
    rw [takeSigned, hop]
    rfl
  simp [signed?, hsign, hn]

theorem IsUnary.minus (h : IsUnary ts e) : IsUnary (.op "-" :: ts) (.signed .minus e) :=
  h.signed rfl

/-- Operands of operators of the given ranks, and what these make of them. -/
def IsRanked (rs : List (List (String × Value.Operator))) (ts : List Token) (e : Expr) : Prop :=
  ∀ x, EndsRanked rs x → Yields (ranked? · rs) (ts ++ x) e x

theorem IsUnary.ranked (h : IsUnary ts e) : IsRanked [] ts e := by
  refine fun x hx => (h _ hx.quiet).step fun n hn => ?_
  simp only [ranked?, hn]

variable {rank : List (String × Value.Operator)} {tighter : List (List (String × Value.Operator))}

theorem EndsRanked.tail (h : EndsRanked (rank :: tighter) x) : EndsRanked tighter x :=
  ⟨h.quiet, fun r hr => h.ranks r (mem_cons_of_mem _ hr)⟩

theorem EndsRanked.head (h : EndsRanked (rank :: tighter) x) : takeRanked rank x = none :=
  h.ranks rank (mem_cons_self ..)

theorem EndsRanked.rest (h : EndsRanked (rank :: tighter) x) (left : Expr) :
    Yields (rankedRest? · rank tighter left) x left x :=
  yields_step fun n => by simp only [rankedRest?, h.head]

theorem IsRanked.lift (h : IsRanked tighter ts e) : IsRanked (rank :: tighter) ts e := by
  refine fun x hx => (h _ hx.tail).step₂ (hx.rest e) fun n hn hm => ?_
  simp [ranked?, hn, hm]

theorem IsUnary.operand (h : IsUnary ts e) (rs : List (List (String × Value.Operator))) :
    IsRanked rs ts e := by
  induction rs with
  | nil => exact h.ranked
  | cons rank rs ih => exact ih.lift

/-- The operators of a rank, which end the operands of tighter ones. -/
structure IsOperator (rank : List (String × Value.Operator))
    (tighter : List (List (String × Value.Operator))) (s : String) (op : Value.Operator) :
    Prop where
  here : rank.lookup s = some op
  ends : ∀ x, EndsRanked tighter (.op s :: x)

theorem IsRanked.rest
    (hop : IsOperator rank tighter s op) (h : IsRanked tighter us right) (left : Expr)
    {x y : List Token} (hy : EndsRanked tighter y)
    (hrest : Yields (rankedRest? · rank tighter (.operate op left right)) y e x) :
    Yields (rankedRest? · rank tighter left) (.op s :: (us ++ y)) e x := by
  have htake : takeRanked rank (.op s :: (us ++ y)) = some (op, us ++ y) := by
    simp [takeRanked, hop.here]
  refine (h _ hy).step₂ hrest fun n hn hm => ?_
  simp [rankedRest?, htake, hn, hm]

theorem IsRanked.operate (hop : IsOperator rank tighter s op) (hl : IsRanked tighter ts left)
    (hr : IsRanked tighter us right) :
    IsRanked (rank :: tighter) (ts ++ Token.op s :: us) (.operate op left right) := by
  intro x hx
  have hrest := hr.rest hop left hx.tail (hx.rest _)
  refine (hl _ (hop.ends (us ++ x))).step₂ hrest fun n hn hm => ?_
  simp [ranked?, hn, hm]

theorem IsRanked.operate₂ {s' : String} {op' : Value.Operator} {last : Expr}
    {vs : List Token} (hop : IsOperator rank tighter s op) (hop' : IsOperator rank tighter s' op')
    (hl : IsRanked tighter ts left) (hr : IsRanked tighter us right)
    (hlast : IsRanked tighter vs last) :
    IsRanked (rank :: tighter) (ts ++ Token.op s :: (us ++ Token.op s' :: vs))
      (.operate op' (.operate op left right) last) := by
  intro x hx
  have hrest := hlast.rest hop' (.operate op left right) hx.tail (hx.rest _)
  have hrest' := hr.rest hop left (hop'.ends (vs ++ x)) hrest
  refine (hl _ (hop.ends (us ++ Token.op s' :: (vs ++ x)))).step₂ hrest' fun n hn hm => ?_
  simp [ranked?, hn, hm]

def sumRank : List (String × Value.Operator) :=
  [("+", .add), ("-", .subtract)]

def productRank : List (String × Value.Operator) :=
  [("*", .multiply), ("/", .divide), ("//", .wholeQuotient), ("%", .remainder), ("@", .matrix)]

theorem IsRanked.ofProduct (h : IsRanked [productRank] ts e) : IsRanked ranks ts e :=
  h.lift.lift.lift.lift.lift

theorem IsRanked.ofSum (h : IsRanked [sumRank, productRank] ts e) : IsRanked ranks ts e :=
  h.lift.lift.lift.lift

theorem isOperator_of_lookup (h : rank.lookup s = some op)
    (hnone : ∀ s ∈ [".", "(", "[", "**"], rank.lookup s = none)
    (htighter : ∀ r ∈ tighter, r.lookup s = none) : IsOperator rank tighter s op := by
  have hs : ∀ s' ∈ [".", "(", "[", "**"], (s == s') = false := fun s' hs' =>
    beq_eq_false_iff_ne.mpr (by rintro rfl; cases h.symm.trans (hnone _ hs'))
  simp only [forall_mem_cons] at hs
  refine ⟨h, fun x => ⟨⟨takeOp_other hs.1 x, takeOp_other hs.2.1 x, takeOp_other hs.2.2.1 x,
    takeOp_other hs.2.2.2.1 x, fun s => rfl⟩, fun r hr => ?_⟩⟩
  simp [takeRanked, htighter r hr]

theorem isOperator_product (h : productRank.lookup s = some op) :
    IsOperator productRank [] s op :=
  isOperator_of_lookup h (by decide) nofun

theorem isOperator_sum (h : sumRank.lookup s = some op) :
    IsOperator sumRank [productRank] s op := by
  have hproduct : productRank.lookup s = none := by
    by_cases hplus : s = "+"
    · rw [hplus]
      rfl
    by_cases hminus : s = "-"
    · rw [hminus]
      rfl
    simp [sumRank, lookup_cons, beq_eq_false_iff_ne.mpr hplus, beq_eq_false_iff_ne.mpr hminus] at h
  exact isOperator_of_lookup h (by decide) (forall_mem_singleton.mpr hproduct)

theorem isRanked_product
    (hop : productRank.lookup s = some op) (hl : IsUnary ts left) (hr : IsUnary us right) :
    IsRanked ranks (ts ++ Token.op s :: us) (.operate op left right) :=
  (IsRanked.operate (isOperator_product hop) (hl.operand []) (hr.operand [])).ofProduct

theorem isRanked_sum
    (hop : sumRank.lookup s = some op) (hl : IsUnary ts left) (hr : IsUnary us right) :
    IsRanked ranks (ts ++ Token.op s :: us) (.operate op left right) :=
  (IsRanked.operate (isOperator_sum hop) (hl.operand _) (hr.operand _)).ofSum

/-! ## Comparisons -/

def IsComparison (ts : List Token) (e : Expr) : Prop :=
  ∀ x, EndsComparison x → Yields negation? (ts ++ x) e x

theorem takeNot_eq_none {rs : List (List (String × Value.Operator))}
    {ts rest : List Token} (h : ranked? n rs ts = some (e, rest)) :
    takeKeyword "not" ts = none := by
  cases hs : takeKeyword "not" ts with
  | none => rfl
  | some r =>
    exfalso
    unfold takeKeyword at hs
    split at hs
    · split at hs
      · rename_i s ts hnot
        obtain rfl := beq_iff_eq.mp hnot
        have hatom : ∀ n, atom? n (.keyword "not" :: ts) = none := by
          intro n
          cases n <;> rfl
        rw [ranked?_eq_none hatom rfl] at h
        cases h
      · cases hs
    · cases hs

theorem IsRanked.comparison (h : IsRanked ranks ts e) : IsComparison ts e := by
  intro x hx
  have hrest : Yields comparisons? x [] x :=
    yields_step fun n => by simp only [comparisons?, hx.comparison]
  refine (h _ hx.toEndsRanked).step₂ hrest fun n hn hm => ?_
  simp [negation?, takeNot_eq_none hn, hn, hm]

theorem IsRanked.compare {c : Comparison} (tc : List Token)
    (hc : ∀ x, takeComparison (tc ++ (us ++ x)) = some (c, us ++ x))
    (hends : ∀ x, EndsRanked ranks (tc ++ x)) (hl : IsRanked ranks ts left)
    (hr : IsRanked ranks us right) :
    IsComparison (ts ++ (tc ++ us)) (.compare left [(c, right)]) := by
  intro x hx
  have hnil : Yields comparisons? x [] x :=
    yields_step fun n => by simp only [comparisons?, hx.comparison]
  have hrest : Yields comparisons? (tc ++ (us ++ x)) [(c, right)] x := by
    refine (hr _ hx.toEndsRanked).step₂ hnil fun n hn hm => ?_
    simp [comparisons?, hc, hn, hm]
  refine (hl _ (hends (us ++ x))).step₂ hrest fun n hn hm => ?_
  simp only [append_assoc, negation?, takeNot_eq_none hn, Option.bind_eq_bind, hn,
    Option.bind_some, hm, isEmpty_cons]
  rfl

theorem endsRanked_keyword (word : String) (x : List Token) :
    EndsRanked ranks (.keyword word :: x) :=
  ⟨⟨rfl, rfl, rfl, rfl, fun _ => rfl⟩, fun _ _ => rfl⟩

theorem isComparison_sign {c : Comparison}
    (hs : s ∈ ["<", ">", "=="]) (hc : comparisonSigns.lookup s = some c) (hl : IsUnary ts left)
    (hr : IsUnary us right) :
    IsComparison (ts ++ Token.op s :: us) (.compare left [(c, right)]) := by
  have hall : ∀ s ∈ ["<", ">", "=="], (s == ".") = false ∧ (s == "(") = false ∧
      (s == "[") = false ∧ (s == "**") = false ∧ ∀ rank ∈ ranks, rank.lookup s = none := by decide
  obtain ⟨hdot, hcall, hitem, hpower, hranks⟩ := hall s hs
  refine IsRanked.compare [.op s] (fun x => by simp [takeComparison, hc]) (fun x => ?_)
    (hl.operand ranks) (hr.operand ranks)
  exact ⟨⟨takeOp_other hdot x, takeOp_other hcall x, takeOp_other hitem x, takeOp_other hpower x,
    fun s => rfl⟩, fun rank hr => by simp [takeRanked, hranks rank hr]⟩

theorem IsComparison.negate (h : IsComparison ts e) :
    IsComparison (.keyword "not" :: ts) (.negate e) := by
  refine fun x hx => (h _ hx).step fun n hn => ?_
  have hnot : takeKeyword "not" (.keyword "not" :: (ts ++ x)) = some (ts ++ x) := rfl
  simp [negation?, hnot, hn]

/-! ## `and`, `or` and the conditional -/

/-- The parts of a conditional. -/
def IsEither (ts : List Token) (e : Expr) : Prop :=
  ∀ x, EndsEither x → Yields either? (ts ++ x) e x

theorem IsComparison.yields_both (h : IsComparison ts e) (hx : EndsComparison x)
    (hand : takeKeyword "and" x = none) : Yields both? (ts ++ x) e x :=
  (h _ hx).step fun n hn => by
    simp [both?, hn, hand]

theorem yields_either_of_both {y : List Token} (h : Yields both? ts e y)
    (hor : takeKeyword "or" y = none) : Yields either? ts e y :=
  h.step fun n hn => by simp [either?, hn, hor]

theorem IsComparison.either (h : IsComparison ts e) : IsEither ts e := fun _ hx =>
  yields_either_of_both (h.yields_both hx.toEndsComparison hx.both) hx.either

theorem endsComparison_keyword (word : String) (h : word ∈ ["and", "or", "if", "else"])
    (x : List Token) : EndsComparison (.keyword word :: x) := by
  have hquiet : Quiet (.keyword word :: x) := ⟨rfl, rfl, rfl, rfl, fun s => rfl⟩
  refine ⟨⟨hquiet, fun rank _ => rfl⟩, ?_⟩
  have hall : ∀ w ∈ ["and", "or", "if", "else"],
      (w == "in") = false ∧ (w == "not") = false ∧ (w == "is") = false := by decide
  obtain ⟨hin, hnot, his⟩ := hall word h
  simp [takeComparison, hin, hnot, his]

theorem IsComparison.and (hl : IsComparison ts left) (hr : IsComparison us right) :
    IsEither (ts ++ Token.keyword "and" :: us) (.both left right) := by
  intro x hx
  have hright := hr.yields_both hx.toEndsComparison hx.both
  have hends := endsComparison_keyword "and" (by decide) (us ++ x)
  have hand : takeKeyword "and" (.keyword "and" :: (us ++ x)) = some (us ++ x) := rfl
  refine yields_either_of_both ((hl _ hends).step₂ hright fun n hn hm => ?_) hx.either
  simp [both?, hn, hand, hm]

theorem IsComparison.or (hl : IsComparison ts left) (hr : IsComparison us right) :
    IsEither (ts ++ Token.keyword "or" :: us) (.either left right) := by
  intro x hx
  have hends := endsComparison_keyword "or" (by decide) (us ++ x)
  have hor : takeKeyword "or" (.keyword "or" :: (us ++ x)) = some (us ++ x) := rfl
  refine (hl.yields_both hends rfl).step₂ (hr.either _ hx) fun n hn hm => ?_
  simp [either?, hn, hor, hm]

theorem IsEither.expr (h : IsEither ts e) : IsExpr ts e := by
  have hnil : EndsEither [] := Halts.endsEither (x := []) trivial
  have hread := h _ hnil
  rw [append_nil] at hread
  refine hread.step fun n hn => ?_
  simp only [expr?, Option.bind_eq_bind, hn, Option.bind_some]
  rfl

theorem IsComparison.expr (h : IsComparison ts e) : IsExpr ts e :=
  h.either.expr

theorem IsRanked.expr (h : IsRanked ranks ts e) : IsExpr ts e :=
  h.comparison.expr

theorem IsUnary.expr (h : IsUnary ts e) : IsExpr ts e :=
  (h.operand ranks).expr

theorem IsPrimary.expr (h : IsPrimary ts e) : IsExpr ts e :=
  h.unary.expr

theorem IsEither.choose {condition yes no : Expr} {vs : List Token} (hyes : IsEither ts yes)
    (hc : IsEither us condition) (hno : IsExpr vs no) :
    IsExpr (ts ++ Token.keyword "if" :: (us ++ Token.keyword "else" :: vs))
      (.choose condition yes no) := by
  have hends : ∀ word ∈ ["if", "else"], ∀ x, EndsEither (.keyword word :: x) := by
    intro word h x
    have hall : ∀ w ∈ ["if", "else"],
        w ∈ ["and", "or", "if", "else"] ∧ (w == "and") = false ∧ (w == "or") = false := by decide
    obtain ⟨hmem, hand, hor⟩ := hall word h
    exact ⟨endsComparison_keyword word hmem x, by simp [takeKeyword, hand],
      by simp [takeKeyword, hor]⟩
  have hif : ∀ x, takeKeyword "if" (.keyword "if" :: x) = some x := fun x => rfl
  have helse : ∀ x, takeKeyword "else" (.keyword "else" :: x) = some x := fun x => rfl
  obtain ⟨l₁, h₁⟩ := hyes _ (hends "if" (by decide) (us ++ Token.keyword "else" :: vs))
  obtain ⟨l₂, h₂⟩ := hc _ (hends "else" (by decide) vs)
  obtain ⟨l₃, h₃⟩ := hno
  refine ⟨max l₁ (max l₂ l₃) + 1, fun n hn => ?_⟩
  obtain ⟨n, rfl⟩ : ∃ m, n = m + 1 := ⟨n - 1, by omega⟩
  simp [expr?, h₁ n (by omega), hif, h₂ n (by omega), helse, h₃ n (by omega)]

end

end Sketchflow.Script
