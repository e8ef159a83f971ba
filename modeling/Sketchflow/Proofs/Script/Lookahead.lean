import Sketchflow.Script.Parser

/-!
# Looking for a token

The parser looks at one or two tokens to see how an expression goes on. What it finds does not
depend on what follows the expression, if that ends it.

* `Halts` are the tokens that end an expression.
* `Looks` are the looks that go the same way when halting tokens follow, and take what they find.
  `Passes` are those that find nothing in halting tokens.
* `looks_op`, `passes_op` and their like: the looks of the parser.
-/

namespace Sketchflow.Script

open List

/-! ## What ends an expression -/

/-- The operators that end an expression. -/
def haltSigns : List String := [")", ",", ":", "]", "=", "+="]

/-- Whether a token ends an expression. -/
def Token.halts : Token → Bool
  | .newline => true
  | .op s => haltSigns.contains s
  | _ => false

/-- Tokens that can follow an expression. -/
def Halts : List Token → Prop
  | [] => True
  | t :: _ => t.halts = true

/-! ## Looks -/

section

variable {β : Type} {look : List Token → Option (β × List Token)}

/-- A look in front. It goes the same way when halting tokens follow, if there is something to look
at. -/
structure Looks (look : List Token → Option (β × List Token)) : Prop where
  found : ∀ {ts r x}, Halts x → look ts = some r → look (ts ++ x) = some (r.1, r.2 ++ x)
  missed : ∀ {ts x}, Halts x → look ts = none → 0 < ts.length → look (ts ++ x) = none
  shorter : ∀ {ts r}, look ts = some r → r.2.length < ts.length

/-- A look that finds nothing in what halts. -/
def Passes (look : List Token → Option (β × List Token)) : Prop :=
  ∀ x, Halts x → look x = none

structure LooksAt (look : List Token → Option (β × List Token)) (one : Token → Option β) :
    Prop where
  nil : look [] = none
  cons : ∀ t ts, look (t :: ts) = (one t).map fun b => (b, ts)

variable {one : Token → Option β}

theorem LooksAt.looks (h : LooksAt look one) : Looks look := by
  have happend : ∀ t ts x, look (t :: ts ++ x) = (one t).map fun b => (b, ts ++ x) :=
    fun t ts x => h.cons t (ts ++ x)
  constructor
  · intro ts r x _ hfound
    cases ts with
    | nil => rw [h.nil] at hfound; cases hfound
    | cons t ts =>
      rw [h.cons] at hfound
      obtain ⟨b, hb, rfl⟩ := Option.map_eq_some_iff.mp hfound
      rw [happend, hb, Option.map_some]
  · intro ts x _ hmissed hpos
    cases ts with
    | nil => cases hpos
    | cons t ts =>
      rw [h.cons, Option.map_eq_none_iff] at hmissed
      rw [happend, hmissed, Option.map_none]
  · intro ts r hfound
    cases ts with
    | nil => rw [h.nil] at hfound; cases hfound
    | cons t ts =>
      rw [h.cons] at hfound
      obtain ⟨b, -, rfl⟩ := Option.map_eq_some_iff.mp hfound
      exact Nat.lt_succ_self _

theorem LooksAt.passes (h : LooksAt look one) (hone : ∀ t, t.halts = true → one t = none) :
    Passes look := by
  intro x hx
  cases x with
  | nil => exact h.nil
  | cons t x => rw [h.cons, hone t hx, Option.map_none]

end

/-! ## The looks of the parser -/

/-- A look for a given token, as one that finds nothing else. -/
def just (take : List Token → Option (List Token)) (ts : List Token) : Option (Unit × List Token) :=
  (take ts).map fun rest => ((), rest)

theorem just_eq_some {take : List Token → Option (List Token)} {ts rest : List Token} :
    just take ts = some ((), rest) ↔ take ts = some rest := by
  simp [just]

theorem just_eq_none {take : List Token → Option (List Token)} {ts : List Token} :
    just take ts = none ↔ take ts = none := by
  simp [just]

theorem looksAt_op (s : String) : LooksAt (just (takeOp s)) fun
    | .op t => if t == s then some () else none
    | _ => none := by
  refine ⟨rfl, fun t ts => ?_⟩
  cases t with
  | op t => simp only [just, takeOp]; split <;> rfl
  | _ => rfl

theorem looksAt_keyword (s : String) : LooksAt (just (takeKeyword s)) fun
    | .keyword t => if t == s then some () else none
    | _ => none := by
  refine ⟨rfl, fun t ts => ?_⟩
  cases t with
  | keyword t => simp only [just, takeKeyword]; split <;> rfl
  | _ => rfl

theorem looksAt_ranked (rank : List (String × Value.Operator)) : LooksAt (takeRanked rank) fun
    | .op t => rank.lookup t
    | _ => none := by
  refine ⟨rfl, fun t ts => ?_⟩
  cases t <;> rfl

theorem looksAt_signed : LooksAt takeSigned fun
    | .op t => signs.lookup t
    | _ => none := by
  refine ⟨rfl, fun t ts => ?_⟩
  cases t <;> rfl

theorem passes_op {s : String} (hs : s ∉ haltSigns) : Passes (just (takeOp s)) := by
  refine (looksAt_op s).passes fun t ht => ?_
  cases t with
  | op t =>
    have hne : t ≠ s := by
      rintro rfl
      exact hs (contains_iff_mem.mp ht)
    exact if_neg (by simpa using hne)
  | _ => rfl

theorem passes_keyword (s : String) : Passes (just (takeKeyword s)) := by
  refine (looksAt_keyword s).passes fun t ht => ?_
  cases t with
  | keyword t => cases ht
  | _ => rfl

theorem passes_ranked {rank : List (String × Value.Operator)}
    (hr : ∀ s ∈ haltSigns, rank.lookup s = none) : Passes (takeRanked rank) := by
  refine (looksAt_ranked rank).passes fun t ht => ?_
  cases t with
  | op t => exact hr t (contains_iff_mem.mp ht)
  | _ => rfl

theorem passes_signed : Passes takeSigned := by
  have hnone : ∀ s ∈ haltSigns, signs.lookup s = none := by decide
  refine looksAt_signed.passes fun t ht => ?_
  cases t with
  | op t => exact hnone t (contains_iff_mem.mp ht)
  | _ => rfl

theorem takeKeyword_append {x : List Token} (hx : Halts x) (s : String) (ts : List Token) :
    takeKeyword s (ts ++ x) = (takeKeyword s ts).map (· ++ x) := by
  cases htake : takeKeyword s ts with
  | some rest => exact just_eq_some.mp ((looksAt_keyword s).looks.found hx (just_eq_some.mpr htake))
  | none =>
    refine just_eq_none.mp ?_
    cases ts with
    | nil => exact passes_keyword s x hx
    | cons t ts =>
      exact (looksAt_keyword s).looks.missed hx (just_eq_none.mpr htake) (Nat.succ_pos _)

/-- A comparison can be two tokens, and halting tokens do not make a second one. -/
theorem takeComparison_append {x : List Token} (hx : Halts x) (ts : List Token) :
    takeComparison (ts ++ x) = (takeComparison ts).map fun r => (r.1, r.2 ++ x) := by
  cases ts with
  | nil =>
    cases x with
    | nil => rfl
    | cons t x =>
      cases t with
      | op k =>
        have hnone : ∀ s ∈ haltSigns, comparisonSigns.lookup s = none := by decide
        simp [takeComparison, hnone k (contains_iff_mem.mp hx)]
      | keyword k => cases hx
      | _ => rfl
  | cons t ts =>
    cases t with
    | op k =>
      simp only [cons_append, takeComparison, Option.map_map]
      rfl
    | keyword k =>
      simp only [cons_append, takeComparison, takeKeyword_append hx]
      split
      · rfl
      split
      · rw [Option.map_map, Option.map_map]
        rfl
      split
      · cases takeKeyword "not" ts <;> rfl
      · rfl
    | _ => rfl

theorem takeComparison_length {ts rest : List Token} {c : Comparison}
    (h : takeComparison ts = some (c, rest)) : rest.length < ts.length := by
  have hword : ∀ {s us vs}, takeKeyword s us = some vs → vs.length < us.length := fun hr =>
    (looksAt_keyword _).looks.shorter (just_eq_some.mpr hr)
  unfold takeComparison at h
  split at h
  · obtain ⟨_, -, he⟩ := Option.map_eq_some_iff.mp h
    cases he
    exact Nat.lt_succ_self _
  · split at h
    · cases h
      exact Nat.lt_succ_self _
    split at h
    · obtain ⟨_, hr, he⟩ := Option.map_eq_some_iff.mp h
      cases he
      exact Nat.lt_succ_of_lt (hword hr)
    split at h
    · split at h
      · rename_i hr
        cases h
        exact Nat.lt_succ_of_lt (hword hr)
      · cases h
        exact Nat.lt_succ_self _
    · cases h
  · cases h

theorem looks_comparison : Looks takeComparison where
  found hx h := by rw [takeComparison_append hx, h, Option.map_some]
  missed hx h _ := by rw [takeComparison_append hx, h, Option.map_none]
  shorter h := takeComparison_length h

theorem passes_comparison : Passes takeComparison := fun _ hx => takeComparison_append hx []

theorem takeTexts_append {x : List Token} (hx : Halts x) (s : String) (ts : List Token) :
    takeTexts s (ts ++ x) = ((takeTexts s ts).1, (takeTexts s ts).2 ++ x) := by
  induction ts generalizing s with
  | nil =>
    cases x with
    | nil => rfl
    | cons t x =>
      cases t with
      | text k => cases hx
      | _ => rfl
  | cons t ts ih =>
    cases t with
    | text k => exact ih _
    | _ => rfl

theorem takeTexts_length (s : String) (ts : List Token) :
    (takeTexts s ts).2.length ≤ ts.length := by
  induction ts generalizing s with
  | nil => exact Nat.le_refl _
  | cons t ts ih =>
    cases t with
    | text k => exact Nat.le_succ_of_le (ih _)
    | _ => exact Nat.le_refl _

end Sketchflow.Script
