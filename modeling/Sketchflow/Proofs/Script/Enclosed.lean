import Sketchflow.Proofs.Script.Expression
import Sketchflow.Proofs.Script.Numeral

/-!
# Reading inside brackets

Inside brackets the ends of lines keep tokens apart, as blanks do.

* `isFiller` are the characters that keep tokens apart there. **`Lexes.fillers`**: what stands
  between tokens makes no difference. `lexes_odd`: blanks that no program has end the reading.
* `evened_append`, `mem_evened`: the line ends of all systems, as line feeds.
* **`expression?_enclosed`**: what stands in brackets is an expression if its tokens are one.
-/

namespace Sketchflow.Script

open List

/-! ## Between tokens -/

/-- Whether a character keeps tokens apart inside brackets. -/
def isFiller (c : Char) : Bool :=
  isGap c || c == '\n'

section

variable {s : LexState} {cs : List Char} {out : Option (List Token)}

theorem Lexes.newline (hs : s.brackets ≠ []) (h : Lexes false s cs out) :
    Lexes false s ('\n' :: cs) out := by
  intro bound hb
  obtain ⟨bound, rfl⟩ : ∃ b, bound = b + 1 := ⟨bound - 1, by omega⟩
  have hopen : s.brackets.isEmpty = false := by simpa using hs
  rw [lexFrom, hopen]
  exact h bound (by simp only [length_cons] at hb; omega)

theorem Lexes.fillers (hs : s.brackets ≠ []) {gap : List Char} (hgap : ∀ c ∈ gap, isFiller c = true)
    (h : Lexes false s cs out) : Lexes false s (gap ++ cs) out := by
  induction gap with
  | nil => exact h
  | cons c gap ih =>
    have hrest := ih fun d hd => hgap d (mem_cons_of_mem _ hd)
    have hc := hgap c (mem_cons_self ..)
    rw [isFiller, Bool.or_eq_true, beq_iff_eq] at hc
    rcases hc with hc | rfl
    · exact hrest.blank hc
    · exact hrest.newline hs

theorem lexes_none {c : Char} (hc : c ∉ ['\n', '#', '\\']) (hgap : isGap c = false)
    (ht : token? (c :: cs) = none) : Lexes false s (c :: cs) none := by
  intro bound hb
  obtain ⟨bound, rfl⟩ : ∃ b, bound = b + 1 := ⟨bound - 1, by omega⟩
  rw [lexFrom_cons hc, hgap, ht]
  rfl

theorem token?_blank {c : Char} (hblank : Text.isBlank c = true) (x : List Char) :
    token? (c :: x) = none := by
  by_cases hwide : 0x80 ≤ c.toNat
  · exact (stranger_of_blank hblank hwide).token? x
  have hcode : c.toNat ∈ [9, 10, 11, 12, 13, 28, 29, 30, 31, 32] := by
    simp only [Text.isBlank, Bool.or_eq_true, Bool.and_eq_true, decide_eq_true_eq,
      beq_iff_eq] at hblank
    simp only [mem_cons, not_mem_nil, or_false]
    omega
  have hchar : c = Char.ofNat c.toNat := (Char.ofNat_toNat c).symm
  simp only [mem_cons, not_mem_nil, or_false] at hcode
  rcases hcode with h | h | h | h | h | h | h | h | h | h <;> rw [h] at hchar <;> subst hchar <;>
    rfl

theorem lexes_odd (hs : s.brackets ≠ []) {gap : List Char}
    (hgap : ∀ c ∈ gap, Text.isBlank c = true) (hodd : ∃ c ∈ gap, isFiller c = false)
    (x : List Char) : Lexes false s (gap ++ x) none := by
  induction gap with
  | nil =>
    obtain ⟨c, hc, -⟩ := hodd
    cases hc
  | cons c gap ih =>
    have hblank := hgap c (mem_cons_self ..)
    by_cases hc : isFiller c = true
    · have hrest := ih (fun d hd => hgap d (mem_cons_of_mem _ hd)) (by
        obtain ⟨d, hd, hfiller⟩ := hodd
        rcases mem_cons.mp hd with rfl | hd
        · rw [hc] at hfiller
          cases hfiller
        · exact ⟨d, hd, hfiller⟩)
      have hone : ∀ d ∈ [c], isFiller d = true := by simpa using hc
      exact (Lexes.fillers hs hone hrest :)
    · have hc : isFiller c = false := by simpa using hc
      have hgap : isGap c = false := (Bool.or_eq_false_iff.mp hc).1
      refine lexes_none (fun hm => ?_) hgap (token?_blank hblank _)
      simp only [mem_cons, not_mem_nil, or_false] at hm
      rcases hm with rfl | rfl | rfl
      · cases hc
      · cases hblank
      · cases hblank

end

/-! ## Line ends -/

/-- A text with the line ends of all systems as line feeds. -/
def evened : List Char → List Char
  | '\r' :: '\n' :: rest => '\n' :: evened rest
  | '\r' :: rest => '\n' :: evened rest
  | c :: rest => c :: evened rest
  | [] => []

theorem plainLines_evened (done cs : List Char) :
    plainLines done cs = done.reverse ++ evened cs := by
  fun_induction plainLines done cs <;> simp_all [evened]

theorem evened_of_clean {a : List Char} (ha : '\r' ∉ a) (b : List Char) :
    evened (a ++ b) = a ++ evened b := by
  induction a with
  | nil => rfl
  | cons c a ih =>
    have hc : c ≠ '\r' := fun he => ha (he ▸ mem_cons_self ..)
    rw [cons_append, evened, ih fun hm => ha (mem_cons_of_mem _ hm), cons_append]
    · exact fun _ he => absurd he hc
    · exact hc

theorem evened_append (a : List Char) {b : List Char} (hb : b.head? ≠ some '\n') :
    evened (a ++ b) = evened a ++ evened b := by
  fun_induction evened a with
  | case1 rest ih => rw [cons_append, cons_append, evened, ih, cons_append]
  | case2 rest hnext ih =>
    have hnext' : ∀ more, rest ++ b ≠ '\n' :: more := by
      intro more he
      cases rest with
      | nil => exact hb (by rw [nil_append] at he; rw [he]; rfl)
      | cons c rest => exact hnext rest (by rw [cons_append] at he; rw [(List.cons.inj he).1])
    rw [cons_append, evened, ih, cons_append]
    exact hnext'
  | case3 c rest hfirst hsecond ih =>
    have hc : c ≠ '\r' := fun he => hsecond he
    rw [cons_append, evened, ih, cons_append]
    · exact fun more he => absurd he hc
    · exact hc
  | case4 => rfl

theorem mem_evened {c : Char} (hc : c ≠ '\n') (cs : List Char) :
    c ∈ evened cs ↔ c ∈ cs ∧ c ≠ '\r' := by
  fun_induction evened cs with
  | case1 rest ih => simp [ih, hc]; tauto
  | case2 rest hnext ih => simp [ih, hc]; tauto
  | case3 d rest hfirst hsecond ih =>
    have hd : d ≠ '\r' := fun he => hsecond he
    simp only [mem_cons, ih]
    constructor
    · rintro (rfl | h)
      · exact ⟨.inl rfl, hd⟩
      · exact ⟨.inr h.1, h.2⟩
    · rintro ⟨rfl | h, hr⟩
      · exact .inl rfl
      · exact .inr ⟨h, hr⟩
  | case4 => simp

/-! ## In brackets -/

/-- The lexer inside a bracket, after some tokens. -/
def inside (ts : List Token) : LexState :=
  { brackets := ['('], busy := true, done := ts.reverse ++ [.op "("] }

theorem take_inside {ts : List Token} {t : Token} (ht : bracketsAfter ['('] t = some ['(']) :
    (inside ts).take t = some (inside (ts ++ [t])) := by
  rw [take_eq ht (by decide)]
  simp [inside]

theorem lexes_close (ts : List Token) {gap : List Char} (hgap : ∀ c ∈ gap, isFiller c = true) :
    Lexes false (inside ts) (gap ++ [')']) (some (.op "(" :: (ts ++ [.op ")", .newline]))) := by
  have hclose : token? [')'] = some (.op ")", []) := rfl
  refine Lexes.fillers (by simp [inside]) hgap (Lexes.token hclose (take_eq rfl (by decide))
    fun bound hb => ?_)
  obtain ⟨bound, rfl⟩ : ∃ b, bound = b + 1 := ⟨bound - 1, by omega⟩
  simp [lexFrom, LexState.finish, LexState.endLine, inside]

theorem tokens?_enclosed {cs : List Char} {out : Option (List Token)} (hzero : '\x00' ∉ cs)
    (h : Lexes false (inside []) (evened cs) out) : tokens? ('(' :: cs) = out := by
  have hnull : ¬('(' :: cs).contains (Char.ofNat 0) = true := fun hm =>
    (mem_cons.mp (contains_iff_mem.mp hm)).elim (by decide) hzero
  have hplain : plainLines [] ('(' :: cs) = '(' :: evened cs := by
    rw [plainLines_evened, evened, reverse_nil, nil_append]
    · simp
    · decide
  have hfresh := lexFrom_fresh (c := '(') (by decide) (2 * ('(' :: evened cs).length + 1) 0 {}
    (evened cs)
  have hindent : ({} : LexState).indentTo ⟨0, 0⟩ = some {} := rfl
  have htoken : token? ('(' :: evened cs) = some (.op "(", evened cs) := rfl
  have hopen : Lexes false {} ('(' :: evened cs) out :=
    Lexes.token htoken (take_eq rfl (by decide)) h
  rw [replicate_zero, nil_append, hindent, Option.bind_some] at hfresh
  rw [tokens?, if_neg hnull, hplain, hfresh]
  exact hopen _ (by simp)

/-- **What stands in brackets is an expression if its tokens are one.** -/
theorem expression?_enclosed {cs : List Char} {ts : List Token} {e : Expr} (hzero : '\x00' ∉ cs)
    (h : Lexes false (inside []) (evened cs) (some (.op "(" :: (ts ++ [.op ")", .newline]))))
    (he : IsExpr ts e) : expression? ('(' :: cs) = some e := by
  have hreverse : (Token.op "(" :: (ts ++ [.op ")", .newline])).reverse =
      .newline :: (Token.op "(" :: (ts ++ [.op ")"])).reverse := by simp
  have hgap : ('(' :: cs).dropWhile isGap = '(' :: cs := rfl
  rw [expression?, hgap, tokens?_enclosed hzero h, Option.bind_some, hreverse]
  simp only [reverse_reverse]
  exact (isPrimary_paren he).expr.whole?

theorem expression?_stuck {cs : List Char} (hzero : '\x00' ∉ cs)
    (h : Lexes false (inside []) (evened cs) none) : expression? ('(' :: cs) = none := by
  have hgap : ('(' :: cs).dropWhile isGap = '(' :: cs := rfl
  rw [expression?, hgap, tokens?_enclosed hzero h, Option.bind_none]

end Sketchflow.Script
