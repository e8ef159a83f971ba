import Sketchflow.Proofs.Script.Scan

/-!
# Pieces of lines

A line of a program is put together from fixed texts and the texts of expressions. What it reads as
is put together in the same way.

* `Inline` says which tokens a piece of a line spells; `inline?` computes them.
* **`Inline.append`**: two pieces spell the tokens of the first and then those of the second, if
  the second cannot go on the last token of the first.
* `Opens` are the fixed texts that end with a bracket or a blank, which anything can follow.
* `Balanced` says that the brackets of a piece close; `deepest` counts the brackets that are open
  at once.
-/

namespace Sketchflow.Script

open List

variable {c : Char} {ts : List Token}

/-- Whether a character only keeps tokens apart. -/
def isGap (c : Char) : Bool :=
  c == ' ' || c == '\t' || c == '\x0c'

theorem isGap_iff : isGap c = true ↔ c ∈ [' ', '\t', '\x0c'] := by
  simp [isGap, or_assoc]

/-- The tokens that a piece of a line spells. -/
inductive Inline : List Char → List Token → Prop where
  | nil : Inline [] []
  | blank {c : Char} {cs : List Char} {ts : List Token} (hc : isGap c = true)
      (h : Inline cs ts) : Inline (c :: cs) ts
  | token {cs rest : List Char} {t : Token} {ts : List Token} (ht : token? cs = some (t, rest))
      (h : Inline rest ts) : Inline cs (t :: ts)

/-- **Two pieces of a line spell the tokens of the first and then those of the second.** -/
theorem Inline.append {a b : List Char} {ta tb : List Token} (ha : Inline a ta) (hb : Inline b tb)
    (h : Follows b) : Inline (a ++ b) (ta ++ tb) := by
  induction ha with
  | nil => exact hb
  | blank hc _ ih => exact .blank hc ih
  | token ht _ ih => exact .token (token?_append h ht) ih

theorem Inline.head {cs : List Char} (h : Inline (c :: cs) ts) (hc : isGap c = false) :
    ∃ t rest us, ts = t :: us ∧ token? (c :: cs) = some (t, rest) ∧ Inline rest us := by
  cases h with
  | blank hb _ => rw [hc] at hb; cases hb
  | token ht h => exact ⟨_, _, _, rfl, ht, h⟩

/-! ## Computing the tokens -/

/-- The tokens of a piece; the bound is on its length. -/
def inlineWithin : Nat → List Char → Option (List Token)
  | _, [] => some []
  | 0, _ :: _ => none
  | bound + 1, c :: cs =>
    if isGap c then inlineWithin bound cs
    else (token? (c :: cs)).bind fun r => (inlineWithin bound r.2).map (r.1 :: ·)

/-- The tokens of a piece of a line, none if it is no piece. -/
def inline? (cs : List Char) : Option (List Token) :=
  inlineWithin cs.length cs

theorem inline_of_inlineWithin {bound : Nat} : ∀ {cs : List Char} {ts : List Token},
    inlineWithin bound cs = some ts → Inline cs ts := by
  induction bound with
  | zero =>
    intro cs ts h
    cases cs with
    | nil => cases h; exact .nil
    | cons c cs => cases h
  | succ bound ih =>
    intro cs ts h
    cases cs with
    | nil => cases h; exact .nil
    | cons c cs =>
      simp only [inlineWithin] at h
      split at h
      · rename_i hc
        exact .blank hc (ih h)
      · obtain ⟨r, hr, h⟩ := Option.bind_eq_some_iff.mp h
        obtain ⟨us, hus, rfl⟩ := Option.map_eq_some_iff.mp h
        exact .token hr (ih hus)

theorem length_inlineWithin {bound : Nat} : ∀ {cs : List Char} {ts : List Token},
    inlineWithin bound cs = some ts → ts.length ≤ bound := by
  induction bound with
  | zero =>
    intro cs ts h
    cases cs with
    | nil => cases h; exact Nat.le_refl 0
    | cons c cs => cases h
  | succ bound ih =>
    intro cs ts h
    cases cs with
    | nil => cases h; exact Nat.zero_le _
    | cons c cs =>
      simp only [inlineWithin] at h
      split at h
      · exact Nat.le_succ_of_le (ih h)
      · obtain ⟨r, -, h⟩ := Option.bind_eq_some_iff.mp h
        obtain ⟨us, hus, rfl⟩ := Option.map_eq_some_iff.mp h
        exact Nat.succ_le_succ (ih hus)

theorem inline_of_inline? {cs : List Char} (h : inline? cs = some ts) :
    Inline cs ts :=
  inline_of_inlineWithin h

theorem inlineWithin_of_inline {cs : List Char} (h : Inline cs ts) :
    ∀ {bound}, cs.length ≤ bound → inlineWithin bound cs = some ts := by
  induction h with
  | nil =>
    intro bound _
    cases bound <;> rfl
  | blank hc _ ih =>
    intro bound hb
    simp only [length_cons] at hb
    obtain ⟨bound, rfl⟩ : ∃ b, bound = b + 1 := ⟨bound - 1, by omega⟩
    rw [inlineWithin, if_pos hc]
    exact ih (by omega)
  | token ht _ ih =>
    rename_i cs rest t ts _
    intro bound hb
    have hlen := token?_length ht
    obtain ⟨bound, rfl⟩ : ∃ b, bound = b + 1 := ⟨bound - 1, by omega⟩
    cases cs with
    | nil => cases ht
    | cons c cs =>
      have hblank : isGap c = false := by
        by_contra hc
        have hmem : c ∈ ['\n', '#', '\\', ' ', '\t', '\x0c'] :=
          mem_append_right ['\n', '#', '\\'] (isGap_iff.mp (by simpa using hc))
        rw [token?_eq_none hmem] at ht
        cases ht
      rw [inlineWithin, hblank, if_neg Bool.false_ne_true, ht, Option.bind_some,
        ih (by simp only [length_cons] at hb hlen; omega)]
      rfl

theorem Inline.inline? {cs : List Char} (h : Inline cs ts) :
    inline? cs = some ts :=
  inlineWithin_of_inline h (Nat.le_refl _)

/-! ## Fixed texts that anything can follow -/

/-- A text that spells tokens whatever follows it. -/
def Opens (a : List Char) (ta : List Token) : Prop :=
  ∀ {b tb}, Inline b tb → Inline (a ++ b) (ta ++ tb)

/-- The tokens of a character that ends a text which anything can follow. -/
def openToken? (c : Char) : Option (List Token) :=
  if c == ' ' then some []
  else if c == '(' then some [.op "("]
  else if c == '[' then some [.op "["]
  else none

/-- The tokens of a text that anything can follow. -/
def opening? (a : List Char) : Option (List Token) :=
  match a.getLast? with
  | none => some []
  | some c => (inline? a.dropLast).bind fun ts => (openToken? c).map (ts ++ ·)

theorem inline_openToken {tc : List Token} (h : openToken? c = some tc)
    {b : List Char} {tb : List Token} (hb : Inline b tb) :
    Inline (c :: b) (tc ++ tb) ∧ Follows (c :: b) := by
  unfold openToken? at h
  split at h
  · rename_i hc
    rw [beq_iff_eq] at hc
    subst hc
    cases h
    exact ⟨.blank rfl hb, rfl⟩
  split at h
  · rename_i hc
    rw [beq_iff_eq] at hc
    subst hc
    cases h
    exact ⟨.token rfl hb, rfl⟩
  split at h
  · rename_i hc
    rw [beq_iff_eq] at hc
    subst hc
    cases h
    exact ⟨.token rfl hb, rfl⟩
  · cases h

theorem opens_of_opening? {a : List Char} {ta : List Token} (h : opening? a = some ta) :
    Opens a ta := by
  intro b tb hb
  unfold opening? at h
  split at h
  · rename_i hnil
    cases h
    rw [getLast?_eq_none_iff.mp hnil]
    exact hb
  · rename_i c hc
    obtain ⟨ts, hts, h⟩ := Option.bind_eq_some_iff.mp h
    obtain ⟨tc, htc, rfl⟩ := Option.map_eq_some_iff.mp h
    obtain ⟨init, rfl⟩ := getLast?_eq_some_iff.mp hc
    rw [dropLast_concat] at hts
    obtain ⟨hin, hf⟩ := inline_openToken htc hb
    rw [append_assoc, append_assoc]
    exact (inline_of_inline? hts).append hin hf

/-! ## Brackets -/

/-- The open brackets after tokens, none if one closes a bracket that is not open. -/
def bracketsAll : List Char → List Token → Option (List Char)
  | brackets, [] => some brackets
  | brackets, t :: ts => (bracketsAfter brackets t).bind (bracketsAll · ts)

@[simp] theorem bracketsAll_nil (brackets : List Char) :
    bracketsAll brackets [] = some brackets := rfl

@[simp] theorem bracketsAll_cons (brackets : List Char) (t : Token) (ts : List Token) :
    bracketsAll brackets (t :: ts) = (bracketsAfter brackets t).bind (bracketsAll · ts) := rfl

@[simp] theorem bracketsAll_append (brackets : List Char) (ts us : List Token) :
    bracketsAll brackets (ts ++ us) = (bracketsAll brackets ts).bind (bracketsAll · us) := by
  induction ts generalizing brackets with
  | nil => rfl
  | cons t ts ih =>
    cases h : bracketsAfter brackets t <;> simp [h, ih]

/-- Tokens that close the brackets they open. -/
def Balanced (ts : List Token) : Prop :=
  ∀ brackets, bracketsAll brackets ts = some brackets

/-- How many brackets are open after a token. -/
def openAfter (count : Nat) : Token → Nat
  | .op s =>
    match s.toList with
    | [c] =>
      if (closer? c).isSome then count + 1
      else if c == ')' || c == ']' || c == '\x7d' then count - 1
      else count
    | _ => count
  | _ => count

/-- The most brackets that are open at once, if `count` are open in front. -/
def deepest (count : Nat) : List Token → Nat
  | [] => count
  | t :: ts => max count (deepest (openAfter count t) ts)

theorem le_deepest (count : Nat) (ts : List Token) : count ≤ deepest count ts := by
  cases ts with
  | nil => exact Nat.le_refl _
  | cons t ts => exact Nat.le_max_left ..

theorem length_bracketsAfter {brackets after : List Char} {t : Token}
    (h : bracketsAfter brackets t = some after) :
    after.length = openAfter brackets.length t := by
  cases t with
  | op s =>
    simp only [bracketsAfter, openAfter] at h ⊢
    generalize s.toList = cs at h ⊢
    obtain _ | ⟨c, _ | ⟨d, cs⟩⟩ := cs
    · cases h
      rfl
    · dsimp only at h ⊢
      split at h
      · rename_i ho
        cases h
        rw [if_pos ho]
        rfl
      rename_i ho
      rw [if_neg ho]
      split at h
      · rename_i hc
        rw [if_pos hc]
        split at h
        · split at h
          · cases h
            rfl
          · cases h
        · cases h
      · rename_i hc
        cases h
        rw [if_neg hc]
    · cases h
      rfl
  | _ =>
    cases h
    rfl

/-! ## Reading a piece -/

/-- Reading a text gives these tokens, or none, whatever the bound, if it is large enough. -/
def Lexes (fresh : Bool) (s : LexState) (cs : List Char) (out : Option (List Token)) : Prop :=
  ∀ bound, 2 * cs.length + 1 + fresh.toNat ≤ bound → lexFrom bound fresh s cs = out

theorem lexFrom_cons (hc : c ∉ ['\n', '#', '\\']) (bound : Nat) (s : LexState)
    (cs : List Char) : lexFrom (bound + 1) false s (c :: cs) =
      if isGap c then lexFrom bound false s cs
      else (token? (c :: cs)).bind fun r =>
        (s.take r.1).bind fun s => lexFrom bound false s r.2 := by
  simp only [mem_cons, not_mem_nil, or_false, not_or] at hc
  rw [lexFrom, isGap]
  · exact hc.1
  · exact hc.2.1
  · exact fun _ he => absurd he hc.2.2

theorem lexFrom_token {cs rest : List Char} {t : Token} (ht : token? cs = some (t, rest))
    (bound : Nat) (s : LexState) : lexFrom (bound + 1) false s cs =
      (s.take t).bind fun s => lexFrom bound false s rest := by
  cases cs with
  | nil => cases ht
  | cons c cs =>
    have hc : c ∉ ['\n', '#', '\\', ' ', '\t', '\x0c'] := fun hc => by
      rw [token?_eq_none hc] at ht
      cases ht
    have hmem : c ∉ ['\n', '#', '\\'] := fun h => hc (mem_append_left _ h)
    have hblank : isGap c = false := by
      simp only [mem_cons, not_mem_nil, or_false, not_or] at hc
      simp [isGap, hc]
    rw [lexFrom_cons hmem, hblank, ht]
    simp

section

variable {s s' : LexState} {cs rest : List Char} {t : Token} {out : Option (List Token)}

theorem Lexes.blank (hc : isGap c = true) (h : Lexes false s cs out) :
    Lexes false s (c :: cs) out := by
  intro bound hb
  obtain ⟨bound, rfl⟩ : ∃ b, bound = b + 1 := ⟨bound - 1, by omega⟩
  have hmem : c ∉ ['\n', '#', '\\'] := by
    obtain rfl | rfl | rfl : c = ' ' ∨ c = '\t' ∨ c = '\x0c' := by simpa using isGap_iff.mp hc
    all_goals decide
  rw [lexFrom_cons hmem, if_pos hc]
  exact h bound (by simp only [length_cons] at hb; omega)

theorem Lexes.token (ht : token? cs = some (t, rest)) (hs : s.take t = some s')
    (h : Lexes false s' rest out) : Lexes false s cs out := by
  intro bound hb
  have hlen := token?_length ht
  obtain ⟨bound, rfl⟩ : ∃ b, bound = b + 1 := ⟨bound - 1, by omega⟩
  rw [lexFrom_token ht, hs, Option.bind_some]
  exact h bound (by simp only [Bool.toNat_false] at hb ⊢; omega)

theorem lexes_stuck (ht : token? cs = some (t, rest)) (hs : s.take t = none) :
    Lexes false s cs none := by
  intro bound hb
  obtain ⟨bound, rfl⟩ : ∃ b, bound = b + 1 := ⟨bound - 1, by omega⟩
  rw [lexFrom_token ht, hs, Option.bind_none]

end

/-- The state of the lexer after the tokens of a piece. -/
def LexState.takeAll (s : LexState) (ts : List Token) (brackets : List Char) : LexState :=
  { s with brackets, done := ts.reverse ++ s.done, busy := s.busy || !ts.isEmpty }

theorem take_eq {s : LexState} {t : Token} {after : List Char}
    (h : bracketsAfter s.brackets t = some after) (hlen : after.length ≤ bracketBound) :
    s.take t = some { s with brackets := after, done := t :: s.done, busy := true } := by
  rw [LexState.take, h, Option.bind_some, if_pos hlen]

/-- **A piece of a line is read as the tokens it spells**, if not too many brackets are open. -/
theorem Lexes.inline {cs x : List Char} {out : Option (List Token)}
    (hi : Inline cs ts) (hx : Follows x) : ∀ {s : LexState} {brackets : List Char},
      bracketsAll s.brackets ts = some brackets → deepest s.brackets.length ts ≤ bracketBound →
        Lexes false (s.takeAll ts brackets) x out → Lexes false s (cs ++ x) out := by
  induction hi with
  | nil =>
    intro s brackets hb _ h
    have hs : s.takeAll [] brackets = s := by
      cases hb
      simp [LexState.takeAll]
    rwa [hs] at h
  | blank hc _ ih =>
    intro s brackets hb hd h
    exact (ih hb hd h).blank hc
  | token ht _ ih =>
    rename_i t ts _
    intro s brackets hb hd h
    obtain ⟨after, hafter, hb⟩ := Option.bind_eq_some_iff.mp hb
    have hlen := length_bracketsAfter hafter
    have hdeep : deepest after.length ts ≤ bracketBound := by
      rw [hlen]
      exact Nat.le_trans (Nat.le_max_right ..) hd
    refine Lexes.token (token?_append hx ht)
      (take_eq hafter (Nat.le_trans (le_deepest _ ts) hdeep)) (ih hb hdeep ?_)
    simpa [LexState.takeAll] using h

theorem lexes_deep {cs x : List Char} (hi : Inline cs ts) (hx : Follows x) :
    ∀ {s : LexState} {brackets : List Char}, bracketsAll s.brackets ts = some brackets →
      s.brackets.length ≤ bracketBound → bracketBound < deepest s.brackets.length ts →
        Lexes false s (cs ++ x) none := by
  induction hi with
  | nil =>
    intro s brackets _ hs hd
    exact absurd hs (Nat.not_le.mpr hd)
  | blank hc _ ih =>
    intro s brackets hb hs hd
    exact (ih hb hs hd).blank hc
  | token ht _ ih =>
    rename_i t ts _
    intro s brackets hb hs hd
    obtain ⟨after, hafter, hb⟩ := Option.bind_eq_some_iff.mp hb
    have hdeep : bracketBound < deepest after.length ts := by
      rw [length_bracketsAfter hafter]
      simp only [deepest] at hd
      omega
    by_cases hlen : after.length ≤ bracketBound
    · exact Lexes.token (token?_append hx ht) (take_eq hafter hlen) (ih hb hlen hdeep)
    · refine lexes_stuck (token?_append hx ht) ?_
      rw [LexState.take, hafter, Option.bind_some, if_neg hlen]

end Sketchflow.Script
