import Mathlib.Data.List.Basic
import Sketchflow.Proofs.Script.Number

/-!
# Tokens and what follows them

The token in front of a text is the same whatever follows the text, if that cannot go on a token.
So a line can be read piece by piece.

* `scans_text?`, `scans_word`, `scans_operator?`: the kinds of tokens.
* **`scans_token?`**: what follows a text leaves its first token as it is, and a token takes a
  character.
* `token?_eq_none`: the characters that no token starts with.
-/

namespace Sketchflow.Script

open List

variable {c quote : Char} {cs rest : List Char} {t : Token}

/-! ## What follows the parts of a text -/

theorem hexCode?_append {count : Nat} {n : Nat} (h : hexCode? count cs = some n)
    (x : List Char) : hexCode? count (cs ++ x) = some n := by
  have hlen : count ≤ cs.length := by
    simp only [hexCode?, length_take] at h
    split at h
    · rename_i hd
      have := (Bool.and_eq_true_iff.mp hd).1
      simp only [beq_iff_eq] at this
      omega
    · cases h
  rw [hexCode?, take_append_of_le_length hlen]
  exact h

theorem namedChar?_append {r : Char × Nat} (h : namedChar? cs = some r)
    (x : List Char) : namedChar? (cs ++ x) = some r := by
  revert h
  fun_cases namedChar? cs with
  | case1 rest name hname =>
    intro h
    simp only [cons_append, namedChar?]
    rw [takeWhile_append, if_neg (Nat.ne_of_lt hname), if_pos (Nat.lt_of_lt_of_le hname (by simp))]
    exact h
  | case2 rest name hname =>
    intro h
    cases h
  | case3 =>
    intro h
    cases h

theorem drop_append_of_closes (h : closes quote true (c :: cs) = true) (x : List Char) :
    (cs ++ x).drop 2 = cs.drop 2 ++ x := by
  have hlen := (List.isPrefixOf_iff_prefix.mp
    (show [quote, quote, quote].isPrefixOf _ = _ from h)).length_le
  refine drop_append_of_le_length ?_
  simp only [length_cons] at hlen
  omega

section

variable {x : List Char} (hx : Follows x)
include hx

theorem octalDigits_append (cs : List Char) : octalDigits (cs ++ x) = octalDigits cs := by
  rw [octalDigits, take_append, takeWhile_append]
  split
  · rename_i hall
    have hnil : ((x.take (3 - cs.length)).takeWhile fun c => '0' ≤ c && c ≤ '7') = [] := by
      cases hn : 3 - cs.length with
      | zero => rfl
      | succ n =>
        cases x with
        | nil => rfl
        | cons c x =>
          rw [take_succ_cons, takeWhile_cons_of_neg]
          exact (ends_of_isStop hx).octal
    rw [hnil, append_nil, octalDigits]
    exact ((takeWhile_sublist _).eq_of_length hall).symm
  · rfl

theorem escape?_append {r : List Char × Nat} (h : escape? cs = some r) :
    escape? (cs ++ x) = some r := by
  revert h
  fun_cases escape? cs with
  | case1 =>
    intro h
    cases h
  | case2 rest =>
    intro h
    exact h
  | case3 rest =>
    intro h
    obtain ⟨n, hn, he⟩ := Option.map_eq_some_iff.mp h
    simp [escape?, hexCode?_append hn, he]
  | case4 rest =>
    intro h
    obtain ⟨n, hn, he⟩ := Option.bind_eq_some_iff.mp h
    simp [escape?, hexCode?_append hn, he]
  | case5 rest =>
    intro h
    obtain ⟨n, hn, he⟩ := Option.bind_eq_some_iff.mp h
    simp [escape?, hexCode?_append hn, he]
  | case6 rest =>
    intro h
    obtain ⟨n, hn, he⟩ := Option.map_eq_some_iff.mp h
    simp [escape?, namedChar?_append hn, he]
  | case7 c rest hn hx hu hU hN e he =>
    intro h
    rw [cons_append, escape?.eq_7 _ _ hn hx hu hU hN, he]
    exact h
  | case8 c rest hn hx hu hU hN he ds hds =>
    intro h
    rw [cons_append, escape?.eq_7 _ _ hn hx hu hU hN, he]
    have hd := octalDigits_append ‹Follows x› (c :: rest)
    rw [cons_append] at hd
    simp only [hd]
    exact (if_pos hds).trans h
  | case9 c rest hn hx hu hU hN he ds hds =>
    intro h
    rw [cons_append, escape?.eq_7 _ _ hn hx hu hU hN, he]
    have hd := octalDigits_append ‹Follows x› (c :: rest)
    rw [cons_append] at hd
    simp only [hd]
    exact (if_neg hds).trans h

theorem closes_append (hq : isQuote quote = true) (triple : Bool)
    (cs : List Char) : closes quote triple (c :: cs ++ x) = closes quote triple (c :: cs) := by
  cases triple with
  | false => rfl
  | true =>
    have hne : ∀ {d y}, x = d :: y → quote ≠ d := by
      rintro d y rfl rfl
      exact absurd hq (by simp [(ends_of_isStop hx).quote])
    match cs with
    | [] =>
      cases x with
      | nil => rfl
      | cons d y =>
        have hd := hne (d := d) rfl
        simp [closes, List.isPrefixOf, hd]
    | [e] =>
      cases x with
      | nil => rfl
      | cons d y =>
        have hd := hne (d := d) rfl
        simp [closes, List.isPrefixOf, hd]
    | e :: e' :: cs => rfl

theorem takeWhile_isWordChar_append (cs : List Char) :
    (cs ++ x).takeWhile isWordChar = cs.takeWhile isWordChar ∧
      (cs ++ x).dropWhile isWordChar = cs.dropWhile isWordChar ++ x := by
  induction cs with
  | nil =>
    cases x with
    | nil => exact ⟨rfl, rfl⟩
    | cons c x =>
      have hc := (ends_of_isStop hx).word
      simp [hc]
  | cons c cs ih =>
    cases hc : isWordChar c with
    | true => simpa [hc] using ih
    | false => simp [hc]

theorem isPrefixOf_append_of_not_stop (w : List Char) (hw : ∀ c ∈ w, isStop c = false) :
    ∀ cs : List Char, w.isPrefixOf (cs ++ x) = w.isPrefixOf cs := by
  induction w with
  | nil => exact fun cs => rfl
  | cons a w ih =>
    intro cs
    cases cs with
    | nil =>
      cases x with
      | nil => rfl
      | cons d x =>
        have hne : (a == d) = false := by
          refine beq_eq_false_iff_ne.mpr fun he => ?_
          have ha := hw a (mem_cons_self ..)
          rw [he] at ha
          exact absurd hx (by simp [Follows, ha])
        simp [List.isPrefixOf, hne]
    | cons b cs =>
      simp [List.isPrefixOf, ih (fun c hc => hw c (mem_cons_of_mem _ hc)) cs]

omit hx in
theorem operators_tail : ∀ group ∈ operators, ∀ s ∈ group, ∀ c ∈ s.toList.tail,
    isStop c = false := by
  have hall : operators.all (fun group => group.all fun s => s.toList.tail.all fun c => !isStop c) =
      true := by decide
  simpa [all_eq_true] using hall

theorem operator?_append (cs : List Char) :
    operator? (c :: cs ++ x) = operator? (c :: cs) := by
  have hpre : ∀ group ∈ operators, ∀ s ∈ group,
      s.toList.isPrefixOf (c :: cs ++ x) = s.toList.isPrefixOf (c :: cs) := by
    intro group hg s hs
    have htail := operators_tail group hg s hs
    cases h : s.toList with
    | nil => rfl
    | cons a w =>
      rw [h] at htail
      simp [List.isPrefixOf, isPrefixOf_append_of_not_stop hx w htail cs]
  rw [operator?, operator?, ← head?_filterMap, ← head?_filterMap]
  refine congrArg List.head? (filterMap_congr fun group hg => ?_)
  rw [← head?_filter, ← head?_filter]
  exact congrArg List.head? (filter_congr (hpre group hg))

end

/-! ## Texts -/

theorem quoted?_cons (quote : Char) (triple raw : Bool) (c : Char) (rest done : List Char) :
    quoted? quote triple raw (c :: rest) 0 done =
      if closes quote triple (c :: rest) then
        some (done.reverse, if triple then rest.drop 2 else rest)
      else if c == '\n' && !triple then none
      else if c == '\\' then
        if raw then
          match rest with
          | d :: _ => quoted? quote triple raw rest 1 (d :: '\\' :: done)
          | [] => none
        else
          match escape? rest with
          | some (cs, taken) => quoted? quote triple raw rest taken (cs.reverse ++ done)
          | none => none
      else quoted? quote triple raw rest 0 (c :: done) := rfl

theorem scans_quoted? (hq : isQuote quote = true) (triple raw : Bool) (skip : Nat)
    (done : List Char) : Scans fun cs => quoted? quote triple raw cs skip done := by
  have hscan : ∀ cs skip done t rest, quoted? quote triple raw cs skip done = some (t, rest) →
      rest.length ≤ cs.length ∧ ∀ x, Follows x →
        quoted? quote triple raw (cs ++ x) skip done = some (t, rest ++ x) := by
    intro cs skip done
    fun_induction quoted? quote triple raw cs skip done with
    | case1 | case4 | case6 | case8 =>
      intro t r h
      cases h
    | case2 c rest skip done ih =>
      intro t r h
      exact (ih t r h).imp_left Nat.le_succ_of_le
    | case3 c rest done hc =>
      intro t r h
      cases h
      refine ⟨?_, fun x hx => ?_⟩
      · split
        · simp only [length_drop, length_cons]
          omega
        · exact Nat.le_succ _
      rw [cons_append, quoted?_cons, ← cons_append, closes_append hx hq, if_pos hc]
      cases triple with
      | false => rfl
      | true => simp [drop_append_of_closes hc]
    | case5 c done hn hb hraw d ds hc ih =>
      intro t r h
      refine ⟨Nat.le_succ_of_le (ih t r h).1, fun x hx => ?_⟩
      rw [cons_append, quoted?_cons, ← cons_append, closes_append hx hq, if_neg hc,
        if_neg hn, if_pos hb, if_pos hraw]
      exact (ih t r h).2 x hx
    | case7 c rest done hc hn hb hraw cs taken he ih =>
      intro t r h
      refine ⟨Nat.le_succ_of_le (ih t r h).1, fun x hx => ?_⟩
      rw [cons_append, quoted?_cons, ← cons_append, closes_append hx hq, if_neg hc,
        if_neg hn, if_pos hb, if_neg hraw, escape?_append hx he]
      exact (ih t r h).2 x hx
    | case9 c rest done hc hn hb ih =>
      intro t r h
      refine ⟨Nat.le_succ_of_le (ih t r h).1, fun x hx => ?_⟩
      rw [cons_append, quoted?_cons, ← cons_append, closes_append hx hq, if_neg hc,
        if_neg hn, if_neg hb]
      exact (ih t r h).2 x hx
  exact ⟨fun h => (hscan _ _ _ _ _ h).1, fun hx h => (hscan _ _ _ _ _ h).2 _ hx⟩

theorem scans_text? (hq : isQuote quote = true) (raw : Bool) :
    Scans fun cs => text? raw (quote :: cs) := by
  have hopen : ∀ cs, closes quote true (quote :: cs) = [quote, quote].isPrefixOf cs := fun cs => by
    simp [closes, List.isPrefixOf]
  have hbody : ∀ triple, Scans fun cs =>
      (quoted? quote triple raw cs 0 []).map fun r => (String.ofList r.1, r.2) := fun triple =>
    (scans_quoted? hq triple raw 0 []).map String.ofList
  constructor
  · intro cs t rest h
    refine Nat.le_trans ((hbody _).length h) ?_
    split
    · simp
    · exact Nat.le_refl _
  · intro cs t rest x hx h
    have htriple : [quote, quote].isPrefixOf (cs ++ x) = [quote, quote].isPrefixOf cs := by
      rw [← hopen, ← hopen, ← cons_append, closes_append hx hq]
    simp only [text?, htriple] at h ⊢
    split at h
    · rename_i ht
      rw [if_pos ht, drop_append_of_closes (hopen cs ▸ ht)]
      exact (hbody _).append hx h
    · rename_i ht
      rw [if_neg ht]
      exact (hbody _).append hx h

/-! ## Words and operators -/

theorem scans_wordOrText? (word : List Char) : Scans (wordOrText? word) := by
  have hquote : Inner isQuote := fun c hc => (ends_of_isStop hc).quote
  have htext : ∀ cs, startsWith isQuote cs = true → ∃ quote more, cs = quote :: more ∧
      isQuote quote = true := by
    intro cs h
    cases cs with
    | nil => cases h
    | cons q cs => exact ⟨q, cs, rfl, h⟩
  have hword : Scans fun cs => (wordToken? word).map fun t => (t, cs) := by
    cases wordToken? word with
    | none => exact scans_none
    | some t => exact scans_pure t
  constructor
  · intro cs t rest h
    unfold wordOrText? at h
    split at h
    · rename_i hm
      obtain ⟨q, cs, rfl, hq⟩ := htext cs (Bool.and_eq_true_iff.mp hm).1
      exact Nat.le_succ_of_le (((scans_text? hq _).map Token.text).length h)
    · exact hword.length h
  · intro cs t rest x hx h
    simp only [wordOrText?, hquote.steady cs x hx] at h ⊢
    split at h
    · rename_i hm
      obtain ⟨q, cs, rfl, hq⟩ := htext cs (Bool.and_eq_true_iff.mp hm).1
      rw [if_pos hm]
      exact ((scans_text? hq _).map Token.text).append hx h
    · rw [if_neg ‹_›]
      exact hword.append hx h

theorem scans_word {c : Char} (hc : isWordChar c = true) : Scans fun cs =>
    wordOrText? ((c :: cs).takeWhile isWordChar) ((c :: cs).dropWhile isWordChar) := by
  constructor
  · intro cs t rest h
    refine Nat.le_trans ((scans_wordOrText? _).length h) ?_
    rw [dropWhile_cons_of_pos hc]
    exact (dropWhile_sublist _).length_le
  · intro cs t rest x hx h
    rw [← cons_append, (takeWhile_isWordChar_append hx _).1,
      (takeWhile_isWordChar_append hx _).2]
    exact (scans_wordOrText? _).append hx h

theorem operator?_length {op : String} (h : operator? cs = some op) :
    0 < op.length ∧ op.length ≤ cs.length := by
  have hall : ∀ group ∈ operators, ∀ s ∈ group, 0 < s.length := by decide
  obtain ⟨group, hg, hs⟩ := exists_of_findSome?_eq_some h
  have hpre := find?_some hs
  refine ⟨hall group hg op (mem_of_find?_eq_some hs), ?_⟩
  rw [← String.length_toList]
  exact (List.isPrefixOf_iff_prefix.mp hpre).length_le

theorem scans_operator? (c : Char) :
    Scans fun cs => (operator? (c :: cs)).map fun op =>
      (Token.op op, (c :: cs).drop op.length) := by
  constructor
  · intro cs t rest h
    obtain ⟨op, hop, he⟩ := Option.map_eq_some_iff.mp h
    cases he
    have hlen := operator?_length hop
    simp only [length_drop, length_cons]
    omega
  · intro cs t rest x hx h
    obtain ⟨op, hop, he⟩ := Option.map_eq_some_iff.mp h
    cases he
    rw [← cons_append, operator?_append hx, hop, Option.map_some,
      drop_append_of_le_length (operator?_length hop).2]

/-! ## Tokens -/

/-- **What follows a text leaves its first token as it is**, and a token takes a character. -/
theorem scans_token? (c : Char) : Scans fun cs => token? (c :: cs) := by
  have hrest : Scans fun cs => if isQuote c then (text? false (c :: cs)).map fun r =>
      (.text r.1, r.2) else if isWordChar c then
        wordOrText? ((c :: cs).takeWhile isWordChar) ((c :: cs).dropWhile isWordChar)
      else (operator? (c :: cs)).map fun op => (Token.op op, (c :: cs).drop op.length) := by
    split
    · exact (scans_text? ‹_› false).map Token.text
    split
    · exact scans_word ‹_›
    · exact scans_operator? c
  by_cases hc : c.isDigit = true ∨ c = '.'
  · refine .ite (fun cs x hx => ?_) ((scans_number? hc).map Token.number) hrest
    rw [inner_isDigit.steady cs x hx]
  · have hnumber : ∀ cs, ¬(c.isDigit || (c == '.' && startsWith Char.isDigit cs)) = true := by
      intro cs h
      simp only [Bool.or_eq_true, Bool.and_eq_true, beq_iff_eq] at h
      exact hc (h.imp_right And.left)
    simpa only [token?, if_neg (hnumber _)] using hrest

theorem token?_append {x : List Char} (hx : Follows x) (h : token? cs = some (t, rest)) :
    token? (cs ++ x) = some (t, rest ++ x) := by
  cases cs with
  | nil => cases h
  | cons c cs => exact (scans_token? c).append hx h

theorem token?_length (h : token? cs = some (t, rest)) : rest.length < cs.length := by
  cases cs with
  | nil => cases h
  | cons c cs => exact Nat.lt_succ_of_le ((scans_token? c).length h)

theorem token?_eq_none (hc : c ∈ ['\n', '#', '\\', ' ', '\t', '\x0c']) (cs : List Char) :
    token? (c :: cs) = none := by
  have hnone : ∀ c ∈ ['\n', '#', '\\', ' ', '\t', '\x0c'],
      c.isDigit = false ∧ (c == '.') = false ∧ isQuote c = false ∧ isWordChar c = false ∧
        ∀ group ∈ operators, ∀ s ∈ group, (s.toList.head?.all (· == c)) = false :=
    forall_mem_of_all (by decide)
  obtain ⟨hd, hdot, hq, hw, hop⟩ := hnone c hc
  have hop : operator? (c :: cs) = none := by
    refine findSome?_eq_none_iff.mpr fun group hg => find?_eq_none.mpr fun s hs => ?_
    have hne := hop group hg s hs
    cases h : s.toList with
    | nil => rw [h] at hne; cases hne
    | cons a w =>
      rw [h, head?_cons, Option.all_some] at hne
      simp [List.isPrefixOf, hne]
  simp [token?, hd, hdot, hq, hw, hop]

end Sketchflow.Script
