import Sketchflow.Proofs.Number.Integers

/-!
# Tokens of documents

What is written for a text, a number or a word is read as it, whatever follows.

* **`readString_write`**: a quoted text. Each character stands for itself, by one letter, by the
  code of its unit or by those of two (`stringChar_cases`); `readStringFrom_char` is the step.
* **`readAtom_int`**, **`readAtom_float`**: a number, up to a comma, a line feed or the end
  (`Closes`).
-/

namespace Sketchflow.Json

open List Number Text

variable {c : Char} {pos start : Nat}

/-! ## Codes of units -/

theorem hexValue?_digitChar : ∀ d < 16, hexValue? (Nat.digitChar d) = some d := by
  decide

theorem hex_succ {width : Nat} (hwidth : 0 < width) (n : Nat) :
    hex (width + 1) n = hex width (n / 16) ++ [Nat.digitChar (n % 16)] := by
  by_cases hn : n < 16
  · obtain ⟨width, rfl⟩ := Nat.exists_eq_succ_of_ne_zero hwidth.ne'
    have hzero : n / 16 = 0 := by omega
    have hmod : n % 16 = n := by omega
    rw [hzero, hmod]
    simp only [hex, Nat.toDigits_of_lt_base hn, Nat.toDigits_zero, length_singleton]
    rw [← replicate_succ']
    rfl
  · have hsplit : Nat.toDigits 16 n = Nat.toDigits 16 (n / 16) ++ [Nat.digitChar (n % 16)] := by
      rw [← Nat.toDigits_of_lt_base (Nat.mod_lt n (by decide : 16 > 0)),
        Nat.toDigits_append_toDigits (by decide) (by omega) (by omega), Nat.div_add_mod]
    simp only [hex, hsplit, length_append, length_singleton, Nat.add_sub_add_right,
      append_assoc]

theorem hex_four {n : Nat} (h : n < 0x10000) :
    ∃ a b c d, hex 4 n = [a, b, c, d] ∧ hex4? a b c d = some n := by
  have hone : hex 1 (n / 16 / 16 / 16) = [Nat.digitChar (n / 16 / 16 / 16)] := by
    rw [hex, Nat.toDigits_of_lt_base (by omega)]
    rfl
  refine ⟨_, _, _, _, by
    rw [hex_succ (by decide), hex_succ (by decide), hex_succ (by decide), hone]
    rfl, ?_⟩
  rw [hex4?, hexValue?_digitChar _ (by omega), hexValue?_digitChar _ (by omega),
    hexValue?_digitChar _ (by omega), hexValue?_digitChar _ (by omega)]
  simp only [Option.some.injEq]
  omega

/-! ## Texts -/

theorem unitChar_of_char (c : Char) : unitChar c.toNat = c := by
  have hvalid := c.valid
  have hn : c.val.toNat = c.toNat := rfl
  rw [unitChar, if_neg, Char.ofNat_toNat]
  simp only [isHighUnit, isLowUnit, Bool.or_eq_true, Bool.and_eq_true, decide_eq_true_eq]
  rcases hvalid with h | h <;> omega

theorem readEscape_unit (h : c.toNat < 0x10000) {rest : List Char} (hrest : rest ≠ []) :
    readEscape start pos ('u' :: (hex 4 c.toNat ++ rest)) = .ok (c, 5) := by
  obtain ⟨a, b, x, d, htext, hvalue⟩ := hex_four h
  obtain ⟨next, tail, rfl⟩ := exists_cons_of_ne_nil hrest
  have hhigh : isHighUnit c.toNat = false := by
    have hvalid := c.valid
    have hn : c.val.toNat = c.toNat := rfl
    simp only [isHighUnit, Bool.and_eq_false_iff, decide_eq_false_iff_not]
    rcases hvalid with h | h <;> omega
  rw [htext]
  simp [readEscape, hvalue, hhigh, unitChar_of_char]

theorem readEscape_pair {high low : Nat} (hhigh : isHighUnit high = true)
    (hlow : isLowUnit low = true) {rest : List Char} (hrest : rest ≠ []) :
    readEscape start pos ('u' :: hex 4 high ++ unitEscape low ++ rest) =
      .ok (pairChar high low, 11) := by
  have hhigh' := hhigh
  have hlow' := hlow
  simp only [isHighUnit, isLowUnit, Bool.and_eq_true, decide_eq_true_eq] at hhigh' hlow'
  obtain ⟨a, b, x, d, htext, hvalue⟩ := hex_four (show high < 0x10000 by omega)
  obtain ⟨a', b', x', d', htext', hvalue'⟩ := hex_four (show low < 0x10000 by omega)
  obtain ⟨next, tail, rfl⟩ := exists_cons_of_ne_nil hrest
  rw [unitEscape, htext, htext']
  simp [readEscape, hvalue, hhigh, hvalue', hlow]

/-- The two units of a character that has no unit of its own. -/
def highOf (c : Char) : Nat := 0xd800 + (c.toNat - 0x10000) / 0x400

def lowOf (c : Char) : Nat := 0xdc00 + (c.toNat - 0x10000) % 0x400

theorem toNat_lt (c : Char) : c.toNat < 0x110000 := by
  have hn : c.val.toNat = c.toNat := rfl
  rcases c.valid with h | h <;> omega

theorem isHighUnit_highOf (c : Char) : isHighUnit (highOf c) = true := by
  have := toNat_lt c
  rw [isHighUnit, Bool.and_eq_true, decide_eq_true_iff, decide_eq_true_iff, highOf]
  omega

theorem isLowUnit_lowOf (c : Char) : isLowUnit (lowOf c) = true := by
  rw [isLowUnit, Bool.and_eq_true, decide_eq_true_iff, decide_eq_true_iff, lowOf]
  omega

theorem highOf_lt (c : Char) : highOf c < 0x10000 := by
  have := toNat_lt c
  unfold highOf
  omega

theorem lowOf_lt (c : Char) : lowOf c < 0x10000 := by
  unfold lowOf
  omega

theorem pairChar_of_char (h : 0x10000 ≤ c.toNat) : pairChar (highOf c) (lowOf c) = c := by
  have hcode : 0x10000 + (highOf c - 0xd800) * 0x400 + (lowOf c - 0xdc00) = c.toNat := by
    unfold highOf lowOf
    omega
  rw [pairChar, hcode, Char.ofNat_toNat]

/-- How a character stands between quotes: as itself, by one letter, or by the code of its unit or
those of two. -/
theorem stringChar_cases (c : Char) :
    (stringChar true c = [c] ∧ c ≠ '"' ∧ c ≠ '\\' ∧ 0x20 ≤ c.toNat ∧ c.toNat < 0x7f) ∨
    (∃ k, stringChar true c = ['\\', k] ∧ k ≠ 'u' ∧ 0x20 ≤ k.toNat ∧ k.toNat < 0x7f ∧
      simpleEscape? k = some c) ∨
    (stringChar true c = unitEscape c.toNat ∧ c.toNat < 0x10000) ∨
    (stringChar true c = unitEscape (highOf c) ++ unitEscape (lowOf c) ∧ 0x10000 ≤ c.toNat) := by
  have hletters : ∀ p ∈ letters, p.2 ≠ 'u' ∧ 0x20 ≤ p.2.toNat ∧ p.2.toNat < 0x7f ∧
      simpleEscape? p.2 = some p.1 := by decide
  rcases commonEscape?_cases c with ⟨h, hlow, hletter⟩ | ⟨k, h, hk⟩ | ⟨h, hlow⟩
  · simp only [letters, map, mem_cons, not_or] at hletter
    by_cases hplain : c.toNat < 0x7f
    · exact .inl ⟨by simp [stringChar, h, hplain], hletter.1, hletter.2.1, hlow, hplain⟩
    by_cases hunit : c.toNat < 0x10000
    · exact .inr (.inr (.inl ⟨by simp [stringChar, h, hplain, escapeWide, hunit], hunit⟩))
    · refine .inr (.inr (.inr ⟨?_, by omega⟩))
      simp [stringChar, h, hplain, escapeWide, hunit, highOf, lowOf]
  · exact .inr (.inl ⟨k, by simp [stringChar, h], hletters _ hk⟩)
  · exact .inr (.inr (.inl ⟨by simp [stringChar, h], by omega⟩))

theorem readStringFrom_skip (start : Nat) (a rest : List Char) (pos : Nat) (done : List Char) :
    readStringFrom start (a ++ rest) pos a.length done =
      readStringFrom start rest (pos + a.length) 0 done := by
  induction a generalizing pos with
  | nil => rfl
  | cons c a ih =>
    rw [cons_append, length_cons, readStringFrom, ih]
    congr 1
    omega

theorem readStringFrom_escape {a rest : List Char}
    (h : readEscape start pos (a ++ rest) = .ok (c, a.length)) (done : List Char) :
    readStringFrom start ('\\' :: (a ++ rest)) pos 0 done =
      readStringFrom start rest (pos + 1 + a.length) 0 (c :: done) := by
  rw [readStringFrom, h]
  exact readStringFrom_skip start a rest (pos + 1) (c :: done)

theorem stringChar_false (c : Char) :
    stringChar false c = stringChar true c ∨
      stringChar false c = [c] ∧ c ≠ '"' ∧ c ≠ '\\' ∧ 0x20 ≤ c.toNat := by
  unfold stringChar
  rcases commonEscape?_cases c with ⟨h, hlow, hletter⟩ | ⟨k, h, -⟩ | ⟨h, -⟩
  · simp only [letters, map, mem_cons, not_or] at hletter
    exact .inr ⟨by simp [h], hletter.1, hletter.2.1, hlow⟩
  · exact .inl (by simp [h])
  · exact .inl (by simp [h])

theorem readStringFrom_plain (hquote : c ≠ '"') (hslash : c ≠ '\\') (hlow : 0x20 ≤ c.toNat)
    (start pos : Nat) (rest done : List Char) :
    readStringFrom start (c :: rest) pos 0 done =
      readStringFrom start rest (pos + 1) 0 (c :: done) := by
  rw [readStringFrom, if_neg (by omega)]
  · exact hquote
  · exact hslash

theorem readStringFrom_char (ascii : Bool) (start pos : Nat) (c : Char) {rest : List Char}
    (hrest : rest ≠ []) (done : List Char) :
    ∃ pos', readStringFrom start (stringChar ascii c ++ rest) pos 0 done =
      readStringFrom start rest pos' 0 (c :: done) := by
  suffices hascii : ∃ pos', readStringFrom start (stringChar true c ++ rest) pos 0 done =
      readStringFrom start rest pos' 0 (c :: done) by
    cases ascii with
    | true => exact hascii
    | false =>
      rcases stringChar_false c with h | ⟨h, hquote, hslash, hlow⟩
      · rw [h]
        exact hascii
      · rw [h]
        exact ⟨pos + 1, readStringFrom_plain hquote hslash hlow start pos rest done⟩
  rcases stringChar_cases c with ⟨h, hquote, hslash, hlow, -⟩ | ⟨k, h, hu, -, -, hk⟩ | ⟨h, hunit⟩ |
    ⟨h, hpair⟩
  · rw [h]
    exact ⟨pos + 1, readStringFrom_plain hquote hslash hlow start pos rest done⟩
  · refine ⟨pos + 1 + [k].length, ?_⟩
    rw [h]
    refine readStringFrom_escape (a := [k]) ?_ done
    have hu' : ∀ cs, k :: rest = 'u' :: cs → False := fun cs heq => hu (List.cons.inj heq).1
    rw [singleton_append, readEscape.eq_def]
    split
    · rename_i heq
      cases heq
    · rename_i heq
      exact absurd heq fun heq => hu' _ heq
    · rename_i heq
      exact absurd heq fun heq => hu' _ heq
    · rename_i heq
      cases heq
      rw [hk]
      rfl
  · obtain ⟨a, b, x, d, htext, -⟩ := hex_four hunit
    refine ⟨pos + 1 + ('u' :: hex 4 c.toNat).length, ?_⟩
    rw [h]
    refine readStringFrom_escape (a := 'u' :: hex 4 c.toNat) ?_ done
    rw [cons_append, readEscape_unit hunit hrest, htext]
    rfl
  · obtain ⟨a, b, x, d, htext, -⟩ := hex_four (highOf_lt c)
    obtain ⟨a', b', x', d', htext', -⟩ := hex_four (lowOf_lt c)
    refine ⟨pos + 1 + ('u' :: hex 4 (highOf c) ++ unitEscape (lowOf c)).length, ?_⟩
    rw [h]
    refine readStringFrom_escape (a := 'u' :: hex 4 (highOf c) ++ unitEscape (lowOf c)) ?_ done
    rw [readEscape_pair (isHighUnit_highOf c) (isLowUnit_lowOf c) hrest, pairChar_of_char hpair,
      unitEscape, htext, htext']
    rfl

/-- **A quoted text is read as it.** -/
theorem readString_write (ascii : Bool) (s : String) (rest : List Char) (pos : Nat) :
    ∃ pos', readString ⟨pos, s.toList.flatMap (stringChar ascii) ++ '"' :: rest⟩ =
      .ok (s, ⟨pos', rest⟩) := by
  have hrun : ∀ (start : Nat) (cs : List Char) (pos : Nat) (done : List Char),
      ∃ pos', readStringFrom start (cs.flatMap (stringChar ascii) ++ '"' :: rest) pos 0 done =
        .ok (String.ofList (done.reverse ++ cs), ⟨pos', rest⟩) := by
    intro start cs
    induction cs with
    | nil =>
      intro pos done
      exact ⟨pos + 1, by rw [append_nil]; rfl⟩
    | cons c cs ih =>
      intro pos done
      rw [flatMap_cons, append_assoc]
      have hne : cs.flatMap (stringChar ascii) ++ '"' :: rest ≠ [] := by simp
      obtain ⟨pos', hchar⟩ := readStringFrom_char ascii start pos c hne done
      obtain ⟨pos'', hrest⟩ := ih pos' (c :: done)
      exact ⟨pos'', by rw [hchar, hrest, reverse_cons, append_assoc]; rfl⟩
  obtain ⟨pos', h⟩ := hrun (pos - 1) s.toList pos []
  exact ⟨pos', by rw [readString, h, reverse_nil, nil_append, String.ofList_toList]⟩

/-! ## Numbers -/

/-- What can follow a value: a comma, a line feed or nothing. -/
def Closes (rest : List Char) : Prop :=
  ∀ c ∈ rest.head?, c = ',' ∨ c = '\n'

theorem Closes.isDigit {rest : List Char} (h : Closes rest) :
    ∀ c ∈ rest.head?, c.isDigit = false := by
  intro c hc
  rcases h c hc with rfl | rfl <;> rfl

theorem takeDigits_append {ds rest : List Char} (hds : Script.AreDigits ds)
    (hrest : ∀ c ∈ rest.head?, c.isDigit = false) : takeDigits (ds ++ rest) = (ds, rest) := by
  rw [takeDigits, takeWhile_append_of_pos hds, dropWhile_append_of_pos hds]
  cases rest with
  | nil => simp
  | cons c rest =>
    have hc := hrest c rfl
    simp [hc]

theorem takeWhole_append {ds rest : List Char} (hds : Script.AreDigits ds) (hne : ds ≠ [])
    (hzero : ds.head? = some '0' → ds = ['0']) (hrest : ∀ c ∈ rest.head?, c.isDigit = false) :
    takeWhole (ds ++ rest) = (ds, rest) := by
  obtain ⟨c, ds, rfl⟩ := exists_cons_of_ne_nil hne
  by_cases hc : c = '0'
  · subst hc
    rw [hzero rfl]
    rfl
  · rw [← takeDigits_append hds hrest, takeWhole.eq_def]
    split
    · rename_i heq
      exact absurd (List.cons.inj heq).1 hc
    · rfl

def signText (negative : Bool) : List Char :=
  if negative then ['-'] else []

/-- A number starts with a digit, or with a minus sign and a digit, and then it is no word. -/
theorem readAtom_eq_readNumber (negative : Bool) (hc : c.isDigit = true) (pos : Nat)
    (cs : List Char) :
    readAtom ⟨pos, signText negative ++ c :: cs⟩ =
      readNumber ⟨pos, signText negative ++ c :: cs⟩ := by
  have hne : ∀ d : Char, d.isDigit = false → (d == c) = false := by
    intro d hd
    rw [beq_eq_false_iff_ne]
    rintro rfl
    rw [hc] at hd
    cases hd
  have hwords :
      (words.find? fun w => w.1.toList.isPrefixOf (signText negative ++ c :: cs)) = none := by
    cases negative <;> simp [signText, words, List.find?, List.isPrefixOf, hne]
  rw [readAtom, hwords]

section

variable {whole fraction exponent rest : List Char}

/-- A number whose parts are told apart: with a fraction or an exponent it is a double, otherwise an
integer. -/
theorem readNumber_eq (negative : Bool) (pos : Nat) (hhead : whole.head? ≠ some '-')
    (hne : whole ≠ []) (hwhole : takeWhole (whole ++ (fraction ++ (exponent ++ rest))) =
      (whole, fraction ++ (exponent ++ rest)))
    (hfraction : takeFraction (fraction ++ (exponent ++ rest)) = (fraction, exponent ++ rest))
    (hexponent : takeExponent (exponent ++ rest) = (exponent, rest)) :
    let c : Cursor := ⟨pos, signText negative ++ (whole ++ (fraction ++ (exponent ++ rest)))⟩
    let taken := signText negative ++ whole ++ fraction ++ exponent
    ((fraction.isEmpty && exponent.isEmpty) = false → readNumber c =
      .ok (.float ((readFloat? (String.ofList taken)).getD 0.0), ⟨pos + taken.length, rest⟩)) ∧
    ((fraction.isEmpty && exponent.isEmpty) = true → ∀ i, readInt (String.ofList taken) = .ok i →
      readNumber c = .ok (.int i, ⟨pos + taken.length, rest⟩)) := by
  obtain ⟨c, whole, rfl⟩ := exists_cons_of_ne_nil hne
  have hc : c ≠ '-' := fun h => hhead (by rw [h]; rfl)
  rw [cons_append] at hwhole
  cases negative with
  | false =>
    simp only [readNumber, signText, Bool.false_eq_true, if_false, nil_append, cons_append,
      List.cons.injEq, hc, false_and, imp_false, not_false_eq_true, implies_true, hwhole, hfraction,
      hexponent]
    exact ⟨fun h => by simp [h], fun h i hi => by simp only [h, if_true, hi]⟩
  | true =>
    simp only [readNumber, signText, if_true, cons_append, nil_append, hwhole, hfraction,
      hexponent]
    exact ⟨fun h => by simp [h], fun h i hi => by simp only [h, if_true, hi]⟩

end

theorem takeFraction_none {rest : List Char} (h : ∀ c ∈ rest.head?, c ≠ '.') :
    takeFraction rest = ([], rest) := by
  unfold takeFraction
  split
  · exact absurd rfl (h '.' rfl)
  · rfl

theorem takeFraction_digits {ds rest : List Char} (hne : ds ≠ []) (hds : Script.AreDigits ds)
    (hrest : ∀ c ∈ rest.head?, c.isDigit = false) :
    takeFraction ('.' :: ds ++ rest) = ('.' :: ds, rest) := by
  obtain ⟨c, ds, rfl⟩ := exists_cons_of_ne_nil hne
  simp only [takeFraction, cons_append]
  rw [← cons_append, takeDigits_append hds hrest]

theorem takeExponent_none {rest : List Char} (h : Closes rest) :
    takeExponent rest = ([], rest) := by
  cases rest with
  | nil => rfl
  | cons c rest => rcases h c rfl with rfl | rfl <;> rfl

theorem takeExponent_power {power rest : List Char} (hpower : Script.IsPower power)
    (hrest : Closes rest) : takeExponent (power ++ rest) = (power, rest) := by
  rcases hpower with rfl | ⟨sign, ds, hsign, hne, hds, rfl⟩
  · exact takeExponent_none hrest
  · have htake := takeDigits_append hds hrest.isDigit
    obtain ⟨c, ds, rfl⟩ := exists_cons_of_ne_nil hne
    rcases hsign with rfl | rfl
    · simp only [takeExponent, cons_append] at htake ⊢
      rw [htake]
      rfl
    · simp only [takeExponent, cons_append] at htake ⊢
      rw [htake]
      rfl

/-! ## Doubles -/

theorem number_write {x : Float} {negative : Bool} {m : Nat} {e : Int}
    (h : Number.Binary64.ofFloat x = .finite negative m e) :
    number.write x = plain.write x := by
  rw [Number.Style.write, Number.Style.write, h]
  rfl

theorem readAtom_numeral (n : Number.Numeral) (negative : Bool) {rest : List Char}
    (hrest : Closes rest) (pos : Nat) :
    ∃ pos', readAtom ⟨pos, signText negative ++ n.text ++ rest⟩ =
      .ok (.float ((readFloat? (String.ofList (signText negative ++ n.text))).getD 0.0),
        ⟨pos', rest⟩) := by
  obtain ⟨c, whole, hwhole⟩ := exists_cons_of_ne_nil n.whole_ne
  have hc : c.isDigit = true := n.whole_digits c (by rw [hwhole]; exact mem_cons_self ..)
  have hminus : n.whole.head? ≠ some '-' := by
    rw [hwhole, head?_cons, Ne, Option.some.injEq]
    rintro rfl
    cases hc
  have hpower : ∀ d ∈ (n.power ++ rest).head?, d.isDigit = false ∧ d ≠ '.' := by
    intro d hd
    rcases n.isPower with hp | ⟨sign, ds, -, -, -, hp⟩
    · rw [hp] at hd
      rcases hrest d hd with rfl | rfl <;> exact ⟨rfl, by decide⟩
    · rw [hp] at hd
      cases hd
      exact ⟨rfl, by decide⟩
  have hdotted : ∀ d ∈ (n.dotted ++ (n.power ++ rest)).head?, d.isDigit = false := by
    intro d hd
    unfold Number.Numeral.dotted at hd
    split at hd
    · exact (hpower d hd).1
    · cases hd
      rfl
  have hfraction : takeFraction (n.dotted ++ (n.power ++ rest)) = (n.dotted, n.power ++ rest) := by
    unfold Number.Numeral.dotted
    split
    · exact takeFraction_none fun d hd => (hpower d hd).2
    · exact takeFraction_digits ‹_› n.fraction_digits fun d hd => (hpower d hd).1
  have hmarked : (n.dotted.isEmpty && n.power.isEmpty) = false := by
    unfold Number.Numeral.dotted
    split
    · have := n.marked.resolve_left (fun h => h ‹_›)
      simpa using this
    · rfl
  have htext : signText negative ++ n.text ++ rest =
      signText negative ++ (n.whole ++ (n.dotted ++ (n.power ++ rest))) := by
    simp [Number.Numeral.text]
  have hread := readNumber_eq negative pos hminus n.whole_ne
    (takeWhole_append n.whole_digits n.whole_ne n.whole_zero hdotted) hfraction
    (takeExponent_power n.isPower hrest)
  have hatom := readAtom_eq_readNumber negative hc pos (whole ++ (n.dotted ++ (n.power ++ rest)))
  rw [← cons_append, ← hwhole] at hatom
  rw [htext, hatom, hread.1 hmarked]
  simp only [Number.Numeral.text, append_assoc]
  exact ⟨_, rfl⟩

/-- **A double is read as it.** -/
theorem readAtom_float (x : Float) {rest : List Char} (hrest : Closes rest) (pos : Nat) :
    ∃ pos', readAtom ⟨pos, (number.write x).toList ++ rest⟩ = .ok (.float x, ⟨pos', rest⟩) := by
  cases h : Number.Binary64.ofFloat x with
  | notANumber =>
    rw [Number.Style.write, h, ofFloat_notANumber h]
    exact ⟨_, rfl⟩
  | infinite negative =>
    rw [Number.Style.write, h, ofFloat_infinite h]
    cases negative <;> exact ⟨_, rfl⟩
  | finite negative m e =>
    obtain ⟨n, htext, hlen, hx⟩ := write_finite h
    obtain ⟨pos', hread⟩ := readAtom_numeral n negative hrest pos
    have hvalue : readFloat? (String.ofList (signText negative ++ n.text)) = some x := by
      rw [signText, n.readFloat?_text hlen, hx]
    rw [hvalue] at hread
    refine ⟨pos', ?_⟩
    rw [number_write h, htext]
    exact hread

/-! ## Integers -/

theorem readInt_areDigits (negative : Bool) {ds : List Char} (hds : Script.AreDigits ds)
    (hne : ds ≠ []) (hlen : ds.length ≤ maxDigits) :
    readInt (String.ofList (signText negative ++ ds)) =
      .ok (if negative then -(ofDigits (ds.map charValue) : Int)
        else ofDigits (ds.map charValue)) := by
  have hpadding : dropPadding (signText negative ++ ds) = signText negative ++ ds := by
    refine dropPadding_of_none fun c hc => isPadding_of_range ?_
    rcases mem_append.mp hc with hc | hc
    · cases negative with
      | false => cases hc
      | true =>
        cases mem_singleton.mp hc
        decide
    · have := range_of_isDigit (hds c hc)
      omega
  have hsign : takeSign (signText negative ++ ds) = (negative, ds) := by
    obtain ⟨c, ds, rfl⟩ := exists_cons_of_ne_nil hne
    have hc := hds c (mem_cons_self ..)
    cases negative with
    | false => exact takeSign_digit rfl hc
    | true => rfl
  rw [readInt, readIntIn, String.toList_ofList, hpadding, hsign]
  have hread : readDigits 10 ds = .ok (ofDigits (ds.map charValue)) :=
    readDigits_eq_ok.mpr ⟨_, digitRun?_digits hne hds, by rwa [length_map], rfl⟩
  simp only [readNatural_ten, hread]
  rfl

/-- **The digits of an integer are read as it**, if they are not too many. -/
theorem readInt_digits (negative : Bool) {n : Nat} (h : n < 10 ^ maxDigits) :
    readInt (String.ofList (signText negative ++ Nat.toDigits 10 n)) =
      .ok (if negative then -(n : Int) else n) := by
  have hlen : (Nat.toDigits 10 n).length ≤ maxDigits :=
    (Nat.length_toDigits_le_iff (by decide) (by decide)).mpr h
  have hvalue : ofDigits ((Nat.toDigits 10 n).map charValue) = n :=
    Script.ofDigits_toDigits n
  rw [readInt_areDigits negative (Script.areDigits_toDigits n) Nat.toDigits_ne_nil hlen, hvalue]

theorem toString_int (i : Int) :
    (toString i).toList = signText (decide (i < 0)) ++ Nat.toDigits 10 i.natAbs := by
  cases i with
  | ofNat n =>
    show (Nat.repr n).toList = _
    rw [Nat.repr, String.toList_ofList]
    rfl
  | negSucc n =>
    have hnegative : decide (Int.negSucc n < 0) = true := decide_eq_true (Int.negSucc_lt_zero n)
    show ("-" ++ String.ofList (Nat.toDigits 10 (n + 1))).toList = _
    rw [hnegative, String.toList_append, String.toList_ofList (l := Nat.toDigits 10 (n + 1))]
    rfl

/-- **An integer is read as it**, if its digits are not too many. -/
theorem readAtom_int {i : Int} (h : i.natAbs < 10 ^ maxDigits) {rest : List Char}
    (hrest : Closes rest) (pos : Nat) :
    ∃ pos', readAtom ⟨pos, (toString i).toList ++ rest⟩ = .ok (.int i, ⟨pos', rest⟩) := by
  have hds := Script.areDigits_toDigits i.natAbs
  have hne : Nat.toDigits 10 i.natAbs ≠ [] := Nat.toDigits_ne_nil
  have hzero : (Nat.toDigits 10 i.natAbs).head? = some '0' → Nat.toDigits 10 i.natAbs = ['0'] := by
    intro h0
    rcases Nat.eq_zero_or_pos i.natAbs with hi | hi
    · rw [hi]
      rfl
    · exact absurd h0 (Script.head_toDigits hi)
  have hread := readInt_digits (decide (i < 0)) h
  rw [toString_int]
  generalize Nat.toDigits 10 i.natAbs = ds at *
  obtain ⟨c, ds, rfl⟩ := exists_cons_of_ne_nil hne
  have hc := hds c (mem_cons_self ..)
  have hminus : (c :: ds).head? ≠ some '-' := by
    rw [head?_cons, Ne, Option.some.injEq]
    rintro rfl
    cases hc
  have hpoint : takeFraction rest = ([], rest) :=
    takeFraction_none fun d hd => by rcases hrest d hd with rfl | rfl <;> decide
  have hnumber := (@readNumber_eq (c :: ds) [] [] rest (decide (i < 0)) pos hminus hne
    (takeWhole_append hds hne hzero hrest.isDigit) hpoint (takeExponent_none hrest)).2 rfl
  simp only [nil_append, append_nil] at hnumber
  have hatom := readAtom_eq_readNumber (decide (i < 0)) hc pos (ds ++ rest)
  have hi : (if decide (i < 0) = true then -(i.natAbs : Int) else i.natAbs) = i := by
    simp only [decide_eq_true_eq]
    split <;> omega
  rw [hi] at hread
  refine ⟨pos + (signText (decide (i < 0)) ++ (c :: ds)).length, ?_⟩
  rw [append_assoc, cons_append, hatom, ← cons_append]
  exact hnumber i hread

end Sketchflow.Json
