import Mathlib
import Sketchflow.Proofs.Number.Shortest
import Sketchflow.Proofs.Script.Literal

/-!
# Doubles read back

* `ofDecimal_of_rounds`: the double nearest to a decimal is the one whose interval it lies in.
* `Numeral` are the decimal numerals with a point or an exponent, in their parts.
  `Numeral.readFloat?` says what they read as, `writeDecimal_numeral` that doubles are written so.
* **`readFloat?_write`**: every double but those that are no numbers reads back from its text.
-/

namespace Sketchflow.Number

open List Script

variable {negative : Bool} {c : Char} {x : Float} {cs : List Char}

/-! ## The nearest double -/

/-- A double from its sign and its other bits. -/
def ofMagnitude (negative : Bool) (bits : Nat) : Float :=
  Float.ofBits (UInt64.ofNat (if negative then two 63 + bits else bits))

section

variable {m : Nat} {e : Int}

theorem ofRatio_of_rounds (h : Normal m e) (negative : Bool) {num den : Nat} (hden : 0 < den)
    (hr : Rounds m e (num / den)) :
    ofRatio negative num den = ofMagnitude negative (bitsOf m e) := by
  have hnum : num ≠ 0 := by
    rintro rfl
    have := hr.pos h.pos
    simp at this
  have hne : (num == 0) = false := by simpa using hnum
  simp [ofRatio, hne, magnitudeBits_of_rounds h hden hr, ofMagnitude]

theorem Rounds.range (h : Normal m e) {x : ℚ} (hr : Rounds m e x) :
    (10 : ℚ) ^ (-325 : Int) ≤ x ∧ x ≤ 10 ^ (310 : Int) := by
  have hm : (1 : ℚ) ≤ m := by exact_mod_cast h.pos
  have hmlt : (m : ℚ) + 1 ≤ 2 ^ 53 := by exact_mod_cast h.lt
  constructor
  · calc (10 : ℚ) ^ (-325 : Int) ≤ 2 ^ (-1074 - 1 : Int) := (guess_bounds (k := -1074) (by omega)).1
      _ = 1 / 2 * 2 ^ (-1074 : Int) := by rw [zpow_sub_one₀ (by norm_num)]; ring
      _ ≤ (m - 1 / 2) * 2 ^ e :=
          mul_le_mul (by linarith) (zpow_le_zpow_right₀ (by norm_num) h.low) (two_zpow_pos _).le
            (by linarith)
      _ ≤ x := half_le_lowerEnd.trans hr.lower
  · calc x ≤ (m + 1 / 2) * 2 ^ e := hr.upper
      _ ≤ 2 ^ 53 * 2 ^ (971 : Int) :=
          mul_le_mul (by linarith) (zpow_le_zpow_right₀ (by norm_num) h.high) (two_zpow_pos _).le
            (by norm_num)
      _ = 2 ^ (1023 + 1 : Int) := by
          rw [← zpow_natCast, ← zpow_add₀ (by norm_num)]
          norm_num
      _ ≤ 10 ^ (310 : Int) := (guess_bounds (k := 1023) (by omega)).2

theorem ten_zpow_le {a b : Int} (h : (10 : ℚ) ^ a ≤ 10 ^ b) : a ≤ b :=
  (zpow_le_zpow_iff_right₀ (by norm_num)).mp h

/-- **The double nearest to a decimal is the one whose interval it lies in.** -/
theorem ofDecimal_of_rounds (h : Normal m e) (negative : Bool) {digits : Nat} {exponent : Int}
    (hlt : digits < 2 ^ 200) (hr : Rounds m e (digits * 10 ^ exponent)) :
    ofDecimal negative digits exponent = ofMagnitude negative (bitsOf m e) := by
  have hpos : 0 < digits := by
    refine Nat.pos_of_ne_zero fun h0 => ?_
    have := hr.pos h.pos
    rw [h0] at this
    simp at this
  have hne : (digits == 0) = false := by simpa using hpos.ne'
  have hlog : digits.log2 < 200 := (Nat.log2_lt hpos.ne').mpr hlt
  obtain ⟨hguess₁, hguess₂⟩ := guess_bounds (k := digits.log2) (by omega)
  have hlow : (2 : ℚ) ^ ((digits.log2 : Int) - 1) ≤ digits := by
    refine (zpow_le_zpow_right₀ (by norm_num) (show _ ≤ (digits.log2 : Int) by omega)).trans ?_
    exact_mod_cast Nat.log2_self_le hpos.ne'
  have hhigh : (digits : ℚ) ≤ 2 ^ ((digits.log2 : Int) + 1) := by
    exact_mod_cast Nat.lt_log2_self.le
  obtain ⟨hrange₁, hrange₂⟩ := hr.range h
  have hsize : (digits.log2 : Int) * 30103 / 100000 = guessOf digits.log2 + 1 := by
    unfold guessOf
    omega
  -- The size is a power of ten next to the decimal, so it is not cut short.
  have hupper : guessOf digits.log2 + exponent ≤ 310 := by
    refine ten_zpow_le (le_trans ?_ hrange₂)
    rw [zpow_add₀ (by norm_num)]
    exact mul_le_mul_of_nonneg_right (hguess₁.trans hlow) (ten_zpow_pos _).le
  have hlower : -325 ≤ guessOf digits.log2 + 4 + exponent := by
    refine ten_zpow_le (hrange₁.trans ?_)
    rw [zpow_add₀ (by norm_num)]
    exact mul_le_mul_of_nonneg_right (hhigh.trans hguess₂) (ten_zpow_pos _).le
  simp only [ofDecimal, hne, Bool.false_eq_true, if_false, hsize]
  rw [if_neg (by omega), if_neg (by omega)]
  rw [ten_zpow_eq] at hr
  split
  · rename_i hexp
    refine ofRatio_of_rounds h negative one_pos ?_
    simpa [gridUp, gridDown, hexp] using hr
  · rename_i hexp
    refine ofRatio_of_rounds h negative (by simp [ten_eq]) ?_
    simpa [gridUp, gridDown, hexp, div_eq_mul_inv] using hr

end

/-! ## Parts and bits -/

theorem ofMagnitude_of_bits {bits : Nat}
    (h : x.toBits.toNat = if negative then two 63 + bits else bits) :
    ofMagnitude negative bits = x := by
  rw [ofMagnitude, ← h, UInt64.ofNat_toNat, Float.ofBits_toBits]

theorem ofFloat_finite {m : Nat} {e : Int} (h : Binary64.ofFloat x = .finite negative m e) :
    ofMagnitude negative (bitsOf m e) = x ∧ (m = 0 ∧ e = -1074 ∨ Normal m e) := by
  have hlt : x.toBits.toNat < 2 ^ 64 := x.toBits.toNat_lt
  have hbits : (negative = true ↔ x.toBits.toNat / 2 ^ 63 = 1) →
      x.toBits.toNat % 2 ^ 63 = bitsOf m e → ofMagnitude negative (bitsOf m e) = x := by
    intro hsign hrest
    refine ofMagnitude_of_bits ?_
    rw [← hrest, two_eq]
    split
    · have := hsign.mp ‹_›
      omega
    · have := mt hsign.mpr ‹_›
      omega
  simp only [Binary64.ofFloat] at h
  split at h
  · split at h <;> cases h
  · rename_i hfinite
    rw [beq_iff_eq, two_eq, two_eq] at hfinite
    split at h
    · rename_i hzero
      rw [beq_iff_eq, two_eq, two_eq] at hzero
      cases h
      refine ⟨hbits (by simp [two_eq]) ?_, ?_⟩
      · rw [bitsOf, two_eq, if_pos (Nat.mod_lt _ (by norm_num))]
        omega
      · rw [two_eq]
        rcases Nat.eq_zero_or_pos (x.toBits.toNat % 2 ^ 52) with h0 | hpos
        · exact .inl ⟨h0, rfl⟩
        · exact .inr ⟨hpos, by omega, le_refl _, by norm_num, .inr rfl⟩
    · rename_i hzero
      rw [beq_iff_eq, two_eq, two_eq] at hzero
      cases h
      simp only [two_eq] at *
      refine ⟨hbits (by simp) ?_, .inr ⟨by omega, by omega, by omega, by omega, .inl (by omega)⟩⟩
      rw [bitsOf, if_neg (by omega)]
      omega

/-! ## Digits -/

def charValue (c : Char) : Nat :=
  c.toNat - '0'.toNat

theorem foldl_digits (ds : List Nat) (n : Nat) :
    ds.foldl (fun n d => 10 * n + d) n = n * 10 ^ ds.length + ofDigits ds := by
  induction ds generalizing n with
  | nil => simp [ofDigits]
  | cons d ds ih =>
    have hds : ofDigits (d :: ds) = (10 * 0 + d) * 10 ^ ds.length + ofDigits ds := ih _
    rw [foldl_cons, ih, hds, length_cons, pow_succ]
    ring

@[simp] theorem ofDigits_nil : ofDigits [] = 0 := rfl

theorem ofDigits_cons (d : Nat) (ds : List Nat) :
    ofDigits (d :: ds) = d * 10 ^ ds.length + ofDigits ds := by
  rw [ofDigits, foldl_cons, foldl_digits, Nat.mul_zero, Nat.zero_add]

theorem ofDigits_append (as bs : List Nat) :
    ofDigits (as ++ bs) = ofDigits as * 10 ^ bs.length + ofDigits bs := by
  rw [ofDigits, foldl_append, foldl_digits]
  rfl

theorem ofDigits_zeros (count : Nat) : ofDigits (List.replicate count 0) = 0 := by
  induction count with
  | zero => rfl
  | succ count ih => rw [replicate_succ, ofDigits_cons, ih, Nat.zero_mul]

theorem ofDigits_dropZeros (ds : List Nat) : ofDigits (ds.dropWhile (· == 0)) = ofDigits ds := by
  induction ds with
  | nil => rfl
  | cons d ds ih =>
    rw [dropWhile_cons]
    split
    · rename_i h
      rw [ih, ofDigits_cons, beq_iff_eq.mp h, Nat.zero_mul, Nat.zero_add]
    · rfl

theorem ofDigits_lt {ds : List Nat} (h : ∀ d ∈ ds, d < 10) : ofDigits ds < 10 ^ ds.length := by
  induction ds with
  | nil => simp
  | cons d ds ih =>
    have hd := h d (mem_cons_self ..)
    have := ih fun d hd => h d (mem_cons_of_mem _ hd)
    rw [ofDigits_cons, length_cons, pow_succ]
    nlinarith

theorem range_of_isDigit (h : c.isDigit = true) : 48 ≤ c.toNat ∧ c.toNat ≤ 57 := by
  simpa [Char.isDigit, UInt32.le_iff_toNat_le] using h

theorem charValue_lt (h : c.isDigit = true) : charValue c < 10 := by
  have := range_of_isDigit h
  unfold charValue
  simp only [show '0'.toNat = 48 from rfl]
  omega

theorem digitValue?_digit (h : c.isDigit = true) :
    Text.digitValue? c = some (charValue c) := by
  have := range_of_isDigit h
  rw [Text.digitValue?, if_pos (by omega), if_pos h]
  rfl

theorem digitRun?_digits {ds : List Char} (hne : ds ≠ []) (h : AreDigits ds) :
    digitRun? ds = some (ds.map charValue) := by
  induction ds with
  | nil => exact absurd rfl hne
  | cons c ds ih =>
    have hc := digitValue?_digit (h c (mem_cons_self ..))
    have hds : AreDigits ds := fun d hd => h d (mem_cons_of_mem _ hd)
    cases ds with
    | nil => simp [digitRun?, hc]
    | cons d ds =>
      have hd := ne_underscore_of_isDigit (hds d (mem_cons_self ..))
      rw [digitRun?, ih (by simp) hds, hc]
      · rfl
      · simp
      · rintro rest
        simp [hd]

theorem optionalRun?_digits {ds : List Char} (h : AreDigits ds) :
    optionalRun? ds = some (ds.map charValue) := by
  unfold optionalRun?
  split
  · rename_i hempty
    rw [isEmpty_iff.mp hempty]
    rfl
  · rename_i hne
    exact digitRun?_digits (by simpa using hne) h

/-! ## Numerals in their parts -/

/-- A decimal numeral with a point or an exponent. -/
structure Numeral where
  whole : List Char
  fraction : List Char
  power : List Char
  whole_ne : whole ≠ []
  whole_digits : AreDigits whole
  /-- A zero in front stands alone. -/
  whole_zero : whole.head? = some '0' → whole = ['0']
  fraction_digits : AreDigits fraction
  isPower : IsPower power
  marked : fraction ≠ [] ∨ power ≠ []

namespace Numeral

def dotted (n : Numeral) : List Char :=
  if n.fraction = [] then [] else '.' :: n.fraction

def text (n : Numeral) : List Char :=
  n.whole ++ (n.dotted ++ n.power)

def digits (n : Numeral) : Nat :=
  ofDigits ((n.whole ++ n.fraction).map charValue)

/-- The power of ten that its digits are counted in. -/
def exponent (n : Numeral) : Int :=
  (exponent? n.power).getD 0 - n.fraction.length

def value (n : Numeral) : ℚ :=
  n.digits * 10 ^ n.exponent

end Numeral

theorem splitAtFirst_append {p : Char → Bool} {a b : List Char} (ha : ∀ c ∈ a, p c = false)
    (hb : ∀ c ∈ b.head?, p c = true) : splitAtFirst p (a ++ b) = (a, b) := by
  have ha' : ∀ c ∈ a, (!p c) = true := fun c hc => by rw [ha c hc]; rfl
  rw [splitAtFirst, takeWhile_append_of_pos ha', dropWhile_append_of_pos ha']
  cases b with
  | nil => simp
  | cons c b =>
    have hc := hb c rfl
    simp [hc]

theorem exponent?_power {power : List Char} (h : IsPower power) :
    ∃ k, exponent? power = some k := by
  rcases h with rfl | ⟨sign, ds, hsign, hne, hds, rfl⟩
  · exact ⟨0, rfl⟩
  · rcases hsign with rfl | rfl
    · exact ⟨ofDigits (ds.map charValue), by simp [exponent?, takeSign, digitRun?_digits hne hds]⟩
    · exact ⟨-ofDigits (ds.map charValue), by simp [exponent?, takeSign, digitRun?_digits hne hds]⟩

theorem Numeral.range_of_mem (n : Numeral) (h : c ∈ n.text) :
    43 ≤ c.toNat ∧ c.toNat ≤ 101 := by
  have hdigit : ∀ {ds : List Char}, AreDigits ds → c ∈ ds → 43 ≤ c.toNat ∧ c.toNat ≤ 101 := by
    intro ds hds hc
    have := range_of_isDigit (hds c hc)
    omega
  rw [text, mem_append, mem_append] at h
  rcases h with h | h | h
  · exact hdigit n.whole_digits h
  · unfold dotted at h
    split at h
    · cases h
    · rcases mem_cons.mp h with rfl | h
      · decide
      · exact hdigit n.fraction_digits h
  · rcases n.isPower with hpower | ⟨sign, ds, hsign, -, hds, hpower⟩
    · rw [hpower] at h
      cases h
    · rw [hpower, mem_cons, mem_cons] at h
      rcases h with rfl | rfl | h
      · decide
      · rcases hsign with rfl | rfl <;> decide
      · exact hdigit hds h

theorem ne_of_isDigit {d : Char} (h : c.isDigit = true) (hd : d.isDigit = false) :
    (c == d) = false := by
  rw [beq_eq_false_iff_ne]
  rintro rfl
  rw [h] at hd
  cases hd

theorem Numeral.decimalText?_text (n : Numeral) :
    decimalText? n.text = some ⟨n.whole.map charValue, n.fraction.map charValue,
      (exponent? n.power).getD 0⟩ := by
  have hmark : splitAtFirst (fun c => c == 'e' || c == 'E') n.text =
      (n.whole ++ n.dotted, n.power) := by
    rw [text, ← append_assoc]
    refine splitAtFirst_append (fun c hc => ?_) fun c hc => ?_
    · rcases mem_append.mp hc with hc | hc
      · simp [ne_of_isDigit (n.whole_digits c hc)]
      · unfold dotted at hc
        split at hc
        · cases hc
        · rcases mem_cons.mp hc with rfl | hc
          · rfl
          · simp [ne_of_isDigit (n.fraction_digits c hc)]
    · rcases n.isPower with hpower | ⟨sign, ds, -, -, -, hpower⟩
      · rw [hpower] at hc
        cases hc
      · rw [hpower] at hc
        cases hc
        rfl
  have hpoint : splitAtFirst (· == '.') (n.whole ++ n.dotted) = (n.whole, n.dotted) := by
    refine splitAtFirst_append (fun c hc => ne_of_isDigit (n.whole_digits c hc) rfl) fun c hc => ?_
    unfold dotted at hc
    split at hc
    · cases hc
    · cases hc
      rfl
  have hfraction : n.dotted.drop 1 = n.fraction := by
    unfold dotted
    split
    · rename_i h
      rw [h]
      rfl
    · rfl
  obtain ⟨k, hk⟩ := exponent?_power n.isPower
  have hne : (n.whole.map charValue).isEmpty = false := by
    simpa using n.whole_ne
  simp [decimalText?, hmark, hpoint, hfraction, optionalRun?_digits n.whole_digits,
    optionalRun?_digits n.fraction_digits, hk, hne]

theorem Numeral.toFloat_text (n : Numeral) (hlen : (n.whole ++ n.fraction).length ≤ decisiveDigits)
    (negative : Bool) :
    DecimalText.toFloat negative ⟨n.whole.map charValue, n.fraction.map charValue,
      (exponent? n.power).getD 0⟩ = ofDecimal negative n.digits n.exponent := by
  have hshort :
      (((n.whole ++ n.fraction).map charValue).dropWhile (· == 0)).length ≤ decisiveDigits := by
    refine (length_dropWhile_le _ _).trans ?_
    rwa [length_map]
  have hdecisive : ∀ ds : List Nat, ds.length ≤ decisiveDigits → decisive ds = (ds, 0) := by
    intro ds hds
    rw [decisive]
    simp [hds]
  rw [DecimalText.toFloat]
  simp only [← map_append, hdecisive _ hshort, ofDigits_dropZeros, length_map]
  rw [digits, exponent, Nat.cast_zero, add_zero]

theorem dropWhile_of_none {p : Char → Bool} (h : ∀ c ∈ cs, p c = false) :
    cs.dropWhile p = cs := by
  cases cs with
  | nil => rfl
  | cons c cs => rw [dropWhile_cons, h c (mem_cons_self ..)]; rfl

theorem dropPadding_of_none (h : ∀ c ∈ cs, isPadding c = false) :
    dropPadding cs = cs := by
  rw [dropPadding, dropWhile_of_none h, dropWhile_of_none fun c hc => h c (mem_reverse.mp hc),
    reverse_reverse]

theorem isPadding_of_range (h : 43 ≤ c.toNat ∧ c.toNat ≤ 101) : isPadding c = false := by
  unfold isPadding Text.isBlank
  simp only [Bool.and_eq_false_iff]
  left
  simp only [Bool.or_eq_false_iff, Bool.and_eq_false_iff, decide_eq_false_iff_not,
    beq_eq_false_iff_ne]
  omega

theorem takeSign_digit {rest : List Char} (h : cs = c :: rest) (hc : c.isDigit = true) :
    takeSign cs = (false, cs) := by
  subst h
  unfold takeSign
  split
  · rename_i heq
    rw [(List.cons.inj heq).1] at hc
    cases hc
  · rename_i heq
    rw [(List.cons.inj heq).1] at hc
    cases hc
  · rfl

theorem readFloat?_of_digit (negative : Bool) {rest : List Char} (h : cs = c :: rest)
    (hc : c.isDigit = true) (hpadding : ∀ e ∈ cs, isPadding e = false) :
    readFloat? (String.ofList ((if negative then ['-'] else []) ++ cs)) =
      (decimalText? cs).map (·.toFloat negative) := by
  have hpadded : dropPadding ((if negative then ['-'] else []) ++ cs) =
      (if negative then ['-'] else []) ++ cs := by
    refine dropPadding_of_none fun e he => ?_
    rcases mem_append.mp he with he | he
    · cases negative with
      | false => cases he
      | true =>
        cases mem_singleton.mp he
        decide
    · exact hpadding e he
  have hsign : takeSign ((if negative then ['-'] else []) ++ cs) = (negative, cs) := by
    cases negative with
    | false => exact takeSign_digit h hc
    | true => rfl
  -- The first character tells a numeral from the words.
  have hword : ∀ first tail, first.isDigit = false →
      (String.ofList (cs.map Char.toLower) == String.ofList (first :: tail)) = false := by
    intro first tail hfirst
    rw [beq_eq_false_iff_ne, Ne, String.ofList_inj, h, map_cons, List.cons.injEq, not_and]
    intro heq
    have hrange := range_of_isDigit hc
    have hlower : c.toLower = c := by
      unfold Char.toLower
      rw [dif_neg]
      rintro ⟨hA, -⟩
      rw [ge_iff_le, UInt32.le_iff_toNat_le] at hA
      change 65 ≤ c.toNat at hA
      omega
    rw [hlower] at heq
    rw [heq, hfirst] at hc
    cases hc
  have hinf : (String.ofList (cs.map Char.toLower) == "inf") = false :=
    hword 'i' ['n', 'f'] rfl
  have hinfinity : (String.ofList (cs.map Char.toLower) == "infinity") = false :=
    hword 'i' ['n', 'f', 'i', 'n', 'i', 't', 'y'] rfl
  have hnan : (String.ofList (cs.map Char.toLower) == "nan") = false :=
    hword 'n' ['a', 'n'] rfl
  simp [readFloat?, hpadded, hsign, hinf, hinfinity, hnan]

/-- **A numeral of few digits reads as its digits and its power of ten.** -/
theorem Numeral.readFloat?_text (n : Numeral)
    (hlen : (n.whole ++ n.fraction).length ≤ decisiveDigits) (negative : Bool) :
    readFloat? (String.ofList ((if negative then ['-'] else []) ++ n.text)) =
      some (ofDecimal negative n.digits n.exponent) := by
  obtain ⟨c, whole, hwhole⟩ := exists_cons_of_ne_nil n.whole_ne
  have hc : c.isDigit = true := n.whole_digits c (by rw [hwhole]; exact mem_cons_self ..)
  have htext : n.text = c :: (whole ++ (n.dotted ++ n.power)) := by rw [text, hwhole]; rfl
  rw [readFloat?_of_digit negative htext hc fun c hc => isPadding_of_range (n.range_of_mem hc),
    n.decimalText?_text, Option.map_some, n.toFloat_text hlen]

/-! ## Doubles as numerals -/

theorem map_charValue_zeros (count : Nat) :
    (List.replicate count '0').map charValue = List.replicate count 0 := by
  rw [map_replicate]
  rfl

/-- Zeros at the end are made up for by the power of ten. -/
theorem Numeral.value_eq {n : Numeral} {d : Decimal} (t : Nat)
    (hdigits : n.digits = d.digits * 10 ^ t)
    (hexponent : n.exponent + t = d.exponent) : n.value = d.value := by
  rw [value, Decimal.value, hdigits, ← hexponent, zpow_add₀ (by norm_num)]
  push_cast
  rw [zpow_natCast]
  ring

/-- The exponent of a decimal in scientific form. -/
def powerText (style : Style) (top : Int) : String :=
  "e" ++ (if top < 0 then "-" else "+") ++ padZeros style.exponentWidth (toString top.natAbs)

theorem powerText_spec (style : Style) (top : Int) :
    IsPower (powerText style top).toList ∧ (powerText style top).toList ≠ [] ∧
      exponent? (powerText style top).toList = some top := by
  obtain ⟨hne, hdigits⟩ := areDigits_padZeros style.exponentWidth top.natAbs
  have hvalue : ofDigits ((padZeros style.exponentWidth (toString top.natAbs)).toList.map charValue) =
      top.natAbs := by
    rw [padZeros, String.toList_append, String.toList_ofList, map_append, map_charValue_zeros,
      ofDigits_append, ofDigits_zeros, Nat.zero_mul, Nat.zero_add, Nat.toString_eq_ofList_toDigits,
      String.toList_ofList]
    exact ofDigits_toDigits top.natAbs
  have htext : (powerText style top).toList = 'e' :: (if top < 0 then '-' else '+') ::
      (padZeros style.exponentWidth (toString top.natAbs)).toList := by
    rw [powerText, String.toList_append]
    split <;> rfl
  rw [htext]
  generalize (padZeros style.exponentWidth (toString top.natAbs)).toList = ds at *
  refine ⟨.inr ⟨_, ds, ?_, hne, hdigits, rfl⟩, by simp, ?_⟩
  · split <;> simp
  · split
    · simp only [exponent?, takeSign, digitRun?_digits hne hdigits, Option.map_some, hvalue,
        if_true, Option.some.injEq]
      omega
    · simp only [exponent?, takeSign, digitRun?_digits hne hdigits, Option.map_some, hvalue,
        Bool.false_eq_true, if_false, Option.some.injEq]
      omega

/-- The digits of a positive natural. -/
structure Leading (ds : List Char) : Prop where
  ne : ds ≠ []
  digits : AreDigits ds
  head : ds.head? ≠ some '0'

theorem leading_toDigits {n : Nat} (h : 0 < n) : Leading (Nat.toDigits 10 n) :=
  ⟨Nat.toDigits_ne_nil, areDigits_toDigits n, head_toDigits h⟩

section

variable {ds : List Char}

theorem numeral_small (h : Leading ds) (zeros : Nat) :
    ∃ n : Numeral, n.text = "0.".toList ++ (List.replicate zeros '0' ++ ds) ∧
      n.digits = ofDigits (ds.map charValue) ∧ n.exponent + (zeros + ds.length) = 0 ∧
      (n.whole ++ n.fraction).length = 1 + zeros + ds.length := by
  refine ⟨⟨['0'], List.replicate zeros '0' ++ ds, [], by simp, by simp [AreDigits], fun _ => rfl,
    (areDigits_zeros _).append h.digits, .inl rfl, .inl (by simp [h.ne])⟩, ?_, ?_, ?_, ?_⟩
  · simp [Numeral.text, Numeral.dotted, h.ne]
  · simp only [Numeral.digits, map_append, map_charValue_zeros, ofDigits_append, ofDigits_zeros]
    simp [charValue, ofDigits_cons]
  · simp only [Numeral.exponent, exponent?, Option.getD_some, length_append,
      length_replicate]
    push_cast
    ring
  · simp only [length_append, length_replicate, length_singleton]
    ring

theorem numeral_whole (h : Leading ds) (zeros : Nat) :
    ∃ n : Numeral, n.text = (ds ++ List.replicate zeros '0') ++ ".0".toList ∧
      n.digits = ofDigits (ds.map charValue) * 10 ^ (zeros + 1) ∧ n.exponent = -1 ∧
      (n.whole ++ n.fraction).length = ds.length + zeros + 1 := by
  refine ⟨⟨ds ++ List.replicate zeros '0', ['0'], [], by simp [h.ne],
    h.digits.append (areDigits_zeros _), ?_, by simp [AreDigits], .inl rfl, .inl (by simp)⟩,
    ?_, ?_, rfl, ?_⟩
  · rw [head?_append_of_ne_nil _ h.ne]
    exact fun hzero => absurd hzero h.head
  · simp [Numeral.text, Numeral.dotted]
  · simp only [Numeral.digits, map_append, map_charValue_zeros, ofDigits_append, ofDigits_zeros,
      length_replicate, pow_succ]
    simp [charValue, ofDigits_cons]
    ring
  · simp only [length_append, length_replicate, length_singleton]

theorem numeral_split (h : Leading ds) {point : Nat} (hpos : 0 < point) (hlt : point < ds.length) :
    ∃ n : Numeral, n.text = ds.take point ++ '.' :: ds.drop point ∧
      n.digits = ofDigits (ds.map charValue) ∧ n.exponent + ds.length = point ∧
      (n.whole ++ n.fraction).length = ds.length := by
  have hdrop : ds.drop point ≠ [] := by
    rw [← length_pos_iff, length_drop]
    omega
  refine ⟨⟨ds.take point, ds.drop point, [], ?_, fun c hc => h.digits c (mem_of_mem_take hc), ?_,
    fun c hc => h.digits c (mem_of_mem_drop hc), .inl rfl, .inl hdrop⟩, ?_, ?_, ?_, ?_⟩
  · rw [← length_pos_iff, length_take]
    omega
  · rw [head?_take, if_neg hpos.ne']
    exact fun hzero => absurd hzero h.head
  · simp only [Numeral.text, Numeral.dotted, if_neg hdrop, append_nil]
  · rw [Numeral.digits, take_append_drop]
  · simp only [Numeral.exponent, exponent?, Option.getD_some, length_drop]
    omega
  · rw [take_append_drop]

theorem numeral_scientific (h : Leading (c :: ds)) (style : Style) (top : Int) :
    ∃ n : Numeral, n.text = (match ds with | [] => [c] | ds => c :: '.' :: ds) ++
        (powerText style top).toList ∧
      n.digits = ofDigits ((c :: ds).map charValue) ∧ n.exponent + ds.length = top ∧
      (n.whole ++ n.fraction).length = ds.length + 1 := by
  obtain ⟨hpower, hpne, hk⟩ := powerText_spec style top
  have hc : AreDigits [c] := fun x hx => by
    rw [mem_singleton.mp hx]
    exact h.digits c (mem_cons_self ..)
  refine ⟨⟨[c], ds, (powerText style top).toList, by simp, hc, fun hzero => absurd hzero h.head,
    fun x hx => h.digits x (mem_cons_of_mem _ hx), hpower, .inr hpne⟩, ?_, rfl, ?_, ?_⟩
  · cases ds <;> simp [Numeral.text, Numeral.dotted]
  · simp only [Numeral.exponent, hk, Option.getD_some]
    ring
  · simp

end

/-- **A positive decimal is written as a numeral of the same value**, with few digits more. -/
theorem writeDecimal_numeral (d : Decimal) (hpos : 0 < d.digits) :
    ∃ n : Numeral, (plain.writeDecimal d).toList = n.text ∧ n.value = d.value ∧
      (n.whole ++ n.fraction).length ≤ (Nat.toDigits 10 d.digits).length + 20 := by
  have hlead := leading_toDigits hpos
  have hvalue : ofDigits ((Nat.toDigits 10 d.digits).map charValue) = d.digits :=
    ofDigits_toDigits d.digits
  unfold Style.writeDecimal
  generalize Nat.toDigits 10 d.digits = ds at *
  simp only
  split
  · rename_i hpositional
    rw [Bool.and_eq_true, decide_eq_true_iff, decide_eq_true_iff] at hpositional
    change -4 ≤ _ ∧ _ ≤ 15 at hpositional
    split
    · obtain ⟨n, htext, hdigits, hexponent, hlength⟩ :=
        numeral_small hlead (-(d.exponent + ds.length)).toNat
      refine ⟨n, ?_, Numeral.value_eq 0 (by rw [hdigits, hvalue, pow_zero, mul_one]) (by omega),
        by omega⟩
      rw [htext, String.toList_append]
      congr 1
      exact String.toList_ofList
    · split
      · obtain ⟨n, htext, hdigits, hexponent, hlength⟩ :=
          numeral_whole hlead ((d.exponent + ds.length).toNat - ds.length)
        refine ⟨n, ?_, Numeral.value_eq _ (by rw [hdigits, hvalue]) (by push_cast; omega), by omega⟩
        rw [htext, String.toList_append, String.toList_ofList]
        rfl
      · obtain ⟨n, htext, hdigits, hexponent, hlength⟩ :=
          numeral_split hlead (show 0 < (d.exponent + ds.length).toNat by omega) (by omega)
        refine ⟨n, ?_, Numeral.value_eq 0 (by rw [hdigits, hvalue, pow_zero, mul_one]) (by omega),
          by omega⟩
        rw [htext, String.toList_append, String.toList_append, String.toList_ofList,
          String.toList_ofList]
        simp
  · obtain ⟨c, rest, rfl⟩ := exists_cons_of_ne_nil hlead.ne
    obtain ⟨n, htext, hdigits, hexponent, hlength⟩ :=
      numeral_scientific hlead plain (d.exponent + (c :: rest).length - 1)
    refine ⟨n, ?_, Numeral.value_eq 0 (by rw [hdigits, hvalue, pow_zero, mul_one]) ?_, ?_⟩
    · rw [htext, powerText]
      cases rest <;> simp
    · rw [length_cons] at hexponent
      push_cast at hexponent ⊢
      linarith
    · rw [hlength, length_cons]
      omega

/-! ## Doubles read back -/

theorem write_finite {m : Nat} {e : Int} (h : Binary64.ofFloat x = .finite negative m e) :
    ∃ n : Numeral, (plain.write x).toList = (if negative then ['-'] else []) ++ n.text ∧
      (n.whole ++ n.fraction).length ≤ decisiveDigits ∧
      ofDecimal negative n.digits n.exponent = x := by
  obtain ⟨hx, hparts⟩ := ofFloat_finite h
  have hsign : (if negative = true then "-" else "").toList =
      if negative = true then ['-'] else [] := by
    cases negative <;> rfl
  rcases hparts with ⟨rfl, rfl⟩ | hnormal
  · refine ⟨⟨['0'], ['0'], [], by simp, by simp [AreDigits], fun _ => rfl, by simp [AreDigits], .inl rfl,
      .inl (by simp)⟩, ?_, by decide, ?_⟩
    · simp only [Style.write, h, beq_self_eq_true, if_true]
      rw [String.toList_append, String.toList_append, hsign, append_assoc]
      rfl
    · rw [← hx]
      cases negative <;> rfl
  · obtain ⟨hrounds, hdigits⟩ := shortest_rounds hnormal
    have hpos : 0 < (shortest m e).digits := by
      refine Nat.pos_of_ne_zero fun h0 => ?_
      have := hrounds.pos hnormal.pos
      rw [Decimal.value, h0, Nat.cast_zero, zero_mul] at this
      exact lt_irrefl _ this
    obtain ⟨n, htext, hvalue, hlength⟩ := writeDecimal_numeral (shortest m e) hpos
    have hcount : (Nat.toDigits 10 (shortest m e).digits).length ≤ 19 :=
      (Nat.length_toDigits_le_iff (by decide) (by decide)).mpr (by omega)
    have hm : (m == 0) = false := by simpa using hnormal.pos.ne'
    refine ⟨n, ?_, by unfold decisiveDigits; omega, ?_⟩
    · simp only [Style.write, h, hm, Bool.false_eq_true, if_false]
      rw [String.toList_append, hsign, htext]
    · rw [← hx]
      refine ofDecimal_of_rounds hnormal negative ?_ ?_
      · have hlt : n.digits < 10 ^ ((n.whole ++ n.fraction).map charValue).length := by
          refine ofDigits_lt fun v hv => ?_
          obtain ⟨c, hc, rfl⟩ := mem_map.mp hv
          exact charValue_lt ((n.whole_digits.append n.fraction_digits) c hc)
        rw [length_map] at hlt
        calc n.digits < 10 ^ (n.whole ++ n.fraction).length := hlt
          _ ≤ 10 ^ 39 := Nat.pow_le_pow_right (by norm_num) (by omega)
          _ < 2 ^ 200 := by norm_num
      · change Rounds m e n.value
        rw [hvalue]
        exact hrounds

/-- There is one double that is no number. -/
theorem ofFloat_notANumber (h : Binary64.ofFloat x = .notANumber) : x = 0.0 / 0.0 := by
  have hparts : x.toBits.toNat / 2 ^ 52 % 2 ^ 11 = 2047 ∧ x.toBits.toNat % 2 ^ 52 ≠ 0 := by
    simp only [Binary64.ofFloat] at h
    split at h
    · rename_i hbiased
      split at h
      · cases h
      · rename_i hfraction
        rw [beq_iff_eq] at hbiased hfraction
        exact ⟨hbiased, hfraction⟩
    · split at h <;> cases h
  obtain ⟨hbiased, hfraction⟩ := hparts
  have hexponent : @Float.Model.UnpackedFloat.unpackExponent .binary64 x.toBits.toBitVec =
      -1#11 := by
    rw [Float.Model.UnpackedFloat.unpackExponent_def]
    refine BitVec.eq_of_toNat_eq ?_
    rw [BitVec.extractLsb'_toNat, Nat.shiftRight_eq_div_pow]
    exact hbiased
  have hmantissa :
      @Float.Model.UnpackedFloat.unpackMantissa .binary64 x.toBits.toBitVec ≠ 0#52 := by
    rw [Float.Model.UnpackedFloat.unpackMantissa_def]
    intro h0
    have hnat := congrArg BitVec.toNat h0
    rw [BitVec.extractLsb'_toNat, Nat.shiftRight_zero] at hnat
    exact hfraction hnat
  have hnan : (0.0 / 0.0 : Float).toBits.toBitVec =
      Float.Model.UnpackedFloat.packedNaN .binary64 := by decide
  rw [← Float.toBits_inj, ← UInt64.toBitVec_inj, hnan]
  exact x.toModel.valid.eq_packedNaN hexponent hmantissa

theorem ofFloat_infinite (h : Binary64.ofFloat x = .infinite negative) :
    x = if negative then -(1.0 / 0.0) else 1.0 / 0.0 := by
  have hlt : x.toBits.toNat < 2 ^ 64 := x.toBits.toNat_lt
  have hparts : x.toBits.toNat / 2 ^ 52 % 2 ^ 11 = 2047 ∧ x.toBits.toNat % 2 ^ 52 = 0 ∧
      (x.toBits.toNat / 2 ^ 63 == 1) = negative := by
    simp only [Binary64.ofFloat] at h
    split at h
    · rename_i hbiased
      split at h
      · rename_i hfraction
        rw [beq_iff_eq] at hbiased hfraction
        cases h
        exact ⟨hbiased, hfraction, rfl⟩
      · cases h
    · split at h <;> cases h
  obtain ⟨hbiased, hfraction, hsign⟩ := hparts
  rw [← Float.toBits_inj, ← UInt64.toNat_inj]
  cases negative with
  | false =>
    have hbits : (if false = true then -(1.0 / 0.0) else 1.0 / 0.0 : Float).toBits.toNat =
        2047 * 2 ^ 52 := by decide
    rw [beq_eq_false_iff_ne] at hsign
    omega
  | true =>
    have hbits : (if true = true then -(1.0 / 0.0) else 1.0 / 0.0 : Float).toBits.toNat =
        2 ^ 63 + 2047 * 2 ^ 52 := by decide
    rw [beq_iff_eq] at hsign
    omega

/-- **Every double reads back from its text.** -/
theorem readFloat?_write (x : Float) : readFloat? (plain.write x) = some x := by
  cases h : Binary64.ofFloat x with
  | notANumber =>
    rw [Style.write, h, ofFloat_notANumber h]
    rfl
  | infinite negative =>
    rw [Style.write, h, ofFloat_infinite h]
    cases negative <;> rfl
  | finite negative m e =>
    obtain ⟨n, htext, hlen, hx⟩ := write_finite h
    rw [← String.ofList_toList (s := plain.write x), htext, n.readFloat?_text hlen, hx]

end Sketchflow.Number
