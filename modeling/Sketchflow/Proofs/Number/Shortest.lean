import Sketchflow.Proofs.Number.Rounding

/-!
# The decimals that are found

A double is written with the fewest digits that read back as it. Grid after grid of decimals is
looked at, and the two neighbours of the double on each.

* `holds_iff`: the intervals in which decimals are looked for are those of `Rounds`.
* `decimalExponent_spec`: the first grid is that of the double's own power of ten.
* `onGrid_eighteen`: on the grid of eighteen digits a neighbour is in the interval, so the search
  ends.
* **`shortest_rounds`**: the decimal that is written rounds to the double.
-/

namespace Sketchflow.Number

variable {top : Int} {i : Interval}

def Decimal.value (d : Decimal) : ℚ :=
  d.digits * 10 ^ d.exponent

theorem ten_zpow_pos (k : Int) : (0 : ℚ) < 10 ^ k := by positivity

/-! ## Powers as quotients -/

theorem zpow_eq_ratio (b : Nat) (hb : 0 < b) (k : Int) :
    (b : ℚ) ^ k =
      ((if 0 ≤ k then b ^ k.toNat else 1 : Nat) : ℚ) /
        (if 0 ≤ k then 1 else b ^ (-k).toNat : Nat) := by
  have hb' : (b : ℚ) ≠ 0 := by exact_mod_cast hb.ne'
  split
  · rename_i h
    obtain ⟨n, rfl⟩ := Int.eq_ofNat_of_zero_le h
    simp
  · obtain ⟨n, hn⟩ := Int.eq_ofNat_of_zero_le (show 0 ≤ -k by omega)
    obtain rfl : k = -(n : Int) := by omega
    simp

section

variable {m : Nat} {e : Int}

theorem around_denominator_pos : 0 < (Interval.around m e).denominator := by
  unfold Interval.around
  simp only [two_eq]
  split <;> positivity

theorem around_value_pos (hm : 0 < m) : 0 < (Interval.around m e).value := by
  unfold Interval.around
  simp only [two_eq]
  split <;> positivity

theorem around_ratio (a : Nat) :
    ((a * (if 0 ≤ e then two e.toNat else 1) : Nat) : ℚ) / (Interval.around m e).denominator =
      a / 4 * 2 ^ e := by
  have h := zpow_eq_ratio 2 (by norm_num) e
  push_cast at h
  simp only [Interval.around, two_eq]
  rw [h]
  push_cast
  rw [mul_div_mul_comm]

theorem around_value :
    ((Interval.around m e).value : ℚ) / (Interval.around m e).denominator = m * 2 ^ e := by
  have h := around_ratio (m := m) (e := e) (4 * m)
  rw [show (Interval.around m e).value = 4 * m * (if 0 ≤ e then two e.toNat else 1) from rfl, h]
  push_cast
  ring

theorem around_upper :
    ((Interval.around m e).upper : ℚ) / (Interval.around m e).denominator = upperEnd m e := by
  have h := around_ratio (m := m) (e := e) (4 * m + 2)
  rw [show (Interval.around m e).upper = (4 * m + 2) * (if 0 ≤ e then two e.toNat else 1) from rfl,
    h, upperEnd]
  push_cast
  ring

theorem around_lower (hm : 0 < m) :
    ((Interval.around m e).lower : ℚ) / (Interval.around m e).denominator = lowerEnd m e := by
  have hnarrow : (m == two 52 && decide (-1074 < e)) = decide (Narrow m e) := by
    rw [Bool.eq_iff_iff, decide_eq_true_iff, Bool.and_eq_true, beq_iff_eq, decide_eq_true_iff]
    exact Iff.rfl
  have h := fun a => around_ratio (m := m) (e := e) a
  unfold lowerEnd
  rw [show (Interval.around m e).lower = (if (m == two 52 && decide (-1074 < e)) = true
      then 4 * m - 1 else 4 * m - 2) * (if 0 ≤ e then two e.toNat else 1) from rfl, h, hnarrow]
  simp only [decide_eq_true_eq]
  split
  · rw [Nat.cast_sub (by omega)]
    push_cast
    ring
  · rw [Nat.cast_sub (by omega)]
    push_cast
    ring

theorem holds_iff (hm : 0 < m) {n den : Nat} (hden : 0 < den) :
    (Interval.around m e).holds n den = true ↔ Rounds m e ((n : ℚ) / den) := by
  have hpos : (0 : ℚ) < den := by exact_mod_cast hden
  have hpos' : (0 : ℚ) < (Interval.around m e).denominator := by
    exact_mod_cast around_denominator_pos
  have hclosed : (Interval.around m e).closed = (m % 2 == 0) := rfl
  unfold Interval.holds
  rw [hclosed]
  -- Both comparisons are those of the quotients, multiplied out.
  have hle₁ : lowerEnd m e ≤ (n : ℚ) / den ↔
      (Interval.around m e).lower * den ≤ n * (Interval.around m e).denominator := by
    rw [← around_lower hm, div_le_div_iff₀ hpos' hpos]
    exact_mod_cast Iff.rfl
  have hle₂ : (n : ℚ) / den ≤ upperEnd m e ↔
      n * (Interval.around m e).denominator ≤ (Interval.around m e).upper * den := by
    rw [← around_upper, div_le_div_iff₀ hpos hpos']
    exact_mod_cast Iff.rfl
  have hlt₁ : lowerEnd m e < (n : ℚ) / den ↔
      (Interval.around m e).lower * den < n * (Interval.around m e).denominator := by
    rw [← around_lower hm, div_lt_div_iff₀ hpos' hpos]
    exact_mod_cast Iff.rfl
  have hlt₂ : (n : ℚ) / den < upperEnd m e ↔
      n * (Interval.around m e).denominator < (Interval.around m e).upper * den := by
    rw [← around_upper, div_lt_div_iff₀ hpos hpos']
    exact_mod_cast Iff.rfl
  rcases Nat.mod_two_eq_zero_or_one m with heven | hodd
  · simp only [heven, beq_self_eq_true, if_true, Bool.and_eq_true, decide_eq_true_eq,
      ← hle₁, ← hle₂]
    exact ⟨fun h => ⟨h.1, h.2, fun h' => by omega⟩, fun h => ⟨h.lower, h.upper⟩⟩
  · simp only [hodd, show ((1 : Nat) == 0) = false from rfl, Bool.false_eq_true, if_false,
      Bool.and_eq_true, decide_eq_true_eq, ← hlt₁, ← hlt₂]
    exact ⟨fun h => ⟨h.1.le, h.2.le, fun _ => h⟩, fun h => h.inside hodd⟩

end

/-! ## The power of ten of a quotient -/

/-- The guess that a search for the power of ten starts from. -/
def guessOf (k : Int) : Int :=
  k * 30103 / 100000 - 1

/-- The powers of two up to `2 ^ j` and `2 ^ -j` against the powers of ten that are guessed. -/
def guessFits (j : Nat) : Bool :=
  let up := j * 30103 / 100000
  let down := (j * 30103 + 99999) / 100000
  10 ^ up * 2 ≤ 2 ^ j * 10 && 2 ^ j * 2 ≤ 10 ^ up * 1000 &&
    2 ^ j * 2 ≤ 10 ^ down * 10 && 10 ^ down * 2 ≤ 2 ^ j * 1000

theorem guessFits_table : (List.range 1101).all guessFits = true := by
  decide +kernel

theorem up_bounds {j q : Nat} (h₁ : 10 ^ q * 2 ≤ 2 ^ j * 10) (h₂ : 2 ^ j * 2 ≤ 10 ^ q * 1000) :
    (10 : ℚ) ^ ((q : Int) - 1) ≤ 2 ^ ((j : Int) - 1) ∧
      (2 : ℚ) ^ ((j : Int) + 1) ≤ 10 ^ ((q : Int) - 1 + 4) := by
  have h₁ : (10 : ℚ) ^ q * 2 ≤ 2 ^ j * 10 := by exact_mod_cast h₁
  have h₂ : (2 : ℚ) ^ j * 2 ≤ 10 ^ q * 1000 := by exact_mod_cast h₂
  rw [zpow_sub_one₀ (by norm_num), zpow_sub_one₀ (by norm_num), zpow_add_one₀ (by norm_num),
    show (q : Int) - 1 + 4 = q + 3 by ring, zpow_add₀ (by norm_num)]
  simp only [zpow_natCast]
  constructor
  · linarith
  · norm_num
    linarith

theorem down_bounds {j q : Nat} (h₁ : 2 ^ j * 2 ≤ 10 ^ q * 10) (h₂ : 10 ^ q * 2 ≤ 2 ^ j * 1000) :
    (10 : ℚ) ^ (-(q : Int) - 1) ≤ 2 ^ (-(j : Int) - 1) ∧
      (2 : ℚ) ^ (-(j : Int) + 1) ≤ 10 ^ (-(q : Int) - 1 + 4) := by
  have h₁ : (2 : ℚ) ^ j * 2 ≤ 10 ^ q * 10 := by exact_mod_cast h₁
  have h₂ : (10 : ℚ) ^ q * 2 ≤ 2 ^ j * 1000 := by exact_mod_cast h₂
  rw [zpow_sub_one₀ (by norm_num), zpow_sub_one₀ (by norm_num), zpow_add_one₀ (by norm_num),
    show -(q : Int) - 1 + 4 = -q + 3 by ring, zpow_add₀ (by norm_num)]
  simp only [zpow_neg, zpow_natCast]
  constructor
  · rw [← mul_inv, ← mul_inv]
    exact inv_anti₀ (by positivity) h₁
  · rw [inv_mul_eq_div, inv_mul_eq_div, div_le_div_iff₀ (by positivity) (by positivity)]
    norm_num
    linarith

theorem guess_bounds {k : Int} (h : -1100 ≤ k ∧ k ≤ 1100) :
    (10 : ℚ) ^ guessOf k ≤ 2 ^ (k - 1) ∧ (2 : ℚ) ^ (k + 1) ≤ 10 ^ (guessOf k + 4) := by
  have hfits := List.all_eq_true.mp guessFits_table k.natAbs (List.mem_range.mpr (by omega))
  simp only [guessFits, Bool.and_eq_true, decide_eq_true_eq] at hfits
  obtain ⟨⟨⟨hup₁, hup₂⟩, hdown₁⟩, hdown₂⟩ := hfits
  rcases Int.le_total 0 k with hk | hk
  · have hq : guessOf k = ((k.natAbs * 30103 / 100000 : Nat) : Int) - 1 := by
      unfold guessOf
      omega
    have hbounds := up_bounds hup₁ hup₂
    rwa [← hq, Int.natAbs_of_nonneg hk] at hbounds
  · have hq : guessOf k = -((k.natAbs * 30103 + 99999) / 100000 : Nat) - 1 := by
      unfold guessOf
      omega
    have hbounds := down_bounds hdown₁ hdown₂
    rwa [← hq, Int.ofNat_natAbs_of_nonpos hk, neg_neg] at hbounds

/-- Whether a quotient is at least a power of ten. -/
def isAtLeast (num den : Nat) (k : Int) : Bool :=
  if 0 ≤ k then den * ten k.toNat ≤ num else den ≤ num * ten (-k).toNat

theorem isAtLeast_iff {num den : Nat} (hden : 0 < den) (k : Int) :
    isAtLeast num den k = true ↔ (10 : ℚ) ^ k ≤ num / den := by
  have hpos : (0 : ℚ) < den := by exact_mod_cast hden
  have hk := zpow_eq_ratio 10 (by norm_num) k
  push_cast at hk
  rw [hk, isAtLeast]
  split
  · rw [decide_eq_true_iff, ten_eq, div_le_div_iff₀ one_pos hpos, mul_comm den, mul_one]
    exact_mod_cast Iff.rfl
  · rw [decide_eq_true_iff, ten_eq, div_le_div_iff₀ (by positivity) hpos, one_mul]
    exact_mod_cast Iff.rfl

theorem decimalExponent_eq (num den : Nat) :
    decimalExponent num den =
      let guess := guessOf ((num.log2 : Int) - den.log2)
      if isAtLeast num den (guess + 3) then guess + 3
      else if isAtLeast num den (guess + 2) then guess + 2
      else if isAtLeast num den (guess + 1) then guess + 1
      else guess := rfl

/-- The power of ten that is found is the greatest one that is not above the quotient. -/
theorem decimalExponent_spec {num den : Nat} (hnum : 0 < num) (hden : 0 < den)
    (hk : -1100 ≤ (num.log2 : Int) - den.log2 ∧ (num.log2 : Int) - den.log2 ≤ 1100) :
    (10 : ℚ) ^ decimalExponent num den ≤ num / den ∧
      (num : ℚ) / den < 10 ^ (decimalExponent num den + 1) := by
  obtain ⟨hlo, hhi⟩ := log2_bounds hnum hden
  obtain ⟨hg₁, hg₂⟩ := guess_bounds hk
  have hbelow := hg₁.trans hlo.le
  have habove := hhi.trans_le hg₂
  rw [decimalExponent_eq]
  simp only [isAtLeast_iff hden]
  generalize guessOf ((num.log2 : Int) - den.log2) = guess at *
  split
  · exact ⟨‹_›, by rwa [add_assoc]⟩
  · split
    · exact ⟨‹_›, by rw [add_assoc]; exact not_le.mp ‹_›⟩
    · split
      · exact ⟨‹_›, by rw [add_assoc]; exact not_le.mp ‹_›⟩
      · exact ⟨hbelow, not_le.mp ‹_›⟩

/-! ## Hits on a grid -/

def gridUp (unit : Int) : Nat :=
  if 0 ≤ unit then ten unit.toNat else 1

def gridDown (unit : Int) : Nat :=
  if 0 ≤ unit then 1 else ten (-unit).toNat

/-- The neighbour below the double on the grid of a unit. -/
def gridBelow (i : Interval) (unit : Int) : Nat :=
  i.value * gridDown unit / (i.denominator * gridUp unit)

/-- Whether a multiple of a unit lies in the interval. -/
def gridFits (i : Interval) (unit : Int) (n : Nat) : Bool :=
  i.holds (n * gridUp unit) (gridDown unit)

theorem gridUp_pos (unit : Int) : 0 < gridUp unit := by
  unfold gridUp
  split <;> simp [ten_eq]

theorem gridDown_pos (unit : Int) : 0 < gridDown unit := by
  unfold gridDown
  split <;> simp [ten_eq]

theorem ten_zpow_eq (unit : Int) : (10 : ℚ) ^ unit = gridUp unit / gridDown unit := by
  exact_mod_cast zpow_eq_ratio 10 (by norm_num) unit

theorem onGrid_eq (i : Interval) (top : Int) (count : Nat) :
    onGrid i top count =
      let unit := top + 1 - (count : Int)
      let below := gridBelow i unit
      let target := 2 * (i.value * gridDown unit)
      let middle := (below + (below + 1)) * (i.denominator * gridUp unit)
      match gridFits i unit below, gridFits i unit (below + 1) with
      | true, true =>
        if target < middle then some ⟨below, unit⟩
        else if middle < target then some ⟨below + 1, unit⟩
        else some ⟨below + below % 2, unit⟩
      | true, false => some ⟨below, unit⟩
      | false, true => some ⟨below + 1, unit⟩
      | false, false => none := rfl

theorem onGrid_some {count : Nat} {d : Decimal} (h : onGrid i top count = some d) :
    d.exponent = top + 1 - count ∧ gridFits i d.exponent d.digits = true ∧
      d.digits ≤ gridBelow i d.exponent + 1 := by
  rw [onGrid_eq] at h
  generalize top + 1 - (count : Int) = unit at *
  simp only at h
  split at h
  · rename_i hbelow habove
    split at h
    · cases h
      exact ⟨rfl, hbelow, Nat.le_succ _⟩
    · split at h
      · cases h
        exact ⟨rfl, habove, Nat.le_refl _⟩
      · cases h
        rcases Nat.mod_two_eq_zero_or_one (gridBelow i unit) with hmod | hmod
        · simp only [hmod, Nat.add_zero]
          exact ⟨trivial, hbelow, Nat.le_succ _⟩
        · simp only [hmod]
          exact ⟨trivial, habove, Nat.le_refl _⟩
  · rename_i hbelow _
    cases h
    exact ⟨rfl, hbelow, Nat.le_succ _⟩
  · rename_i _ habove
    cases h
    exact ⟨rfl, habove, Nat.le_refl _⟩
  · cases h

theorem onGrid_ne_none {count : Nat}
    (h : gridFits i (top + 1 - count) (gridBelow i (top + 1 - count) + 1) = true) :
    onGrid i top count ≠ none := by
  rw [onGrid_eq]
  simp only [h]
  split <;> (try split) <;> (try split) <;> simp_all

section

variable {m : Nat} {e : Int}

theorem gridFits_iff (hm : 0 < m) (unit : Int) (n : Nat) :
    gridFits (.around m e) unit n = true ↔ Rounds m e (n * 10 ^ unit) := by
  rw [gridFits, holds_iff hm (gridDown_pos unit), ten_zpow_eq, Nat.cast_mul, mul_div_assoc]

theorem gridBelow_bounds (unit : Int) :
    (gridBelow (.around m e) unit : ℚ) * 10 ^ unit ≤ m * 2 ^ e ∧
      (m : ℚ) * 2 ^ e < (gridBelow (.around m e) unit + 1 : Nat) * 10 ^ unit := by
  have hup := gridUp_pos unit
  have hden := around_denominator_pos (m := m) (e := e)
  rw [ten_zpow_eq, ← around_value]
  unfold gridBelow
  generalize gridUp unit = up at *
  generalize (Interval.around m e).value = v
  generalize (Interval.around m e).denominator = d at *
  have hd : (0 : ℚ) < d := by exact_mod_cast hden
  have hdown : (0 : ℚ) < gridDown unit := by exact_mod_cast gridDown_pos unit
  generalize gridDown unit = down at *
  have hfloor : ((v * down / (d * up) : Nat) : ℚ) * (d * up) ≤ v * down := by
    exact_mod_cast Nat.div_mul_le_self (v * down) (d * up)
  have hceil : (v * down : ℚ) < ((v * down / (d * up) + 1 : Nat) : ℚ) * (d * up) := by
    exact_mod_cast Nat.lt_mul_of_div_lt (Nat.lt_succ_self _) (Nat.mul_pos hden hup)
  constructor
  · rw [mul_div_assoc', div_le_div_iff₀ hdown hd]
    linarith
  · rw [mul_div_assoc', div_lt_div_iff₀ hd hdown]
    linarith

theorem lowerEnd_lt_value : lowerEnd m e < m * 2 ^ e := by
  unfold lowerEnd
  refine mul_lt_mul_of_pos_right ?_ (two_zpow_pos e)
  split <;> linarith

/-- **On the grid of eighteen digits the upper neighbour is in the interval.** -/
theorem onGrid_eighteen (h : Normal m e) (htop : (10 : ℚ) ^ top ≤ m * 2 ^ e) :
    onGrid (.around m e) top 18 ≠ none := by
  refine onGrid_ne_none ((gridFits_iff h.pos _ _).mpr ?_)
  have hunit : top + 1 - ((18 : Nat) : Int) = top - 17 := by omega
  rw [hunit]
  obtain ⟨hbelow, habove⟩ := gridBelow_bounds (m := m) (e := e) (top - 17)
  push_cast at habove ⊢
  have hmlt : (m : ℚ) < 2 ^ 53 := by exact_mod_cast h.lt
  -- A step of this grid is less than half of the double's last place.
  have hstep : (10 : ℚ) ^ (top - 17) < 1 / 2 * 2 ^ e := by
    calc (10 : ℚ) ^ (top - 17) = 10 ^ top / 10 ^ 17 := by
          rw [zpow_sub₀ (by norm_num)]
          norm_cast
      _ ≤ m * 2 ^ e / 10 ^ 17 := div_le_div_of_nonneg_right htop (by norm_num)
      _ < 2 ^ 53 * 2 ^ e / 10 ^ 17 :=
          div_lt_div_of_pos_right (mul_lt_mul_of_pos_right hmlt (two_zpow_pos e)) (by norm_num)
      _ ≤ 1 / 2 * 2 ^ e := by
          have := two_zpow_pos e
          linarith
  have hlower := lowerEnd_lt_value.trans habove
  have hupper :
      ((gridBelow (.around m e) (top - 17) : ℚ) + 1) * 10 ^ (top - 17) < upperEnd m e := by
    unfold upperEnd
    linarith
  exact ⟨hlower.le, hupper.le, fun _ => ⟨hlower, hupper⟩⟩

end

/-! ## The search -/

theorem firstHit_spec (fuel count : Nat) (hlast : onGrid i top (count + fuel) ≠ none) :
    ∃ count', count ≤ count' ∧ count' ≤ count + fuel ∧
      onGrid i top count' = some (firstHit i top fuel count) := by
  induction fuel generalizing count with
  | zero =>
    obtain ⟨d, hd⟩ := Option.ne_none_iff_exists'.mp hlast
    rw [Nat.add_zero] at hd
    exact ⟨count, Nat.le_refl _, Nat.le_refl _, by rw [firstHit, hd, Option.getD_some]⟩
  | succ fuel ih =>
    rw [firstHit]
    split
    · rename_i d hd
      exact ⟨count, Nat.le_refl _, by omega, hd⟩
    · obtain ⟨count', h₁, h₂, h₃⟩ := ih (count + 1) (by rwa [Nat.add_right_comm])
      exact ⟨count', by omega, by omega, h₃⟩

theorem trimZeros_spec (fuel : Nat) (d : Decimal) :
    (d.trimZeros fuel).value = d.value ∧ (d.trimZeros fuel).digits ≤ d.digits := by
  induction fuel generalizing d with
  | zero => exact ⟨rfl, Nat.le_refl _⟩
  | succ fuel ih =>
    rw [Decimal.trimZeros]
    split
    · rename_i h
      obtain ⟨hvalue, hdigits⟩ := ih ⟨d.digits / 10, d.exponent + 1⟩
      simp only [Bool.and_eq_true, beq_iff_eq] at h
      refine ⟨hvalue.trans ?_, hdigits.trans (Nat.div_le_self _ _)⟩
      have hten : (d.digits : ℚ) = (d.digits / 10 : Nat) * 10 := by
        exact_mod_cast (Nat.div_mul_cancel (Nat.dvd_of_mod_eq_zero h.1)).symm
      rw [Decimal.value, Decimal.value, hten, zpow_add_one₀ (by norm_num)]
      ring
    · exact ⟨rfl, Nat.le_refl _⟩

theorem around_log2 {m : Nat} {e : Int} (h : Normal m e) :
    -1100 ≤ ((Interval.around m e).value.log2 : Int) - (Interval.around m e).denominator.log2 ∧
      ((Interval.around m e).value.log2 : Int) - (Interval.around m e).denominator.log2 ≤ 1100 := by
  obtain ⟨hlo, hhi⟩ := log2_bounds (around_value_pos (e := e) h.pos) around_denominator_pos
  rw [around_value] at hlo hhi
  have hle : (2 : ℚ) ^ e ≤ m * 2 ^ e :=
    le_mul_of_one_le_left (two_zpow_pos e).le (by exact_mod_cast h.pos)
  have hge : (m : ℚ) * 2 ^ e < 2 ^ (53 + e) := by
    rw [zpow_add₀ (by norm_num)]
    exact mul_lt_mul_of_pos_right (by exact_mod_cast h.lt) (two_zpow_pos e)
  have h₁ := two_zpow_lt (hle.trans_lt hhi)
  have h₂ := two_zpow_lt (hlo.trans hge)
  have hlow := h.low
  have hhigh := h.high
  omega

/-- **The decimal that a double is written as rounds to it**, and it has at most eighteen digits. -/
theorem shortest_rounds {m : Nat} {e : Int} (h : Normal m e) :
    Rounds m e (shortest m e).value ∧ (shortest m e).digits ≤ 10 ^ 18 := by
  obtain ⟨hlo, hhi⟩ :=
    decimalExponent_spec (around_value_pos h.pos) around_denominator_pos (around_log2 h)
  rw [around_value] at hlo hhi
  unfold shortest
  simp only
  generalize decimalExponent _ _ = top at *
  obtain ⟨count, -, hcount, hhit⟩ := firstHit_spec 17 1 (onGrid_eighteen h hlo)
  generalize firstHit _ top 17 1 = d at *
  obtain ⟨hexp, hfits, hdigits⟩ := onGrid_some hhit
  obtain ⟨hvalue, htrim⟩ := trimZeros_spec 18 d
  rw [hvalue]
  refine ⟨(gridFits_iff h.pos _ _).mp hfits, htrim.trans (hdigits.trans ?_)⟩
  -- The neighbour below has no more digits than the grid.
  have hbelow := (gridBelow_bounds (m := m) (e := e) d.exponent).1
  have hlt : (gridBelow (.around m e) d.exponent : ℚ) < 10 ^ count := by
    refine lt_of_mul_lt_mul_right ?_ (ten_zpow_pos d.exponent).le
    calc (gridBelow (.around m e) d.exponent : ℚ) * 10 ^ d.exponent ≤ m * 2 ^ e := hbelow
      _ < 10 ^ (top + 1) := hhi
      _ = 10 ^ count * 10 ^ d.exponent := by
          rw [hexp, ← zpow_natCast, ← zpow_add₀ (by norm_num)]
          congr 1
          omega
  have hlt' : gridBelow (.around m e) d.exponent < 10 ^ count := by exact_mod_cast hlt
  exact hlt'.trans_le (Nat.pow_le_pow_right (by norm_num) hcount)

end Sketchflow.Number
