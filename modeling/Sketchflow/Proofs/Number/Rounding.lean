import Mathlib.Algebra.Order.Field.Power
import Mathlib.Data.Rat.Cast.Order
import Mathlib.Tactic.FieldSimp
import Mathlib.Tactic.Linarith
import Mathlib.Tactic.Positivity
import Mathlib.Tactic.Ring
import Sketchflow.Number.Shortest

/-!
# Rounding to doubles

The double nearest to a quotient is found by scaling the quotient to the width of a mantissa and
rounding it there.

* `Normal` are the mantissas and exponents that a positive double is made of, `bitsOf` its bits.
* `Rounds` are the rationals nearest to such a double. Below a power of two the gap to the next
  double is half as wide, and an end of the interval belongs to the even mantissa.
* **`magnitudeBits_of_rounds`**: a quotient in that interval is rounded to that double.
-/

namespace Sketchflow.Number

/-! ## Mantissas and exponents -/

/-- The mantissas and exponents of positive doubles. -/
structure Normal (m : Nat) (e : Int) : Prop where
  pos : 0 < m
  lt : m < 2 ^ 53
  low : -1074 ≤ e
  high : e ≤ 971
  full : 2 ^ 52 ≤ m ∨ e = -1074

def bitsOf (m : Nat) (e : Int) : Nat :=
  if m < 2 ^ 52 then m else (e + 1075).toNat * 2 ^ 52 + (m - 2 ^ 52)

/-- Whether the gap below a double is half as wide as the one above it. -/
def Narrow (m : Nat) (e : Int) : Prop :=
  m = 2 ^ 52 ∧ -1074 < e

instance (m : Nat) (e : Int) : Decidable (Narrow m e) :=
  inferInstanceAs (Decidable (_ ∧ _))

/-- The least rational that may round to a double. -/
def lowerEnd (m : Nat) (e : Int) : ℚ :=
  (m - if Narrow m e then 1 / 4 else 1 / 2) * 2 ^ e

/-- The greatest rational that may round to a double. -/
def upperEnd (m : Nat) (e : Int) : ℚ :=
  (m + 1 / 2) * 2 ^ e

/-- The rationals that round to a double. -/
structure Rounds (m : Nat) (e : Int) (x : ℚ) : Prop where
  lower : lowerEnd m e ≤ x
  upper : x ≤ upperEnd m e
  inside : m % 2 = 1 → lowerEnd m e < x ∧ x < upperEnd m e

section

variable {m : Nat} {e : Int} {x : ℚ}

theorem two_zpow_pos (e : Int) : (0 : ℚ) < 2 ^ e := by positivity

theorem lowerEnd_pos (h : 0 < m) : 0 < lowerEnd m e := by
  have hm : (1 : ℚ) ≤ m := by exact_mod_cast h
  unfold lowerEnd
  refine mul_pos ?_ (two_zpow_pos e)
  split <;> linarith

theorem half_le_lowerEnd : ((m : ℚ) - 1 / 2) * 2 ^ e ≤ lowerEnd m e := by
  unfold lowerEnd
  refine mul_le_mul_of_nonneg_right ?_ (two_zpow_pos e).le
  split <;> linarith

theorem Rounds.pos (hr : Rounds m e x) (h : 0 < m) : 0 < x :=
  (lowerEnd_pos h).trans_le hr.lower

end

/-! ## Quotients of naturals -/

theorem two_eq (n : Nat) : two n = 2 ^ n := rfl

theorem ten_eq (n : Nat) : ten n = 10 ^ n := rfl

theorem two_zpow_toNat {e : Int} (h : 0 ≤ e) : (2 : ℚ) ^ e = (2 ^ e.toNat : Nat) := by
  obtain ⟨n, rfl⟩ := Int.eq_ofNat_of_zero_le h
  simp

theorem two_zpow_neg_toNat {e : Int} (h : e < 0) :
    (2 : ℚ) ^ e = ((2 ^ (-e).toNat : Nat) : ℚ)⁻¹ := by
  obtain ⟨n, hn⟩ := Int.eq_ofNat_of_zero_le (show 0 ≤ -e by omega)
  have he : e = -(n : Int) := by omega
  subst he
  simp

theorem scaleDown_pos {num den : Nat} (hden : 0 < den) (shift : Int) :
    0 < (scaleDown num den shift).2 := by
  unfold scaleDown
  split
  · exact Nat.mul_pos hden (Nat.two_pow_pos _)
  · exact hden

theorem scaleDown_ratio (num den : Nat) (shift : Int) :
    ((scaleDown num den shift).1 : ℚ) / (scaleDown num den shift).2 = num / den / 2 ^ shift := by
  unfold scaleDown
  split
  · rename_i h
    rw [two_zpow_toNat h]
    simp only [two_eq, Nat.cast_mul]
    rw [div_div]
  · rename_i h
    rw [two_zpow_neg_toNat (by omega)]
    simp only [two_eq, Nat.cast_mul]
    rw [div_inv_eq_mul, mul_div_right_comm]

theorem log2_bounds {num den : Nat} (hnum : 0 < num) (hden : 0 < den) :
    (2 : ℚ) ^ ((num.log2 : Int) - den.log2 - 1) < (num : ℚ) / den ∧
      (num : ℚ) / den < 2 ^ ((num.log2 : Int) - den.log2 + 1) := by
  have hn₁ : ((2 : ℚ) ^ (num.log2 : Int)) ≤ num := by
    exact_mod_cast Nat.log2_self_le hnum.ne'
  have hn₂ : (num : ℚ) < 2 ^ ((num.log2 : Int) + 1) := by
    exact_mod_cast Nat.lt_log2_self
  have hd₁ : ((2 : ℚ) ^ (den.log2 : Int)) ≤ den := by
    exact_mod_cast Nat.log2_self_le hden.ne'
  have hd₂ : (den : ℚ) < 2 ^ ((den.log2 : Int) + 1) := by
    exact_mod_cast Nat.lt_log2_self
  have hpos : (0 : ℚ) < den := by exact_mod_cast hden
  constructor
  · rw [lt_div_iff₀ hpos]
    calc (2 : ℚ) ^ ((num.log2 : Int) - den.log2 - 1) * den
        < 2 ^ ((num.log2 : Int) - den.log2 - 1) * 2 ^ ((den.log2 : Int) + 1) :=
          mul_lt_mul_of_pos_left hd₂ (two_zpow_pos _)
      _ = 2 ^ (num.log2 : Int) := by rw [← zpow_add₀ (by norm_num)]; congr 1; omega
      _ ≤ num := hn₁
  · rw [div_lt_iff₀ hpos]
    calc (num : ℚ) < 2 ^ ((num.log2 : Int) + 1) := hn₂
      _ = 2 ^ ((num.log2 : Int) - den.log2 + 1) * 2 ^ (den.log2 : Int) := by
          rw [← zpow_add₀ (by norm_num)]; congr 1; omega
      _ ≤ 2 ^ ((num.log2 : Int) - den.log2 + 1) * den :=
          mul_le_mul_of_nonneg_left hd₁ (two_zpow_pos _).le

theorem two_zpow_lt {a b : Int} (h : (2 : ℚ) ^ a < 2 ^ b) : a < b :=
  (zpow_lt_zpow_iff_right₀ (by norm_num)).mp h

theorem div_lt_iff_ratio {n d : Nat} (hd : 0 < d) (k : Nat) :
    n / d < 2 ^ k ↔ (n : ℚ) / d < 2 ^ k := by
  have hpos : (0 : ℚ) < d := by exact_mod_cast hd
  rw [Nat.div_lt_iff_lt_mul hd, div_lt_iff₀ hpos]
  exact_mod_cast Iff.rfl

/-! ## Finding the width -/

/-- The bits of a double whose mantissa is rounded after scaling. -/
def bitsScaled (num den : Nat) (shift : Int) : Nat :=
  let mantissa := roundDiv (scaleDown num den shift).1 (scaleDown num den shift).2
  if mantissa < two 52 then mantissa
  else min ((shift + 1075).toNat * two 52 + (mantissa - two 52)) (2047 * two 52)

/-- A quotient is scaled so that it has the width of a mantissa, or to the least exponent. -/
theorem magnitudeBits_eq {num den : Nat} (hnum : 0 < num) (hden : 0 < den) {shift : Int}
    (hlow : -1074 ≤ shift) (hlt : (num : ℚ) / den < 2 ^ (53 + shift))
    (hfull : (2 : ℚ) ^ (52 + shift) ≤ num / den ∨ shift = -1074) :
    magnitudeBits num den = bitsScaled num den shift := by
  obtain ⟨hlo, hhi⟩ := log2_bounds hnum hden
  have hfits : ∀ low : Int, (scaleDown num den low).1 / (scaleDown num den low).2 < two 53 ↔
      (num : ℚ) / den < 2 ^ (53 + low) := by
    intro low
    rw [two_eq, div_lt_iff_ratio (scaleDown_pos hden low), scaleDown_ratio,
      div_lt_iff₀ (two_zpow_pos low), zpow_add₀ (by norm_num)]
    exact_mod_cast Iff.rfl
  have hshift : (if (scaleDown num den (max ((num.log2 : Int) - den.log2 - 53) (-1074))).1 /
      (scaleDown num den (max ((num.log2 : Int) - den.log2 - 53) (-1074))).2 < two 53
      then max ((num.log2 : Int) - den.log2 - 53) (-1074)
      else max ((num.log2 : Int) - den.log2 - 53) (-1074) + 1) = shift := by
    simp only [hfits]
    have hmax : max ((num.log2 : Int) - den.log2 - 53) (-1074) = (num.log2 : Int) - den.log2 - 53 ∨
        max ((num.log2 : Int) - den.log2 - 53) (-1074) = -1074 := by omega
    have hge : (num.log2 : Int) - den.log2 - 53 ≤
        max ((num.log2 : Int) - den.log2 - 53) (-1074) := le_max_left ..
    have hge' : -1074 ≤ max ((num.log2 : Int) - den.log2 - 53) (-1074) := le_max_right ..
    generalize max ((num.log2 : Int) - den.log2 - 53) (-1074) = low at *
    split
    · rename_i hx
      -- The quotient has at most the width of a mantissa at `low`.
      have hupper : shift ≤ low ∨ shift = -1074 :=
        hfull.imp (fun h => by have := two_zpow_lt (h.trans_lt hx); omega) id
      have hlower : low ≤ shift ∨ low = -1074 :=
        hmax.imp (fun h => by have := two_zpow_lt (hlo.trans hlt); omega) id
      omega
    · rename_i hx
      have hx := not_lt.mp hx
      have hlower : low < shift := by
        have := two_zpow_lt (hx.trans_lt hlt)
        omega
      have hupper : shift ≤ low + 1 ∨ shift = -1074 :=
        hfull.imp (fun h => by have := two_zpow_lt (h.trans_lt hhi); omega) id
      omega
  unfold magnitudeBits
  simp only [hshift, bitsScaled]

/-! ## Rounding at that width -/

/-- A quotient within half of a natural is rounded to it; at a half the natural has to be even. -/
theorem roundDiv_eq {n d m : Nat} (hd : 0 < d) (hlower : 2 * (m * d) ≤ 2 * n + d)
    (hupper : 2 * n ≤ 2 * (m * d) + d)
    (hodd : m % 2 = 1 → 2 * (m * d) < 2 * n + d ∧ 2 * n < 2 * (m * d) + d) :
    roundDiv n d = m := by
  have hn : d * (n / d) + n % d = n := Nat.div_add_mod n d
  have hr : n % d < d := Nat.mod_lt n hd
  unfold roundDiv
  simp only
  generalize n / d = q at *
  generalize n % d = r at *
  have hq : q ≤ m := by
    refine Nat.le_of_not_lt fun hlt => ?_
    have : d * (m + 1) ≤ d * q := Nat.mul_le_mul_left d hlt
    rw [Nat.mul_add, Nat.mul_comm d m] at this
    omega
  have hm : m ≤ q + 1 := by
    refine Nat.le_of_not_lt fun hlt => ?_
    have : d * (q + 2) ≤ d * m := Nat.mul_le_mul_left d hlt
    rw [Nat.mul_add, Nat.mul_comm d m] at this
    omega
  rcases Nat.eq_or_lt_of_le hq with rfl | hlt
  · rw [Nat.mul_comm] at hn
    split
    · rfl
    · split
      · omega
      · omega
  · obtain rfl : m = q + 1 := by omega
    have hprod : (q + 1) * d = d * q + d := by ring
    rw [hprod] at hlower hupper hodd
    split
    · omega
    · split
      · rfl
      · omega

theorem roundDiv_of_ratio {n d m : Nat} (hd : 0 < d) (hlower : (m : ℚ) - 1 / 2 ≤ n / d)
    (hupper : (n : ℚ) / d ≤ m + 1 / 2)
    (hodd : m % 2 = 1 → (m : ℚ) - 1 / 2 < n / d ∧ (n : ℚ) / d < m + 1 / 2) :
    roundDiv n d = m := by
  have hpos : (0 : ℚ) < d := by exact_mod_cast hd
  rw [le_div_iff₀ hpos] at hlower
  rw [div_le_iff₀ hpos] at hupper
  refine roundDiv_eq hd ?_ ?_ fun h => ?_
  · have : (2 * (m * d) : ℚ) ≤ 2 * n + d := by linarith
    exact_mod_cast this
  · have : (2 * n : ℚ) ≤ 2 * (m * d) + d := by linarith
    exact_mod_cast this
  · obtain ⟨h₁, h₂⟩ := hodd h
    rw [lt_div_iff₀ hpos] at h₁
    rw [div_lt_iff₀ hpos] at h₂
    have h₁' : (2 * (m * d) : ℚ) < 2 * n + d := by linarith
    have h₂' : (2 * n : ℚ) < 2 * (m * d) + d := by linarith
    exact ⟨by exact_mod_cast h₁', by exact_mod_cast h₂'⟩

theorem bitsScaled_of_mantissa {num den m : Nat} {e : Int} (h : Normal m e)
    (hm : roundDiv (scaleDown num den e).1 (scaleDown num den e).2 = m) :
    bitsScaled num den e = bitsOf m e := by
  have hlt := h.lt
  have hlow := h.low
  have hhigh := h.high
  simp only [bitsScaled, hm, bitsOf, two_eq]
  split
  · rfl
  · have : (e + 1075).toNat ≤ 2046 := by omega
    omega

/-- **A quotient is rounded to the double whose interval it lies in.** -/
theorem magnitudeBits_of_rounds {m num den : Nat} {e : Int} (h : Normal m e) (hden : 0 < den)
    (hr : Rounds m e (num / den)) : magnitudeBits num den = bitsOf m e := by
  have hx := hr.pos h.pos
  have hnum : 0 < num := by
    refine Nat.pos_of_ne_zero fun h0 => ?_
    rw [h0] at hx
    simp at hx
  have he := two_zpow_pos e
  have hmlt : (m : ℚ) + 1 ≤ 2 ^ 53 := by exact_mod_cast h.lt
  by_cases hfull : (2 : ℚ) ^ (52 + e) ≤ num / den ∨ e = -1074
  · -- The quotient has the width of the mantissa.
    have hlt : (num : ℚ) / den < 2 ^ (53 + e) := by
      calc (num : ℚ) / den ≤ (m + 1 / 2) * 2 ^ e := hr.upper
        _ < 2 ^ 53 * 2 ^ e := mul_lt_mul_of_pos_right (by linarith) he
        _ = 2 ^ (53 + e) := by rw [zpow_add₀ (by norm_num)]; norm_num
    rw [magnitudeBits_eq hnum hden h.low hlt hfull]
    refine bitsScaled_of_mantissa h (roundDiv_of_ratio (scaleDown_pos hden e) ?_ ?_ fun hodd => ?_)
    · rw [scaleDown_ratio, le_div_iff₀ he]
      exact half_le_lowerEnd.trans hr.lower
    · rw [scaleDown_ratio, div_le_iff₀ he]
      exact hr.upper
    · rw [scaleDown_ratio, lt_div_iff₀ he, div_lt_iff₀ he]
      exact ⟨half_le_lowerEnd.trans_lt (hr.inside hodd).1, (hr.inside hodd).2⟩
  · -- The quotient is just below a power of two, and is rounded up to it.
    push Not at hfull
    obtain ⟨hbelow, hne⟩ := hfull
    have hpow : (2 : ℚ) ^ (52 + e) = 2 ^ 52 * 2 ^ e := by
      rw [zpow_add₀ (by norm_num)]
      norm_num
    have hm : m = 2 ^ 52 := by
      have hge := h.full.resolve_right hne
      have hle : ((m : ℚ) - 1 / 2) * 2 ^ e < 2 ^ 52 * 2 ^ e :=
        (half_le_lowerEnd.trans hr.lower).trans_lt (hpow ▸ hbelow)
      have hle := lt_of_mul_lt_mul_right hle he.le
      have : (m : ℚ) < 2 ^ 52 + 1 := by linarith
      have : m < 2 ^ 52 + 1 := by exact_mod_cast this
      omega
    have hnarrow : Narrow m e := ⟨hm, by have := h.low; omega⟩
    have hlow := hnarrow.2
    have hhalf : (2 : ℚ) ^ (e - 1) = 2 ^ e / 2 := zpow_sub_one₀ (by norm_num) e
    have he' := two_zpow_pos (e - 1)
    have hlower : ((2 : ℚ) ^ 53 - 1 / 2) * 2 ^ (e - 1) ≤ num / den := by
      have := hr.lower
      rw [lowerEnd, if_pos hnarrow, hm] at this
      rw [hhalf]
      push_cast at this
      linarith
    have hlt : (num : ℚ) / den < 2 ^ (53 + (e - 1)) := by
      rw [show 53 + (e - 1) = 52 + e by ring]
      exact hbelow
    have hge : (2 : ℚ) ^ (52 + (e - 1)) ≤ num / den := by
      refine le_trans ?_ hlower
      rw [zpow_add₀ (by norm_num)]
      refine mul_le_mul_of_nonneg_right ?_ he'.le
      norm_num
    rw [magnitudeBits_eq hnum hden (by omega) hlt (.inl hge)]
    have hround : roundDiv (scaleDown num den (e - 1)).1 (scaleDown num den (e - 1)).2 =
        2 ^ 53 := by
      refine roundDiv_of_ratio (scaleDown_pos hden _) ?_ ?_ fun hodd => ?_
      · rw [scaleDown_ratio, le_div_iff₀ he']
        push_cast
        exact hlower
      · rw [scaleDown_ratio, div_le_iff₀ he']
        push_cast
        rw [zpow_add₀ (by norm_num)] at hlt
        have hlt' : (num : ℚ) / den < 2 ^ 53 * 2 ^ (e - 1) := by exact_mod_cast hlt
        linarith
      · exact absurd hodd (by norm_num)
    simp only [bitsScaled, hround, bitsOf, two_eq, hm]
    have hhigh := h.high
    have : (e - 1 + 1075).toNat + 1 = (e + 1075).toNat := by omega
    rw [if_neg (by omega), if_neg (by omega), ← this]
    omega

end Sketchflow.Number
