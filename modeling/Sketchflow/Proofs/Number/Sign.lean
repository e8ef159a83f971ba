import Sketchflow.Proofs.Number.Reading

/-!
# Signs of doubles

Changing the sign of a double changes its sign bit and nothing else.

* **`neg_ofMagnitude`**: the double with the sign bit set is the negative of the one without.
* `neg_toFloat`: so a numeral with a minus sign is the negative of the numeral.
* `isFinite_iff`: the finite doubles are those with a mantissa and an exponent.
* `isInf_ofInt`: an integer that is not huge has a finite double.
-/

namespace Sketchflow.Number

open Float.Model

/-! ## The sign bit -/

section

variable {a b : BitVec Format.binary64.numBits}

theorem unpack_pack_unpack (a : BitVec Format.binary64.numBits) :
    UnpackedFloat.unpack .binary64 (UnpackedFloat.pack .binary64 (UnpackedFloat.unpack .binary64 a)) =
      UnpackedFloat.unpack .binary64 a := by
  rw [UnpackedFloat.pack_unpack a]
  split
  · rename_i hnan
    simp only [UnpackedFloat.isNaNBits, decide_eq_true_eq] at hnan
    rw [UnpackedFloat.unpack_packedNaN]
    simp [UnpackedFloat.unpack, hnan.1, hnan.2]
  · rfl

/-- Bits that differ in the sign only are those of a double and its negative. -/
theorem unpack_of_sign
    (hmantissa : UnpackedFloat.unpackMantissa b = UnpackedFloat.unpackMantissa a)
    (hexponent : UnpackedFloat.unpackExponent b = UnpackedFloat.unpackExponent a)
    (ha : UnpackedFloat.unpackSign a = 0#1)
    (hb : UnpackedFloat.unpackSign b = 1#1) :
    UnpackedFloat.unpack .binary64 b = (UnpackedFloat.unpack .binary64 a).neg := by
  have hsign : UnpackedFloat.Sign.ofBitVec 1#1 = -UnpackedFloat.Sign.ofBitVec 0#1 := rfl
  unfold UnpackedFloat.unpack
  simp only [hmantissa, hexponent, ha, hb, hsign]
  split
  · split <;> rfl
  · split
    · split <;> rfl
    · rfl

end

/-- **The double with the sign bit set is the negative of the one without.** -/
theorem neg_ofMagnitude {bits : Nat} (h : bits < 2 ^ 63) :
    -ofMagnitude false bits = ofMagnitude true bits := by
  have hplain : (UInt64.ofNat bits).toBitVec.toNat = bits := by
    simp only [UInt64.toNat_toBitVec, UInt64.toNat_ofNat']
    omega
  have hmarked : (UInt64.ofNat (two 63 + bits)).toBitVec.toNat = 2 ^ 63 + bits := by
    simp only [UInt64.toNat_toBitVec, UInt64.toNat_ofNat', two_eq]
    omega
  have hneg : UnpackedFloat.unpack .binary64 (UInt64.ofNat (two 63 + bits)).toBitVec =
      (UnpackedFloat.unpack .binary64 (UInt64.ofNat bits).toBitVec).neg := by
    refine unpack_of_sign ?_ ?_ ?_ ?_
    · rw [UnpackedFloat.unpackMantissa_def, UnpackedFloat.unpackMantissa_def]
      refine BitVec.eq_of_toNat_eq ?_
      simp only [BitVec.extractLsb'_toNat, hplain, hmarked, Nat.shiftRight_zero]
      show (2 ^ 63 + bits) % 2 ^ 52 = bits % 2 ^ 52
      omega
    · rw [UnpackedFloat.unpackExponent_def, UnpackedFloat.unpackExponent_def]
      refine BitVec.eq_of_toNat_eq ?_
      simp only [BitVec.extractLsb'_toNat, hplain, hmarked, Nat.shiftRight_eq_div_pow]
      show (2 ^ 63 + bits) / 2 ^ 52 % 2 ^ 11 = bits / 2 ^ 52 % 2 ^ 11
      omega
    · rw [UnpackedFloat.unpackSign_def]
      refine BitVec.eq_of_toNat_eq ?_
      simp only [BitVec.extractLsb'_toNat, hplain, Nat.shiftRight_eq_div_pow]
      show bits / 2 ^ 63 % 2 ^ 1 = 0
      omega
    · rw [UnpackedFloat.unpackSign_def]
      refine BitVec.eq_of_toNat_eq ?_
      simp only [BitVec.extractLsb'_toNat, hmarked, Nat.shiftRight_eq_div_pow]
      show (2 ^ 63 + bits) / 2 ^ 63 % 2 ^ 1 = 1
      omega
  refine congrArg Float.ofModel ?_
  show Float.Model.pack (UnpackedFloat.neg (UnpackedFloat.unpack .binary64 (UnpackedFloat.pack .binary64
    (UnpackedFloat.unpack .binary64 (UInt64.ofNat bits).toBitVec)))) = _
  rw [unpack_pack_unpack, ← hneg]
  rfl

theorem magnitudeBits_lt (num den : Nat) : magnitudeBits num den < 2 ^ 63 := by
  unfold magnitudeBits
  extract_lets guess low fits shift
  generalize hscale : scaleDown num den shift = scaled
  obtain ⟨n, d⟩ := scaled
  dsimp only
  split
  · rename_i h
    exact Nat.lt_trans h (by decide)
  · exact Nat.lt_of_le_of_lt (Nat.min_le_right _ _) (by decide)

theorem neg_ofRatio (num den : Nat) : -ofRatio false num den = ofRatio true num den := by
  refine neg_ofMagnitude ?_
  split
  · decide
  · exact magnitudeBits_lt num den

theorem neg_ofDecimal (digits : Nat) (exponent : Int) :
    -ofDecimal false digits exponent = ofDecimal true digits exponent := by
  unfold ofDecimal
  simp only [apply_ite (- · : Float → Float), neg_ofRatio]

theorem neg_toFloat (d : DecimalText) : -d.toFloat false = d.toFloat true :=
  neg_ofDecimal _ _

/-! ## Kinds of doubles -/

theorem isNaN_of_isFinite {x : Float} (h : x.isFinite = true) : x.isNaN = false := by
  change (UnpackedFloat.unpack .binary64 x.toBits.toBitVec).isFinite = true at h
  change (UnpackedFloat.unpack .binary64 x.toBits.toBitVec).isNaN = false
  cases hparts : UnpackedFloat.unpack .binary64 x.toBits.toBitVec with
  | notANumber =>
    rw [hparts] at h
    cases h
  | _ => rfl

theorem unpackExponent_toBits (x : Float) :
    @UnpackedFloat.unpackExponent .binary64 x.toBits.toBitVec = -1#11 ↔
      x.toBits.toNat / 2 ^ 52 % 2 ^ 11 = 2047 := by
  rw [UnpackedFloat.unpackExponent_def, ← BitVec.toNat_inj, BitVec.extractLsb'_toNat,
    Nat.shiftRight_eq_div_pow]
  rfl

theorem isFinite_iff {x : Float} :
    x.isFinite = true ↔ ∃ negative m e, Binary64.ofFloat x = .finite negative m e := by
  have hunpack : x.isFinite = true ↔
      @UnpackedFloat.unpackExponent .binary64 x.toBits.toBitVec ≠ -1#11 := by
    show (UnpackedFloat.unpack .binary64 x.toBits.toBitVec).isFinite = true ↔ _
    unfold UnpackedFloat.unpack
    simp only
    split
    · rename_i h
      simp only [h, ne_eq, not_true_eq_false, iff_false]
      split <;> simp [UnpackedFloat.isFinite]
    · rename_i h
      simp only [ne_eq, h, not_false_eq_true, iff_true]
      split
      · split <;> rfl
      · rfl
  rw [hunpack, Ne, unpackExponent_toBits]
  unfold Binary64.ofFloat
  simp only [two_eq, beq_iff_eq]
  split
  · rename_i h
    simp only [h, not_true_eq_false, false_iff]
    split <;> simp
  · rename_i h
    simp only [h, not_false_eq_true, true_iff]
    split
    · exact ⟨_, _, _, rfl⟩
    · exact ⟨_, _, _, rfl⟩

theorem isInf_ofBits {bits : Nat} (h : bits < 2047 * 2 ^ 52) :
    (Float.ofBits (UInt64.ofNat bits)).isInf = false := by
  have hexp : @UnpackedFloat.unpackExponent .binary64 (UInt64.ofNat bits).toBitVec ≠ -1#11 := by
    rw [Ne, UnpackedFloat.unpackExponent_def, ← BitVec.toNat_inj, BitVec.extractLsb'_toNat,
      Nat.shiftRight_eq_div_pow]
    have hnat : (UInt64.ofNat bits).toBitVec.toNat = bits := by
      simp; omega
    rw [hnat]
    show ¬ bits / 2 ^ 52 % 2 ^ 11 = 2047
    omega
  show (UnpackedFloat.unpack .binary64 (UnpackedFloat.pack .binary64
    (UnpackedFloat.unpack .binary64 (UInt64.ofNat bits).toBitVec))).isInf = false
  rw [unpack_pack_unpack]
  unfold UnpackedFloat.unpack
  simp only [hexp, if_false]
  split
  · split <;> rfl
  · rfl

theorem roundDiv_le (num den : Nat) : roundDiv num den ≤ num / den + 1 := by
  simp only [roundDiv]
  split
  · omega
  · split <;> omega

theorem magnitudeBits_one_lt {n : Nat} (h0 : n ≠ 0) (h : n < two 250) :
    magnitudeBits n 1 < 2047 * 2 ^ 52 := by
  have hlog : n.log2 < 250 := (Nat.log2_lt h0).mpr h
  have hn : n < 2 ^ (n.log2 + 1) := Nat.lt_log2_self
  have hscaled : ∀ shift : Int, (n.log2 : Int) - 53 ≤ shift →
      (scaleDown n 1 shift).1 / (scaleDown n 1 shift).2 < 2 ^ 54 := by
    intro shift hshift
    unfold scaleDown
    split
    · rw [Nat.div_lt_iff_lt_mul (by simp [two_eq])]
      refine hn.trans_le ?_
      rw [Nat.one_mul, two_eq, ← Nat.pow_add]
      exact Nat.pow_le_pow_right (by norm_num) (by omega)
    · rw [Nat.div_one, two_eq]
      calc n * 2 ^ (-shift).toNat < 2 ^ (n.log2 + 1) * 2 ^ (-shift).toNat :=
            Nat.mul_lt_mul_of_pos_right hn (by positivity)
        _ = 2 ^ (n.log2 + 1 + (-shift).toNat) := (Nat.pow_add ..).symm
        _ ≤ 2 ^ 54 := Nat.pow_le_pow_right (by norm_num) (by omega)
  unfold magnitudeBits
  extract_lets guess low fits shift
  have hshift : (n.log2 : Int) - 53 ≤ shift ∧ shift ≤ 197 := by
    have hguess : guess = (n.log2 : Int) - 53 := by
      simp [guess, show Nat.log2 1 = 0 from rfl]
    have : shift = low ∨ shift = low + 1 := by
      simp only [shift]
      split <;> simp
    omega
  have hm := (roundDiv_le (scaleDown n 1 shift).1 (scaleDown n 1 shift).2).trans
    (hscaled shift hshift.1)
  have hexponent : (shift + 1075).toNat ≤ 1272 := by omega
  dsimp only
  generalize roundDiv (scaleDown n 1 shift).1 (scaleDown n 1 shift).2 = m at hm ⊢
  split
  · rename_i hlt
    exact hlt.trans (by decide)
  · refine (Nat.min_le_left _ _).trans_lt ?_
    rw [two_eq]
    omega

theorem isInf_ofInt {n : Nat} (h : n < two 250) : (ofInt n).isInf = false := by
  have hsign : decide ((n : Int) < 0) = false :=
    decide_eq_false (Int.not_lt.mpr (Int.natCast_nonneg n))
  unfold ofInt ofRatio
  rw [hsign, Int.natAbs_natCast]
  refine isInf_ofBits ?_
  simp only [Bool.false_eq_true, if_false]
  split
  · norm_num
  · rename_i h0
    exact magnitudeBits_one_lt (by simpa using h0) h

end Sketchflow.Number
