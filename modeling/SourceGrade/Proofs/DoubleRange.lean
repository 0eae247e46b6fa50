import Mathlib.Algebra.Order.Field.Power
import Mathlib.Data.Rat.Cast.Order
import Mathlib.Tactic.Linarith
import Mathlib.Tactic.NormNum
import Mathlib.Tactic.Positivity
import Mathlib.Tactic.Ring
import SourceGrade.Number.Binary

/-!
# Quotients with a double near them

The double nearest to a quotient of whole numbers is finite when the quotient is far below the
largest double.
-/

namespace SourceGrade.Proofs

/-! ### Finite bit patterns -/

section

open Float.Model.UnpackedFloat
open Float.Model (Format)
open Float.Model.UnpackedFloat renaming pack → packFloat, unpack → unpackFloat

variable {b : BitVec Format.binary64.numBits}

lemma isFinite_unpack (h : unpackExponent b ≠ -1#_) :
    (unpackFloat Format.binary64 b).isFinite = true := by
  unfold unpackFloat
  dsimp only
  rw [if_neg h]
  by_cases hzero : unpackExponent b = 0#_
  · rw [if_pos hzero]
    by_cases hmantissa : unpackMantissa b = 0#_
    · rw [dif_pos hmantissa]
      rfl
    · rw [dif_neg hmantissa]
      rfl
  · rw [if_neg hzero]
    rfl

lemma unpackExponent_pack_finite (s : Sign) (m : Nat) (e : Int) (hm : 0 < m)
    (h : (e + 1075).toNat + 1 < 2048) :
    unpackExponent (packFloat Format.binary64 (.finite s m e hm)) ≠ -1#_ := by
  have hbias : (e + (Format.binary64.exponentBias : Int) +
      (Format.binary64.mantissaBitsWithoutImplicit : Int)).toNat = (e + 1075).toNat := by
    congr 1
    change e + 1023 + 52 = e + 1075
    omega
  unfold packFloat
  dsimp only
  rw [hbias, if_neg (by change ¬2048 ≤ _; omega)]
  split
  · rw [unpackExponent_packComponents]
    intro heq
    have hnat := congrArg BitVec.toNat heq
    rw [BitVec.toNat_ofNat, Nat.mod_eq_of_lt (by change _ < 2048; omega)] at hnat
    change (e + 1075).toNat = 2047 at hnat
    omega
  · rw [unpackExponent_packComponents]
    decide

lemma unpackExponent_pack_zero (s : Sign) :
    unpackExponent (packFloat Format.binary64 (.zero s)) ≠ -1#_ := by
  unfold packFloat packedZero
  rw [unpackExponent_packComponents]
  decide

lemma unpackExponent_pack_unpack (h : unpackExponent b ≠ -1#_) :
    unpackExponent (packFloat Format.binary64 (unpackFloat Format.binary64 b)) ≠ -1#_ := by
  have hexp : (unpackExponent b).toNat < 2047 := by
    have hlt : (unpackExponent b).toNat < 2048 := (unpackExponent b).isLt
    have hne : (unpackExponent b).toNat ≠ 2047 := fun heq => h (BitVec.eq_of_toNat_eq heq)
    omega
  have hbias : ((Format.binary64.exponentBias : Int) +
      (Format.binary64.mantissaBitsWithoutImplicit : Int)) = 1075 := rfl
  unfold unpackFloat
  dsimp only
  rw [if_neg h, hbias]
  by_cases hzero : unpackExponent b = 0#_
  · rw [if_pos hzero]
    by_cases hmantissa : unpackMantissa b = 0#_
    · rw [dif_pos hmantissa]
      exact unpackExponent_pack_zero _
    · rw [dif_neg hmantissa]
      apply unpackExponent_pack_finite
      have hnat : (unpackExponent b).toNat = 0 := congrArg BitVec.toNat hzero
      omega
  · rw [if_neg hzero]
    apply unpackExponent_pack_finite
    omega

lemma isFinite_ofBits (bits : UInt64) (h : bits.toNat / 2 ^ 52 % 2 ^ 11 ≠ 2047) :
    (Float.ofBits bits).isFinite = true := by
  have hexp : @unpackExponent Format.binary64 bits.toBitVec ≠ -1#_ := by
    intro heq
    apply h
    have hnat := congrArg BitVec.toNat heq
    simpa [unpackExponent, Nat.shiftRight_eq_div_pow] using hnat
  exact isFinite_unpack (unpackExponent_pack_unpack hexp)

end

/-! ### The nearest double -/

lemma twoTo_zpow (k : Int) : (twoTo k : ℚ) = 2 ^ k * twoTo (-k) := by
  unfold twoTo
  rcases Int.le_total 0 k with hk | hk
  · obtain ⟨m, rfl⟩ := Int.eq_ofNat_of_zero_le hk
    simp
  · obtain ⟨m, hm⟩ := Int.eq_ofNat_of_zero_le (Int.neg_nonneg_of_nonpos hk)
    obtain rfl : k = -(m : Int) := by omega
    simp

lemma lt_two_pow_floorLog2 (n d : Nat) (hd : 0 < d) :
    (n : ℚ) < d * 2 ^ (Binary.floorLog2 n d + 1) := by
  unfold Binary.floorLog2
  dsimp only
  split
  · have hn : (n : ℚ) < 2 ^ (n.log2 + 1) := by exact_mod_cast Nat.lt_log2_self
    have hlog : ((2 : ℚ) ^ d.log2) ≤ d := by exact_mod_cast Nat.log2_self_le (by omega)
    calc (n : ℚ) < 2 ^ (n.log2 + 1) := hn
      _ = 2 ^ d.log2 * 2 ^ ((n.log2 : Int) - d.log2 + 1) := by
        rw [← zpow_natCast, ← zpow_natCast, ← zpow_add₀ (by norm_num)]
        congr 1
        push_cast
        ring
      _ ≤ d * 2 ^ ((n.log2 : Int) - d.log2 + 1) := by gcongr
  · next hlt =>
    have hlt : (d * twoTo ((n.log2 : Int) - d.log2) : ℚ) >
        n * twoTo (-((n.log2 : Int) - d.log2)) := by
      exact_mod_cast Nat.lt_of_not_le hlt
    rw [twoTo_zpow] at hlt
    have hpos : (0 : ℚ) < twoTo (-((n.log2 : Int) - d.log2)) := by exact_mod_cast twoTo_pos _
    rw [Int.sub_add_cancel]
    nlinarith

lemma floorLog2_le (n d : Nat) (hn : 0 < n) (h : n < d * 2 ^ 200) :
    Binary.floorLog2 n d ≤ 200 := by
  have hlog : n.log2 < d.log2 + 1 + 200 := by
    have hpow : 2 ^ n.log2 < 2 ^ (d.log2 + 1 + 200) := by
      calc 2 ^ n.log2 ≤ n := Nat.log2_self_le (by omega)
        _ < d * 2 ^ 200 := h
        _ ≤ 2 ^ (d.log2 + 1) * 2 ^ 200 := Nat.mul_le_mul_right _ Nat.lt_log2_self.le
        _ = 2 ^ (d.log2 + 1 + 200) := (Nat.pow_add 2 _ _).symm
    exact (Nat.pow_lt_pow_iff_right (by omega)).mp hpow
  unfold Binary.floorLog2
  dsimp only
  split <;> omega

lemma roundQuotient_le (n d m : Nat) (h : n < d * m) : Binary.roundQuotient n d ≤ m := by
  have hdiv : n / d < m := Nat.div_lt_of_lt_mul h
  unfold Binary.roundQuotient
  dsimp only
  split <;> omega

lemma roundQuotient_scaled_le (n d : Nat) (hd : 0 < d) {e : Int}
    (he : max (Binary.floorLog2 n d - 52) (-1074) = e) :
    Binary.roundQuotient (n * twoTo (-e)) (d * twoTo e) ≤ 2 ^ 53 := by
  have hlt := lt_two_pow_floorLog2 n d hd
  generalize Binary.floorLog2 n d = k at he hlt
  have hke : k + 1 ≤ e + 53 := by omega
  apply roundQuotient_le
  have hpos : (0 : ℚ) < twoTo (-e) := by exact_mod_cast twoTo_pos _
  have hcast : (n * twoTo (-e) : ℚ) < d * twoTo e * 2 ^ 53 := by
    calc (n * twoTo (-e) : ℚ) < d * 2 ^ (k + 1) * twoTo (-e) := by gcongr
      _ ≤ d * 2 ^ (e + 53) * twoTo (-e) := by
        gcongr
        norm_num
      _ = d * twoTo e * 2 ^ 53 := by
        rw [twoTo_zpow e, zpow_add₀ (by norm_num)]
        norm_cast
        ring
  exact_mod_cast hcast

lemma nearestBits_lt (n d : Nat) (hd : 0 < d) (h : n < d * 2 ^ 200) :
    Binary.nearestBits n d < 2047 * 2 ^ 52 := by
  unfold Binary.nearestBits
  split
  · decide
  · next hn =>
    have hlog := floorLog2_le n d (by omega) h
    dsimp only
    generalize he : max (Binary.floorLog2 n d - 52) (-1074) = e
    have hround := roundQuotient_scaled_le n d hd he
    have hexponent : (e + 1074).toNat ≤ 1222 := by omega
    have hpow : (e + 1074).toNat * twoTo 52 ≤ 1222 * 2 ^ 52 := Nat.mul_le_mul_right _ hexponent
    refine lt_of_le_of_lt (Nat.min_le_left _ _) ?_
    omega

theorem isFinite_nearest (n : Int) (d : Nat) (hd : 0 < d) (h : n.natAbs < d * 2 ^ 200) :
    (Binary.nearest n d).isFinite = true := by
  have hbits := nearestBits_lt n.natAbs d hd h
  unfold Binary.nearest
  apply isFinite_ofBits
  have hsign : (if n < 0 then twoTo 63 else 0) = if n < 0 then 2 ^ 63 else 0 := rfl
  rw [hsign, UInt64.toNat_ofNat']
  split <;> omega

end SourceGrade.Proofs
