import Mathlib
import SourceGrade.Number.Amount
import SourceGrade.Proofs.DoubleParts

/-!
# Nearest doubles

The double nearest to a share, a quotient of a number and one that is not less, lies between 0 and
1. A whole number has a finite double near it if it is below the midpoint between the largest double
and the power of two after it.
-/

namespace SourceGrade

/-- A number that is known to lie between 0 and 1. -/
structure Scalar.IsShare {α : Type} [Scalar α] (x : α) : Prop where
  nonneg : (Scalar.compareInt? x 0).any (· != .lt) = true
  le_one : Scalar.leInt x 1 = true

namespace Proofs

section

open Float.Model.UnpackedFloat
open Float.Model (Format)

lemma toBits_ofBits {bits : UInt64} (h : bits.toNat / 2 ^ 52 % 2 ^ 11 ≠ 2047) :
    (Float.ofBits bits).toBits = bits := by
  have hexponent : ¬@unpackExponent Format.binary64 bits.toBitVec = -1#_ := by
    rw [unpackExponent_eq_iff]
    exact h
  have hvalid : Format.binary64.Valid bits.toBitVec :=
    ⟨fun heq => absurd heq hexponent⟩
  exact congrArg UInt64.ofBitVec (pack_unpack_of_valid hvalid)

end

lemma nearest_natCast (n d : Nat) :
    Binary.nearest n d = Float.ofBits (UInt64.ofNat (Binary.nearestBits n d)) := by
  have hsign : ¬(n : Int) < 0 := by omega
  rw [Binary.nearest, if_neg hsign, Int.natAbs_natCast, Nat.zero_add]

lemma toBits_nearest {n d : Nat} (h : Binary.nearestBits n d < 2047 * 2 ^ 52) :
    (Binary.nearest n d).toBits.toNat = Binary.nearestBits n d := by
  have hnat : (UInt64.ofNat (Binary.nearestBits n d)).toNat = Binary.nearestBits n d := by
    rw [UInt64.toNat_ofNat']
    omega
  rw [nearest_natCast, toBits_ofBits, hnat]
  rw [hnat]
  omega

/-! ### Shares -/

lemma floorLog2_self (n : Nat) : Binary.floorLog2 n n = 0 := by
  simp [Binary.floorLog2]

lemma floorLog2_of_lt {n d : Nat} (hn : 0 < n) (h : n < d) : Binary.floorLog2 n d ≤ -1 := by
  have hle := two_pow_floorLog2_le n d hn
  by_contra hlog
  have hone : (1 : ℚ) ≤ 2 ^ Binary.floorLog2 n d := one_le_zpow₀ (by norm_num) (by omega)
  have hlt : (n : ℚ) < d := by exact_mod_cast h
  have hd : (0 : ℚ) ≤ d := Nat.cast_nonneg d
  nlinarith

lemma roundQuotient_mul (n m : Nat) (hn : 0 < n) : Binary.roundQuotient (n * m) n = m := by
  have hdiv : n * m / n = m := Nat.mul_div_cancel_left m hn
  have hmod : n * m % n = 0 := Nat.mul_mod_right n m
  unfold Binary.roundQuotient
  dsimp only
  rw [hdiv, hmod, if_neg (by omega)]

lemma nearestBits_share {n d : Nat} (hd : 0 < d) (h : n ≤ d) :
    Binary.nearestBits n d ≤ 1023 * 2 ^ 52 := by
  unfold Binary.nearestBits
  split
  · decide
  · next hn =>
    have hpos : 0 < n := by omega
    dsimp only
    apply (Nat.min_le_left _ _).trans
    rcases Nat.lt_or_eq_of_le h with hlt | rfl
    · have hlog := floorLog2_of_lt hpos hlt
      generalize he : max (Binary.floorLog2 n d - 52) (-1074) = e
      have hround := roundQuotient_scaled_le n d hd he
      have hexponent : (e + 1074).toNat ≤ 1021 := by omega
      have hpow : (e + 1074).toNat * twoTo 52 ≤ 1021 * 2 ^ 52 := Nat.mul_le_mul_right _ hexponent
      omega
    · have hscale : max (Binary.floorLog2 n n - 52) (-1074) = -52 := by
        rw [floorLog2_self]
        decide
      have hone : n * twoTo (-52) = n := Nat.mul_one n
      rw [hscale, hone, roundQuotient_mul n _ hpos]
      decide

lemma compareInt_zero (m : Nat) (e : Int) : (Binary.mk false m e).compareInt 0 ≠ .lt := by
  unfold Binary.compareInt
  simp only [Bool.false_eq_true, if_false, Int.zero_mul]
  rw [Ne, compare_lt_iff_lt, not_lt]
  positivity

lemma compareInt_one {m : Nat} {e : Int} (he : e ≤ 0) (h : m ≤ 2 ^ (-e).toNat) :
    (Binary.mk false m e).compareInt 1 ≠ .gt := by
  have hone : twoTo e = 1 := by rw [twoTo, Int.toNat_of_nonpos he]
  unfold Binary.compareInt
  simp only [Bool.false_eq_true, if_false, hone, Int.one_mul, Nat.cast_one, Int.mul_one]
  rw [Ne, compare_gt_iff_gt, not_lt]
  exact_mod_cast h

lemma nearest_share {n d : Nat} (hd : 0 < d) (h : n ≤ d) :
    ∃ b, Binary.ofFloat? (Binary.nearest n d) = some b ∧ b.compareInt 0 ≠ .lt ∧
      b.compareInt 1 ≠ .gt := by
  have hbits := nearestBits_share hd h
  have hnearest := toBits_nearest (n := n) (d := d) (by omega)
  generalize Binary.nearestBits n d = bits at hbits hnearest
  have htwo : twoTo 52 = 2 ^ 52 := rfl
  have hsign : (bits / twoTo 63 == 1) = false := by
    have hzero : bits / 2 ^ 63 = 0 := by omega
    change (bits / 2 ^ 63 == 1) = false
    rw [hzero]
    rfl
  have hfield : bits / twoTo 52 % twoTo 11 = bits / 2 ^ 52 := by
    change bits / 2 ^ 52 % 2 ^ 11 = _
    omega
  unfold Binary.ofFloat?
  rw [hnearest]
  dsimp only
  rw [hsign, hfield, htwo, if_neg (by omega)]
  split
  · refine ⟨_, rfl, compareInt_zero _ _, compareInt_one (by omega) ?_⟩
    calc bits % 2 ^ 52 ≤ 2 ^ 52 := by omega
      _ ≤ 2 ^ (-(-1074 : Int)).toNat := Nat.pow_le_pow_right (by omega) (by omega)
  · refine ⟨_, rfl, compareInt_zero _ _, compareInt_one (by omega) ?_⟩
    rcases Nat.lt_or_ge (bits / 2 ^ 52) 1023 with hlt | hge
    · calc bits % 2 ^ 52 + 2 ^ 52 ≤ 2 ^ 53 := by omega
        _ ≤ 2 ^ (-(((bits / 2 ^ 52 : Nat) : Int) - 1075)).toNat :=
          Nat.pow_le_pow_right (by omega) (by omega)
    · have hlast : bits = 1023 * 2 ^ 52 := by omega
      rw [hlast]
      decide

/-- In the arithmetic of the program a share lies between 0 and 1. -/
theorem isShare_ofRatio {n d : Nat} (hd : 0 < d) (h : n ≤ d) :
    Scalar.IsShare (Scalar.ofRatio n d : Amount) := by
  obtain ⟨b, hb, hzero, hone⟩ := nearest_share hd h
  have horder : ∀ k : Int, Scalar.compareInt? (Scalar.ofRatio n d : Amount) k =
      some (b.compareInt k) := by
    intro k
    change Binary.compareFloat? (Binary.nearest n d) k = _
    rw [Binary.compareFloat?, hb]
  constructor
  · simp [horder, hzero]
  · simp [Scalar.leInt, horder, hone]

/-! ### Whole numbers -/

lemma floorLog2_one {n : Nat} (hn : n ≠ 0) : Binary.floorLog2 n 1 = n.log2 := by
  have hle : 1 * twoTo (n.log2 : Int) ≤ n * twoTo (-(n.log2 : Int)) := by
    have hneg : twoTo (-(n.log2 : Int)) = 1 := by rw [twoTo, Int.toNat_of_nonpos (by omega)]
    rw [hneg, Nat.one_mul, Nat.mul_one]
    exact Nat.log2_self_le hn
  have hone : Nat.log2 1 = 0 := by decide
  have hlog : ((n.log2 : Int) - (Nat.log2 1 : Int)) = n.log2 := by simp [hone]
  unfold Binary.floorLog2
  dsimp only
  rw [hlog, if_pos hle]

lemma le_roundQuotient {n d m : Nat} (hd : 0 < d) (h : d * m ≤ n) :
    m ≤ Binary.roundQuotient n d := by
  have hdiv : m ≤ n / d := (Nat.le_div_iff_mul_le hd).mpr (Nat.mul_comm d m ▸ h)
  unfold Binary.roundQuotient
  dsimp only
  split <;> omega

lemma roundQuotient_le_iff {n h m : Nat} (hh : 0 < h) (hm : m % 2 = 1) :
    Binary.roundQuotient n (2 * h) ≤ m ↔ n < 2 * h * m + h := by
  have hsplit := Nat.div_add_mod n (2 * h)
  have hrest : n % (2 * h) < 2 * h := Nat.mod_lt n (by omega)
  unfold Binary.roundQuotient
  dsimp only
  generalize n / (2 * h) = q at hsplit ⊢
  generalize n % (2 * h) = r at hsplit hrest ⊢
  rcases Nat.lt_trichotomy q m with hlt | rfl | hgt
  · have hmul : 2 * h * (q + 1) ≤ 2 * h * m := Nat.mul_le_mul_left _ hlt
    rw [Nat.mul_add] at hmul
    constructor
    · omega
    · intro _
      split <;> omega
  · split <;> omega
  · have hmul : 2 * h * (m + 1) ≤ 2 * h * q := Nat.mul_le_mul_left _ hgt
    rw [Nat.mul_add] at hmul
    constructor
    · intro _
      split at * <;> omega
    · omega

lemma twoTo_mono {j k : Int} (h : j ≤ k) : twoTo j ≤ twoTo k :=
  Nat.pow_le_pow_right (by omega) (Int.toNat_le_toNat h)

lemma twoTo_add {j k : Int} (hj : 0 ≤ j) (hk : 0 ≤ k) : twoTo (j + k) = 2 ^ j.toNat * twoTo k := by
  rw [twoTo, Int.toNat_add hj hk]
  exact Nat.pow_add 2 j.toNat k.toNat

lemma twoTo_succ {k : Int} (hk : 0 ≤ k) : twoTo (1 + k) = 2 * twoTo k := twoTo_add (by decide) hk

/-- Where numbers are rounded to multiples of `2 ^ 971`, the last that is rounded down to a double is
below the midpoint after it. -/
lemma roundQuotient_last_le_iff (n : Nat) :
    Binary.roundQuotient n (1 * twoTo 971) ≤ 2 ^ 53 - 1 ↔ n < twoTo 1024 - twoTo 970 := by
  have hstep : twoTo 971 = 2 * twoTo 970 := by
    rw [show (971 : Int) = 1 + 970 by rfl, twoTo_succ (by decide)]
  have hlimit : twoTo 1024 = 2 ^ 54 * twoTo 970 := by
    rw [show (1024 : Int) = 54 + 970 by rfl, twoTo_add (by decide) (by decide),
      show (54 : Int).toNat = 54 by rfl]
  rw [Nat.one_mul, hstep, roundQuotient_le_iff (twoTo_pos 970) (by decide), hlimit]
  omega

lemma le_roundQuotient_of_log {n : Nat} {e : Int} (he : 0 ≤ e) (h : 2 ^ (e.toNat + 52) ≤ n) :
    2 ^ 52 ≤ Binary.roundQuotient (n * twoTo (-e)) (1 * twoTo e) := by
  have hdown : twoTo (-e) = 1 := by rw [twoTo, Int.toNat_of_nonpos (by omega)]
  rw [hdown, Nat.mul_one, Nat.one_mul]
  refine le_roundQuotient (twoTo_pos e) ?_
  rwa [Nat.pow_add] at h

/-- Whole numbers have a finite double near them up to the midpoint above the largest double. -/
lemma nearestBits_one_lt_iff (n : Nat) :
    Binary.nearestBits n 1 < 2047 * 2 ^ 52 ↔ n < twoTo 1024 - twoTo 970 := by
  have hlimit : twoTo 1024 = 2 * twoTo 1023 := by
    rw [show (1024 : Int) = 1 + 1023 by rfl, twoTo_succ (by decide)]
  have hmidpoint : twoTo 970 ≤ twoTo 1023 := twoTo_mono (by decide)
  have hpos := twoTo_pos 1023
  unfold Binary.nearestBits
  by_cases hn : n = 0
  · rw [if_pos hn, hn]
    exact iff_of_true (by decide) (by omega)
  rw [if_neg hn]
  dsimp only
  have hself := Nat.log2_self_le hn
  have hsucc := Nat.lt_log2_self (n := n)
  generalize he : max (Binary.floorLog2 n 1 - 52) (-1074) = e
  have hround := roundQuotient_scaled_le n 1 Nat.one_pos he
  rw [floorLog2_one hn] at he
  generalize n.log2 = k at he hself hsucc
  rcases Nat.lt_trichotomy k 1023 with hlt | rfl | hgt
  · -- below the last power of two that is a double
    have hpow : (e + 1074).toNat * twoTo 52 ≤ 2044 * 2 ^ 52 :=
      Nat.mul_le_mul_right _ (by omega)
    have hbelow : n < twoTo 1023 := by
      calc n < twoTo (k + 1 : Nat) := hsucc
        _ ≤ twoTo 1023 := twoTo_mono (by omega)
    exact iff_of_true (lt_of_le_of_lt (Nat.min_le_left _ _) (by omega)) (by omega)
  · -- the last power of two
    obtain rfl : e = 971 := by omega
    have hdown : n * twoTo (-971) = n := Nat.mul_one n
    have hfirst : (971 + 1074 : Int).toNat * twoTo 52 = 2045 * 2 ^ 52 := by decide
    have hinfinity : 2047 * twoTo 52 = 2047 * 2 ^ 52 := rfl
    rw [hdown, ← roundQuotient_last_le_iff, hfirst, hinfinity]
    omega
  · -- beyond all doubles
    have hpow : 2046 * 2 ^ 52 ≤ (e + 1074).toNat * twoTo 52 := Nat.mul_le_mul_right _ (by omega)
    have hmantissa := le_roundQuotient_of_log (n := n) (e := e) (by omega)
      ((Nat.pow_le_pow_right (by decide) (by omega)).trans hself)
    have habove : twoTo 1024 ≤ n := by
      calc twoTo 1024 ≤ twoTo k := twoTo_mono (by omega)
        _ ≤ n := hself
    have hsum : 2047 * 2 ^ 52 ≤ (e + 1074).toNat * twoTo 52 +
        Binary.roundQuotient (n * twoTo (-e)) (1 * twoTo e) := by
      calc 2047 * 2 ^ 52 = 2046 * 2 ^ 52 + 2 ^ 52 := by decide
        _ ≤ _ := Nat.add_le_add hpow hmantissa
    apply iff_of_false
    · exact Nat.not_lt.mpr (Nat.le_min.mpr ⟨hsum, le_rfl⟩)
    · omega

/-- A whole number has a finite double near it exactly if it is below the midpoint between the
largest double and the power of two after it. -/
theorem isFinite_nearest_iff (n : Nat) :
    (Binary.nearest n 1).isFinite = true ↔ n < twoTo 1024 - twoTo 970 := by
  rw [← nearestBits_one_lt_iff]
  constructor
  · intro hfinite
    by_contra hge
    have hbits : Binary.nearestBits n 1 = 2047 * 2 ^ 52 := by
      have hmax : Binary.nearestBits n 1 ≤ 2047 * 2 ^ 52 := by
        unfold Binary.nearestBits
        split
        · decide
        · exact Nat.min_le_right _ _
      omega
    rw [nearest_natCast, hbits] at hfinite
    revert hfinite
    decide +kernel
  · intro hlt
    rw [nearest_natCast]
    apply isFinite_ofBits
    rw [UInt64.toNat_ofNat']
    omega

end Proofs

end SourceGrade
