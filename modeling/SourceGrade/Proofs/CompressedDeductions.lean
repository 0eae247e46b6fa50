import Mathlib.Analysis.Convex.SpecificFunctions.Basic
import Mathlib.Analysis.SpecialFunctions.Log.Deriv
import Mathlib.Topology.Order.IntermediateValue
import SourceGrade.Proofs.ExactThresholds

/-!
# Compressed deductions

Beyond the knee a deduction grows with the logarithm of its excess, and that growth starts with the
slope `scale / log 2`. In exact arithmetic a scale up to `log 2` therefore never makes a deduction
larger. A greater scale makes it larger from the knee up to one crossing point, and not from there
on.
-/

namespace SourceGrade.Proofs

/-- What the logarithm makes of an excess over the knee, less the excess itself. -/
noncomputable def surcharge (scale excess : ℝ) : ℝ := Scalar.log2 (excess + 1) * scale - excess

lemma compressDeduction_real {knee scale total : ℝ} (h : 0 ≤ total) :
    Scalar.compressDeduction knee scale total =
      if total ≤ knee then total else total + surcharge scale (total - knee) := by
  simp only [Scalar.compressDeduction, finiteOr_real, ofInt_real, max_real, log2_real, le_real,
    Int.cast_zero, Int.cast_one, max_eq_right h, decide_eq_true_eq, surcharge]
  split
  · rfl
  · ring

lemma compressDeduction_le_iff_surcharge {knee scale total : ℝ} (h : 0 ≤ total)
    (hknee : knee < total) :
    Scalar.compressDeduction knee scale total ≤ total ↔ surcharge scale (total - knee) ≤ 0 := by
  rw [compressDeduction_real h, if_neg hknee.not_ge]
  exact add_le_iff_nonpos_right total

lemma surcharge_eq (scale excess : ℝ) :
    surcharge scale excess = scale / Real.log 2 * Real.log (excess + 1) - excess := by
  rw [surcharge, log2_real, Real.logb]
  ring

lemma surcharge_zero (scale : ℝ) : surcharge scale 0 = 0 := by simp [surcharge]

/-! ### The sign of a surcharge -/

/-- The logarithm lies above its chord from 1. -/
lemma mul_log_lt {x y : ℝ} (hx : 0 < x) (hxy : x < y) :
    x * Real.log (y + 1) < y * Real.log (x + 1) := by
  have hy : 0 < y := hx.trans hxy
  have hshare : x / y < 1 := (div_lt_one hy).mpr hxy
  have hchord := strictConcaveOn_log_Ioi.2 (Set.mem_Ioi.mpr one_pos)
    (Set.mem_Ioi.mpr (by linarith : 0 < y + 1)) (by linarith : (1 : ℝ) ≠ y + 1)
    (sub_pos.mpr hshare) (div_pos hx hy) (sub_add_cancel 1 (x / y))
  have hpoint : (1 - x / y) * 1 + x / y * (y + 1) = x + 1 := by
    field_simp
    ring
  simp only [smul_eq_mul, Real.log_one, mul_zero, zero_add, hpoint] at hchord
  rwa [div_mul_eq_mul_div, div_lt_iff₀ hy, mul_comm (Real.log _)] at hchord

lemma surcharge_neg {scale x y : ℝ} (hscale : 0 < scale) (hx : 0 < x) (hxy : x < y)
    (h : surcharge scale x ≤ 0) : surcharge scale y < 0 := by
  have hslope : 0 < scale / Real.log 2 := div_pos hscale (Real.log_pos one_lt_two)
  have hchord := mul_lt_mul_of_pos_left (mul_log_lt hx hxy) hslope
  rw [surcharge_eq] at h ⊢
  nlinarith

lemma surcharge_nonpos {scale excess : ℝ} (hscale : scale ≤ Real.log 2) (h : 0 ≤ excess) :
    surcharge scale excess ≤ 0 := by
  have hslope : scale / Real.log 2 ≤ 1 := (div_le_one (Real.log_pos one_lt_two)).mpr hscale
  have hlog : Real.log (excess + 1) ≤ excess := by
    linarith [Real.log_le_sub_one_of_pos (by linarith : 0 < excess + 1)]
  have hlog' : 0 ≤ Real.log (excess + 1) := Real.log_nonneg (by linarith)
  rw [surcharge_eq]
  nlinarith

lemma surcharge_pos {scale : ℝ} (hscale : Real.log 2 < scale) :
    0 < surcharge scale ((scale / Real.log 2 - 1) / 2) := by
  have hslope : 1 < scale / Real.log 2 := (one_lt_div (Real.log_pos one_lt_two)).mpr hscale
  rw [surcharge_eq]
  set k := scale / Real.log 2
  have hlog := Real.one_sub_inv_le_log_of_pos (by linarith : 0 < (k - 1) / 2 + 1)
  have hbound : (k - 1) / 2 < k * (1 - ((k - 1) / 2 + 1)⁻¹) := by
    have hpoint : (k - 1) / 2 + 1 = (k + 1) / 2 := by ring
    rw [hpoint, inv_div, one_sub_div (by linarith), ← mul_div_assoc,
      div_lt_div_iff₀ two_pos (by linarith)]
    nlinarith
  nlinarith

lemma surcharge_nonpos_of_large {scale : ℝ} (hscale : Real.log 2 < scale) :
    surcharge scale (4 * (scale / Real.log 2) ^ 2 - 1) ≤ 0 := by
  have hslope : 1 < scale / Real.log 2 := (one_lt_div (Real.log_pos one_lt_two)).mpr hscale
  rw [surcharge_eq]
  set k := scale / Real.log 2
  -- the log of a square is twice that of its root, which is below the root itself
  have hsquare : Real.log (4 * k ^ 2 - 1 + 1) = 2 * Real.log (2 * k) := by
    rw [show 4 * k ^ 2 - 1 + 1 = (2 * k) ^ 2 by ring, Real.log_pow]
    norm_num
  have hlog := Real.log_le_sub_one_of_pos (by linarith : 0 < 2 * k)
  rw [hsquare]
  nlinarith

lemma exists_surcharge_eq_zero {scale : ℝ} (hscale : Real.log 2 < scale) :
    ∃ excess, 0 < excess ∧ surcharge scale excess = 0 := by
  have hslope : 1 < scale / Real.log 2 := (one_lt_div (Real.log_pos one_lt_two)).mpr hscale
  -- a surcharge at first, none at a point that grows with the square of the slope
  set low := (scale / Real.log 2 - 1) / 2
  set high := 4 * (scale / Real.log 2) ^ 2 - 1
  have hlow : 0 < low := by simp only [low]; linarith
  have hle : low ≤ high := by simp only [low, high]; nlinarith
  have hcontinuous : ContinuousOn (surcharge scale) (Set.Icc low high) := by
    have hlog : ContinuousOn (fun x : ℝ => Real.log (x + 1)) (Set.Icc low high) :=
      ContinuousOn.log (by fun_prop) fun x hx => by linarith [hx.1]
    refine ContinuousOn.congr ?_ fun x _ => surcharge_eq scale x
    fun_prop
  obtain ⟨excess, hmem, hzero⟩ := intermediate_value_Icc' hle hcontinuous
    ⟨surcharge_nonpos_of_large hscale, (surcharge_pos hscale).le⟩
  exact ⟨excess, hlow.trans_le hmem.1, hzero⟩

/-- Where a surcharge ends, and that it does not come back. -/
lemma exists_surcharge_nonpos_iff {scale : ℝ} (hscale : 0 < scale) :
    ∃ last, 0 ≤ last ∧ (0 < last ↔ Real.log 2 < scale) ∧ surcharge scale last = 0 ∧
      ∀ excess, 0 < excess → (surcharge scale excess ≤ 0 ↔ last ≤ excess) := by
  by_cases hlarge : Real.log 2 < scale
  · obtain ⟨last, hlast, hzero⟩ := exists_surcharge_eq_zero hlarge
    refine ⟨last, hlast.le, iff_of_true hlast hlarge, hzero, fun excess hexcess => ⟨?_, ?_⟩⟩
    · intro h
      by_contra! hlt
      exact (surcharge_neg hscale hexcess hlt h).ne hzero
    · intro hle
      obtain rfl | hlt := hle.eq_or_lt
      · exact hzero.le
      · exact (surcharge_neg hscale hlast hlt hzero.le).le
  · refine ⟨0, le_rfl, iff_of_false (lt_irrefl 0) hlarge, surcharge_zero scale,
      fun excess hexcess => ?_⟩
    exact iff_of_true (surcharge_nonpos (not_lt.mp hlarge) hexcess.le) hexcess.le

/-! ### Main results -/

theorem compressDeduction_raises :
    Scalar.compressDeduction (20 : ℝ) 5 21 = 25 ∧
      ¬∀ total knee scale : ℝ, 0 ≤ total → 0 < knee → 0 < scale →
        Scalar.compressDeduction knee scale total ≤ total := by
  have hraised : Scalar.compressDeduction (20 : ℝ) 5 21 = 25 := by
    have hlog : Real.logb 2 2 = 1 := Real.logb_self_eq_one one_lt_two
    rw [compressDeduction_real (by norm_num), if_neg (by norm_num), surcharge, log2_real]
    norm_num [hlog]
  refine ⟨hraised, fun h => ?_⟩
  have hle := h 21 20 5 (by norm_num) (by norm_num) (by norm_num)
  rw [hraised] at hle
  norm_num at hle

/-- In exact arithmetic a deduction is compressed to no more than itself up to the knee, and again from
a crossing point on, where the logarithm has fallen back to it. Between the two, which are apart
exactly if the scale is above `log 2`, it becomes larger. -/
theorem compressDeduction_le_iff_crossing (knee : ℝ) {scale : ℝ} (hscale : 0 < scale) :
    ∃ crossing, knee ≤ crossing ∧ (knee < crossing ↔ Real.log 2 < scale) ∧
      crossing = knee + Real.logb 2 (crossing - knee + 1) * scale ∧
      ∀ total, 0 ≤ total →
        (Scalar.compressDeduction knee scale total ≤ total ↔ total ≤ knee ∨ crossing ≤ total) := by
  obtain ⟨last, hlast, hpos, hzero, hsign⟩ := exists_surcharge_nonpos_iff hscale
  refine ⟨knee + last, by linarith, by rw [lt_add_iff_pos_right, hpos], ?_, fun total htotal => ?_⟩
  · rw [surcharge, log2_real] at hzero
    rw [add_sub_cancel_left]
    linarith
  · obtain hle | hlt := le_or_gt total knee
    · rw [compressDeduction_real htotal, if_pos hle]
      exact iff_of_true le_rfl (.inl hle)
    · rw [compressDeduction_le_iff_surcharge htotal hlt, hsign _ (sub_pos.mpr hlt),
        le_sub_iff_add_le']
      exact (or_iff_right hlt.not_ge).symm

/-- Under the usual thresholds, the deductions between 20 and a point just above 42 become larger. -/
theorem compressDeduction_le_iff_crossing_usual :
    0 < exactDefaults.compressionScale ∧
      ∃ crossing, 42 < crossing ∧ crossing ≤ 43 ∧ ∀ total, 0 ≤ total →
        (Scalar.compressDeduction exactDefaults.compressionKnee exactDefaults.compressionScale
          total ≤ total ↔ total ≤ 20 ∨ crossing ≤ total) := by
  have hknee : exactDefaults.compressionKnee = 20 := by
    norm_num [exactDefaults, Thresholds.defaults, Thresholds.defaultsOf]
  have hscale : exactDefaults.compressionScale = 5 := by
    norm_num [exactDefaults, Thresholds.defaults, Thresholds.defaultsOf]
  have hpos : 0 < exactDefaults.compressionScale := by norm_num [hscale]
  obtain ⟨crossing, -, -, -, hiff⟩ :=
    compressDeduction_le_iff_crossing exactDefaults.compressionKnee hpos
  rw [hknee] at hiff ⊢
  have hbelow := hiff 42 (by norm_num)
  have habove := hiff 43 (by norm_num)
  rw [compressDeduction_le_iff_surcharge (by norm_num) (by norm_num), surcharge, log2_real,
    hscale] at hbelow habove
  -- the powers of two next to a power of 23 and one of 24 are near enough
  have hlow : 22 < Real.logb 2 23 * 5 := by
    have hlog : (45 : ℕ) ≤ Real.logb 2 (23 ^ 10 : ℕ) := logb_two_ge (by norm_num)
    rw [Nat.cast_pow, Real.logb_pow] at hlog
    push_cast at hlog
    linarith
  have hhigh : Real.logb 2 24 * 5 ≤ 23 := by
    have hlog : Real.logb 2 (24 ^ 5 : ℕ) ≤ (23 : ℕ) := logb_two_le (by norm_num) (by norm_num)
    rw [Nat.cast_pow, Real.logb_pow] at hlog
    push_cast at hlog
    linarith
  norm_num at hbelow habove
  exact ⟨hpos, crossing, not_le.mp fun hle => hlow.not_ge (hbelow.mpr hle), habove.mp hhigh, hiff⟩

end SourceGrade.Proofs
