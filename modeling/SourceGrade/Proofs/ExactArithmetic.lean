import Mathlib.Analysis.SpecialFunctions.Log.Base
import SourceGrade.Scoring.Bounds

/-!
# Exact arithmetic

Scores may be computed in real numbers, where no result is rounded. There a sum does not depend on
the order of its terms, and a mean is a sum divided by a number of terms.
-/

namespace SourceGrade

/-- A number with a fixed number of places, rounded with halves going to the even digit. -/
noncomputable def Decimal.fixedReal (places : Nat) (x : ℝ) : Text :=
  let scaled := |x| * 10 ^ places
  let below := ⌊scaled⌋₊
  let rest := scaled - below
  let nearest := if rest < 1 / 2 ∨ rest = 1 / 2 ∧ below % 2 = 0 then below else below + 1
  (if x < 0 then "-" else "") ++ Decimal.withPoint nearest places

noncomputable instance : Scalar ℝ where
  ofRatio n d := n / d
  lt a b := decide (a < b)
  le a b := decide (a ≤ b)
  compareInt? a n := some (compare a n)
  log2 := Real.logb 2
  isFinite _ := true
  fixed := Decimal.fixedReal

namespace Proofs

@[simp] lemma ofRatio_real (n : Int) (d : Nat) : (Scalar.ofRatio n d : ℝ) = n / d := rfl

@[simp] lemma ofInt_real (n : Int) : (Scalar.ofInt n : ℝ) = n := by simp [Scalar.ofInt]

@[simp] lemma ofNat_real (n : Nat) : (Scalar.ofNat n : ℝ) = n := by simp [Scalar.ofNat]

@[simp] lemma log2_real (a : ℝ) : Scalar.log2 a = Real.logb 2 a := rfl

lemma le_real (a b : ℝ) : Scalar.le a b = decide (a ≤ b) := rfl

lemma lt_real (a b : ℝ) : Scalar.lt a b = decide (a < b) := rfl

@[simp] lemma max_real (a b : ℝ) : Scalar.max a b = max a b := by
  rw [Scalar.max, le_real, lt_real]
  rcases le_or_gt b a with h | h
  · simp [h]
  · simp [h, h.not_ge, h.le]

@[simp] lemma min_real (a b : ℝ) : Scalar.min a b = min a b := by
  rw [Scalar.min, le_real, lt_real]
  rcases le_or_gt a b with h | h
  · simp [h]
  · simp [h, h.not_ge, h.le]

@[simp] lemma whole_real (n : Int) : (Scalar.whole n : ℝ) = n := ofInt_real n

lemma finiteOr_real (default x : ℝ) : Scalar.finiteOr default x = x := rfl

lemma leInt_real (x : ℝ) (n : Int) : Scalar.leInt x n = decide (x ≤ n) := by
  have hanswer : Scalar.leInt x n = (compare x (n : ℝ) != .gt) := rfl
  rw [hanswer, Bool.eq_iff_iff, bne_iff_ne, compare_le_iff_le, decide_eq_true_iff]

lemma clampScore_real (x : ℝ) : Scalar.clampScore x = min (max x 0) 100 := by
  simp [Scalar.clampScore, Scalar.clamp, finiteOr_real]

/-! ### Logarithms -/

lemma logb_two_ge {m n : Nat} (h : 2 ^ m ≤ n) : (m : ℝ) ≤ Real.logb 2 n := by
  have h' : (2 : ℝ) ^ m ≤ n := by exact_mod_cast h
  have hlog := Real.logb_le_logb_of_le one_lt_two (by positivity) h'
  rwa [Real.logb_pow, Real.logb_self_eq_one one_lt_two, mul_one] at hlog

lemma logb_two_le {m n : Nat} (hn : 0 < n) (h : n ≤ 2 ^ m) : Real.logb 2 n ≤ m := by
  have hn' : (0 : ℝ) < n := by exact_mod_cast hn
  have h' : (n : ℝ) ≤ 2 ^ m := by exact_mod_cast h
  have hlog := Real.logb_le_logb_of_le one_lt_two hn' h'
  rwa [Real.logb_pow, Real.logb_self_eq_one one_lt_two, mul_one] at hlog

/-! ### Sums and means -/

lemma foldl_add_real (a : ℝ) (xs : List ℝ) : xs.foldl (· + ·) a = a + xs.sum := by
  induction xs generalizing a with
  | nil => simp
  | cons x xs ih => rw [List.foldl_cons, ih, List.sum_cons, add_assoc]

@[simp] lemma sum_real (xs : List ℝ) : Scalar.sum xs = xs.sum := by
  unfold Scalar.sum
  rw [foldl_add_real, ofInt_real, Int.cast_zero, zero_add]

lemma eightSums_real (a b c d e f g h : ℝ) (xs : List ℝ) :
    Scalar.eightSums a b c d e f g h xs = a + b + c + d + e + f + g + h + xs.sum := by
  induction a, b, c, d, e, f, g, h, xs using Scalar.eightSums.induct with
  | case1 a b c d e f g h x₁ x₂ x₃ x₄ x₅ x₆ x₇ x₈ r ih =>
    rw [Scalar.eightSums, ih]
    simp only [List.sum_cons]
    ring
  | case2 a b c d e f g h r hr =>
    rw [Scalar.eightSums]
    · rw [foldl_add_real]
      ring
    · exact hr

lemma blockSum_real (xs : List ℝ) : Scalar.blockSum xs = xs.sum := by
  unfold Scalar.blockSum
  split
  · rw [eightSums_real]
    simp only [List.sum_cons]
    ring
  · exact sum_real xs

lemma balancedSum_real (fuel : Nat) (xs : List ℝ) : Scalar.balancedSum fuel xs = xs.sum := by
  induction fuel generalizing xs with
  | zero => exact blockSum_real xs
  | succ fuel ih =>
    rw [Scalar.balancedSum]
    split
    · exact blockSum_real xs
    · dsimp only
      rw [ih, ih, ← List.sum_append, List.take_append_drop]

@[simp] lemma mean_real (xs : List ℝ) : Scalar.mean xs = xs.sum / xs.length := by
  rw [Scalar.mean, balancedSum_real, ofNat_real]

end Proofs

end SourceGrade
