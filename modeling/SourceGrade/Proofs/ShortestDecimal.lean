import Mathlib.Data.Rat.Floor
import Mathlib.Tactic.FieldSimp
import SourceGrade.Number.Decimal
import SourceGrade.Proofs.DoubleRange

/-!
# Shortest decimals

The decimal that is written for a finite double is nearer to it than to any other double. So the
text of a double tells which double it is.
-/

namespace SourceGrade

namespace Binary

/-- The parts of a finite double: the mantissa fits, and it is filled up unless the exponent is the
least one. -/
structure Normal (b : Binary) : Prop where
  mantissa_lt : b.mantissa < 2 ^ 53
  exponent_ge : -1074 ≤ b.exponent
  exponent_le : b.exponent ≤ 971
  mantissa_ge : -1074 < b.exponent → 2 ^ 52 ≤ b.mantissa

/-- The value without its sign. -/
def magnitude (b : Binary) : ℚ := b.mantissa * 2 ^ b.exponent

/-- How far the midpoint to the double below lies, in units of the last place. -/
def belowGap (b : Binary) : ℚ := if b.mantissa = 2 ^ 52 ∧ -1074 < b.exponent then 1 / 4 else 1 / 2

/-- The midpoint to the double below. -/
def lowEnd (b : Binary) : ℚ := (b.mantissa - b.belowGap) * 2 ^ b.exponent

/-- The midpoint to the double above. -/
def highEnd (b : Binary) : ℚ := (b.mantissa + 1 / 2) * 2 ^ b.exponent

/-- No double is nearer to a number; of two that are equally near it goes to the even one. -/
structure Covers (b : Binary) (q : ℚ) : Prop where
  lowEnd_le : b.lowEnd ≤ q
  le_highEnd : q ≤ b.highEnd
  even_of_end : q = b.lowEnd ∨ q = b.highEnd → b.mantissa % 2 = 0

end Binary

namespace Proofs

open Binary (Normal Covers)

/-! ### Neighbouring doubles -/

section

variable {b c : Binary}

lemma two_zpow_pos (e : Int) : (0 : ℚ) < 2 ^ e := by positivity

lemma two_zpow_lt {e e' : Int} (h : e < e') : (2 : ℚ) * 2 ^ e ≤ 2 ^ e' := by
  calc (2 : ℚ) * 2 ^ e = 2 ^ (e + 1) := by rw [zpow_add_one₀ (by norm_num), mul_comm]
    _ ≤ 2 ^ e' := zpow_le_zpow_right₀ (by norm_num) h

lemma belowGap_le (b : Binary) : 1 / 4 ≤ b.belowGap ∧ b.belowGap ≤ 1 / 2 := by
  unfold Binary.belowGap
  split <;> norm_num

lemma magnitude_lt (hb : b.Normal) (hc : c.Normal) (h : b.exponent < c.exponent) :
    b.magnitude < c.magnitude := by
  have hmantissa : (b.mantissa : ℚ) < 2 ^ 53 := by exact_mod_cast hb.mantissa_lt
  have hnormal : (2 : ℚ) ^ 52 ≤ c.mantissa := by
    exact_mod_cast hc.mantissa_ge (lt_of_le_of_lt hb.exponent_ge h)
  calc b.magnitude < 2 ^ 53 * 2 ^ b.exponent :=
        mul_lt_mul_of_pos_right hmantissa (two_zpow_pos _)
    _ = 2 ^ 52 * (2 * 2 ^ b.exponent) := by ring
    _ ≤ c.mantissa * 2 ^ c.exponent :=
        mul_le_mul hnormal (two_zpow_lt h) (by positivity) (Nat.cast_nonneg _)

lemma parts_eq_of_magnitude (hb : b.Normal) (hc : c.Normal) (h : b.magnitude = c.magnitude) :
    b.mantissa = c.mantissa ∧ b.exponent = c.exponent := by
  rcases lt_trichotomy b.exponent c.exponent with hlt | heq | hgt
  · exact absurd h (magnitude_lt hb hc hlt).ne
  · refine ⟨?_, heq⟩
    unfold Binary.magnitude at h
    rw [heq] at h
    exact_mod_cast mul_right_cancel₀ (two_zpow_pos _).ne' h
  · exact absurd h (magnitude_lt hc hb hgt).ne'

lemma lowEnd_ge_of_exponent_lt (hb : b.Normal) (hc : c.Normal) (h : b.exponent < c.exponent) :
    (2 ^ 53 - 1 / 2) * (2 : ℚ) ^ b.exponent ≤ c.lowEnd := by
  have hge := hc.mantissa_ge (lt_of_le_of_lt hb.exponent_ge h)
  have hgap : (2 ^ 52 - 1 / 4 : ℚ) ≤ c.mantissa - c.belowGap := by
    unfold Binary.belowGap
    split
    · have hnormal : (2 : ℚ) ^ 52 ≤ c.mantissa := by exact_mod_cast hge
      linarith
    · next hne =>
      have hsucc : 2 ^ 52 + 1 ≤ c.mantissa := by
        have : c.mantissa ≠ 2 ^ 52 := fun heq => hne ⟨heq, lt_of_le_of_lt hb.exponent_ge h⟩
        omega
      have : (2 ^ 52 + 1 : ℚ) ≤ c.mantissa := by exact_mod_cast hsucc
      linarith
  calc (2 ^ 53 - 1 / 2) * (2 : ℚ) ^ b.exponent
      = (2 ^ 52 - 1 / 4) * (2 * 2 ^ b.exponent) := by ring
    _ ≤ (c.mantissa - c.belowGap) * 2 ^ c.exponent :=
      mul_le_mul hgap (two_zpow_lt h) (by positivity) (by linarith)

lemma highEnd_le_of_exponent_lt (hb : b.Normal) (hc : c.Normal) (h : b.exponent < c.exponent) :
    b.highEnd < c.lowEnd ∨ b.highEnd = c.lowEnd ∧ b.mantissa % 2 = 1 := by
  have hlow := lowEnd_ge_of_exponent_lt hb hc h
  by_cases hlast : b.mantissa = 2 ^ 53 - 1
  · have hhigh : b.highEnd = (2 ^ 53 - 1 / 2) * (2 : ℚ) ^ b.exponent := by
      unfold Binary.highEnd
      rw [hlast]
      norm_num
    rw [← hhigh] at hlow
    exact hlow.lt_or_eq.imp_right fun hmeet => ⟨hmeet, by omega⟩
  · have hmantissa : (b.mantissa : ℚ) + 1 ≤ 2 ^ 53 - 1 := by
      have := hb.mantissa_lt
      have : b.mantissa + 1 + 1 ≤ 2 ^ 53 := by omega
      have : ((b.mantissa + 1 + 1 : ℕ) : ℚ) ≤ (2 ^ 53 : ℕ) := Nat.cast_le.mpr this
      push_cast at this
      linarith
    refine .inl (lt_of_lt_of_le ?_ hlow)
    exact mul_lt_mul_of_pos_right (by linarith) (two_zpow_pos _)

lemma highEnd_le_of_exponent_eq (hb : b.Normal) (h : b.magnitude < c.magnitude)
    (heq : b.exponent = c.exponent) : b.highEnd < c.lowEnd ∨
      b.highEnd = c.lowEnd ∧ (b.mantissa % 2 = 1 ∨ c.mantissa % 2 = 1) := by
  have hmantissa : b.mantissa < c.mantissa := by
    unfold Binary.magnitude at h
    rw [heq] at h
    exact_mod_cast lt_of_mul_lt_mul_right h (two_zpow_pos _).le
  have hgap : c.belowGap = 1 / 2 := by
    unfold Binary.belowGap
    rw [if_neg]
    rintro ⟨hfirst, hexponent⟩
    have := hb.mantissa_ge (heq ▸ hexponent)
    omega
  unfold Binary.highEnd Binary.lowEnd
  rw [hgap, heq]
  rcases Nat.lt_or_ge (b.mantissa + 1) c.mantissa with hfar | hnear
  · have : (b.mantissa + 1 : ℚ) < c.mantissa := by exact_mod_cast hfar
    exact .inl (mul_lt_mul_of_pos_right (by linarith) (two_zpow_pos _))
  · obtain hsucc : c.mantissa = b.mantissa + 1 := by omega
    refine .inr ⟨?_, by omega⟩
    rw [hsucc]
    push_cast
    ring

/-- The midpoint above a double is not above the midpoint below a larger one, and where the two
meet one of the doubles is odd. -/
lemma highEnd_le_lowEnd (hb : b.Normal) (hc : c.Normal) (h : b.magnitude < c.magnitude) :
    b.highEnd < c.lowEnd ∨
      b.highEnd = c.lowEnd ∧ (b.mantissa % 2 = 1 ∨ c.mantissa % 2 = 1) := by
  rcases lt_trichotomy b.exponent c.exponent with hlt | heq | hgt
  · exact (highEnd_le_of_exponent_lt hb hc hlt).imp_right fun ⟨hmeet, hodd⟩ => ⟨hmeet, .inl hodd⟩
  · exact highEnd_le_of_exponent_eq hb h heq
  · exact absurd h (magnitude_lt hc hb hgt).le.not_gt

lemma parts_eq_of_covers (hb : b.Normal) (hc : c.Normal) {q : ℚ} (hbq : b.Covers q)
    (hcq : c.Covers q) : b.mantissa = c.mantissa ∧ b.exponent = c.exponent := by
  have hapart : ∀ {b c : Binary}, b.Normal → c.Normal → b.Covers q → c.Covers q →
      ¬b.magnitude < c.magnitude := by
    intro b c hb hc hbq hcq hlt
    obtain hstrict | ⟨hmeet, hodd⟩ := highEnd_le_lowEnd hb hc hlt
    · exact absurd (hcq.lowEnd_le.trans hbq.le_highEnd) hstrict.not_ge
    · have hend : q = b.highEnd :=
        le_antisymm hbq.le_highEnd (hmeet ▸ hcq.lowEnd_le)
      have hbeven := hbq.even_of_end (.inr hend)
      have hceven := hcq.even_of_end (.inl (hend.trans hmeet))
      omega
  exact parts_eq_of_magnitude hb hc
    (le_antisymm (not_lt.mp (hapart hc hb hcq hbq)) (not_lt.mp (hapart hb hc hbq hcq)))

end

/-! ### The place of the point -/

lemma tenTo_zpow (k : Int) : (tenTo k : ℚ) = 10 ^ k * tenTo (-k) := by
  unfold tenTo
  rcases Int.le_total 0 k with hk | hk
  · obtain ⟨m, rfl⟩ := Int.eq_ofNat_of_zero_le hk
    simp
  · obtain ⟨m, hm⟩ := Int.eq_ofNat_of_zero_le (Int.neg_nonneg_of_nonpos hk)
    obtain rfl : k = -(m : Int) := by omega
    simp

lemma two_pow_floorLog2_le (n d : Nat) (hn : 0 < n) :
    (d : ℚ) * 2 ^ Binary.floorLog2 n d ≤ n := by
  unfold Binary.floorLog2
  dsimp only
  split
  · next hle =>
    have hpos : (0 : ℚ) < twoTo (-((n.log2 : Int) - d.log2)) := by exact_mod_cast twoTo_pos _
    have hle : (d * twoTo ((n.log2 : Int) - d.log2) : ℚ) ≤
        n * twoTo (-((n.log2 : Int) - d.log2)) := by
      exact_mod_cast hle
    rw [twoTo_zpow, ← mul_assoc] at hle
    exact le_of_mul_le_mul_right hle hpos
  · have hlog : (2 : ℚ) ^ n.log2 ≤ n := by exact_mod_cast Nat.log2_self_le (by omega)
    have hd : (d : ℚ) ≤ 2 ^ (d.log2 + 1) := by exact_mod_cast Nat.lt_log2_self.le
    calc (d : ℚ) * 2 ^ ((n.log2 : Int) - d.log2 - 1)
        ≤ 2 ^ (d.log2 + 1) * 2 ^ ((n.log2 : Int) - d.log2 - 1) := by gcongr
      _ = 2 ^ n.log2 := by
        rw [← zpow_natCast, ← zpow_add₀ (by norm_num), ← zpow_natCast]
        congr 1
        push_cast
        ring
      _ ≤ n := hlog

lemma pow_le_pow_of_rate {a b m n : Nat} (h : a ^ m ≤ b ^ n) (hm : m ≠ 0) (hb : 0 < b) {i c : Nat}
    (hc : n * i ≤ m * c) : a ^ i ≤ b ^ c := by
  refine (Nat.pow_le_pow_iff_left hm).mp ?_
  calc (a ^ i) ^ m = (a ^ m) ^ i := by rw [← pow_mul, ← pow_mul, mul_comm]
    _ ≤ (b ^ n) ^ i := Nat.pow_le_pow_left h i
    _ = b ^ (n * i) := (pow_mul b n i).symm
    _ ≤ b ^ (m * c) := Nat.pow_le_pow_right hb hc
    _ = (b ^ c) ^ m := by rw [← pow_mul, mul_comm]

-- 28 / 93 and 59 / 196 are near the logarithm of 2, above and below it
lemma two_pow_le_ten_pow : 2 ^ 93 ≤ 10 ^ 28 := by norm_num

lemma ten_pow_le_two_pow : 10 ^ 59 ≤ 2 ^ 196 := by norm_num

lemma ten_pow_estimate_le {e : Int} (hlow : -1100 ≤ e) (hhigh : e ≤ 1100) :
    (10 : ℚ) ^ (e * 30103 / 100000 - 2) ≤ 2 ^ e := by
  obtain ⟨i, rfl | rfl⟩ := e.eq_nat_or_neg
  · rcases le_total ((i : Int) * 30103 / 100000 - 2) 0 with hk | hk
    · calc (10 : ℚ) ^ ((i : Int) * 30103 / 100000 - 2) ≤ 1 := zpow_le_one_of_nonpos₀ (by norm_num) hk
        _ ≤ 2 ^ (i : Int) := one_le_zpow₀ (by norm_num) (by omega)
    · obtain ⟨k, hk⟩ := Int.eq_ofNat_of_zero_le hk
      have hle := pow_le_pow_of_rate ten_pow_le_two_pow (by decide) (by decide)
        (show 196 * k ≤ 59 * i by omega)
      rw [hk, zpow_natCast, zpow_natCast]
      exact_mod_cast hle
  · obtain ⟨k, hk⟩ := Int.eq_ofNat_of_zero_le (show 0 ≤ -(-(i : Int) * 30103 / 100000 - 2) by omega)
    have hle := pow_le_pow_of_rate two_pow_le_ten_pow (by decide) (by decide)
      (show 28 * i ≤ 93 * k by omega)
    rw [← neg_neg (-(i : Int) * 30103 / 100000 - 2), hk, zpow_neg, zpow_neg, zpow_natCast,
      zpow_natCast]
    refine inv_anti₀ (by positivity) ?_
    exact_mod_cast hle

lemma decimalPoint_go_le {n m : Nat} (fuel : Nat) {k : Int}
    (h : (m : ℚ) * 10 ^ (k - 1) ≤ n) :
    (m : ℚ) * 10 ^ (Decimal.decimalPoint.go n m fuel k - 1) ≤ n := by
  induction fuel generalizing k with
  | zero => exact h
  | succ fuel ih =>
    rw [Decimal.decimalPoint.go]
    split
    · exact h
    · next hge =>
      apply ih
      have hge : (m * tenTo k : ℚ) ≤ n * tenTo (-k) := by exact_mod_cast Nat.le_of_not_lt hge
      have hpos : (0 : ℚ) < tenTo (-k) := by exact_mod_cast tenTo_pos _
      rw [tenTo_zpow, ← mul_assoc] at hge
      rw [Int.add_sub_cancel]
      exact le_of_mul_le_mul_right hge hpos

lemma decimalPoint_le {n m : Nat} (hn : 0 < n) (hlow : -1100 ≤ Binary.floorLog2 n m)
    (hhigh : Binary.floorLog2 n m ≤ 1100) :
    (m : ℚ) * 10 ^ (Decimal.decimalPoint n m - 1) ≤ n := by
  apply decimalPoint_go_le
  have hestimate := ten_pow_estimate_le hlow hhigh
  rw [show Binary.floorLog2 n m * 30103 / 100000 - 1 - 1 =
    Binary.floorLog2 n m * 30103 / 100000 - 2 by omega]
  calc (m : ℚ) * 10 ^ (Binary.floorLog2 n m * 30103 / 100000 - 2)
      ≤ m * 2 ^ Binary.floorLog2 n m := by gcongr
    _ ≤ n := two_pow_floorLog2_le n m hn

/-! ### Shortest digits -/

lemma gridNeighbours_near (n : Nat) {m : Nat} (hm : 0 < m) (k : Int) :
    let d := (Decimal.gridNeighbours n m k).headD 0
    2 * (d * 10 ^ k) * (m : ℚ) ≤ 2 * n + 10 ^ k * m ∧
      2 * (n : ℚ) ≤ 2 * (d * 10 ^ k) * m + 10 ^ k * m := by
  have hten : (0 : ℚ) < tenTo (-k) := by exact_mod_cast tenTo_pos _
  have hstep : 0 < m * tenTo k := Nat.mul_pos hm (tenTo_pos k)
  have hdivmod := Nat.div_add_mod (n * tenTo (-k)) (m * tenTo k)
  have hmod := Nat.mod_lt (n * tenTo (-k)) hstep
  have hnear : 2 * ((Decimal.gridNeighbours n m k).headD 0 * (m * tenTo k)) ≤
        2 * (n * tenTo (-k)) + m * tenTo k ∧
      2 * (n * tenTo (-k)) ≤
        2 * ((Decimal.gridNeighbours n m k).headD 0 * (m * tenTo k)) + m * tenTo k := by
    unfold Decimal.gridNeighbours
    dsimp only
    generalize n * tenTo (-k) = n' at *
    generalize m * tenTo k = m' at *
    rw [Nat.mul_comm] at hdivmod
    split
    · change 2 * (n' / m' * m') ≤ _ ∧ _ ≤ 2 * (n' / m' * m') + _
      omega
    · have hsucc : (n' / m' + 1) * m' = n' / m' * m' + m' := Nat.add_one_mul _ _
      change 2 * ((n' / m' + 1) * m') ≤ _ ∧ _ ≤ 2 * ((n' / m' + 1) * m') + _
      omega
  generalize (Decimal.gridNeighbours n m k).headD 0 = d at hnear
  obtain ⟨hle, hge⟩ := hnear
  have hle : (2 * (d * (m * tenTo k)) : ℚ) ≤ 2 * (n * tenTo (-k)) + m * tenTo k := by
    exact_mod_cast hle
  have hge : (2 * (n * tenTo (-k)) : ℚ) ≤ 2 * (d * (m * tenTo k)) + m * tenTo k := by
    exact_mod_cast hge
  rw [tenTo_zpow k] at hle hge
  constructor
  · refine le_of_mul_le_mul_right ?_ hten
    linarith
  · refine le_of_mul_le_mul_right ?_ hten
    linarith

section

variable {b : Binary}

lemma covers_of_inInterval {low high m : Nat} (hm : 0 < m) (hlow : (low : ℚ) = b.lowEnd * m)
    (hhigh : (high : ℚ) = b.highEnd * m) {k : Int} {d : Nat}
    (h : Decimal.inInterval low high m (b.mantissa % 2 == 0) k d = true) :
    b.Covers (d * 10 ^ k) := by
  have hscale : (0 : ℚ) < m * tenTo (-k) := by exact_mod_cast Nat.mul_pos hm (tenTo_pos _)
  have hvalue : (d * tenTo k * m : ℚ) = d * 10 ^ k * (m * tenTo (-k)) := by
    rw [tenTo_zpow]
    ring
  unfold Decimal.inInterval at h
  dsimp only at h
  cases heven : b.mantissa % 2 == 0 with
  | true =>
    simp only [heven, if_true, Bool.and_eq_true, decide_eq_true_eq] at h
    obtain ⟨hle, hge⟩ := h
    have hle : (low * tenTo (-k) : ℚ) ≤ d * tenTo k * m := by exact_mod_cast hle
    have hge : (d * tenTo k * m : ℚ) ≤ high * tenTo (-k) := by exact_mod_cast hge
    rw [hvalue] at hle hge
    rw [hlow, mul_assoc b.lowEnd] at hle
    rw [hhigh, mul_assoc b.highEnd] at hge
    exact ⟨le_of_mul_le_mul_right hle hscale, le_of_mul_le_mul_right hge hscale,
      fun _ => beq_iff_eq.mp heven⟩
  | false =>
    simp only [heven, Bool.false_eq_true, if_false, Bool.and_eq_true, decide_eq_true_eq] at h
    obtain ⟨hlt, hgt⟩ := h
    have hlt : (low * tenTo (-k) : ℚ) < d * tenTo k * m := by exact_mod_cast hlt
    have hgt : (d * tenTo k * m : ℚ) < high * tenTo (-k) := by exact_mod_cast hgt
    rw [hvalue] at hlt hgt
    rw [hlow, mul_assoc b.lowEnd] at hlt
    rw [hhigh, mul_assoc b.highEnd] at hgt
    have hlt := lt_of_mul_lt_mul_right hlt hscale.le
    have hgt := lt_of_mul_lt_mul_right hgt hscale.le
    exact ⟨hlt.le, hgt.le, fun hend => absurd hend (not_or.mpr ⟨hlt.ne', hgt.ne⟩)⟩

/-- A number within a twentieth of the last place is covered. -/
lemma covers_of_near {q : ℚ} (hle : q ≤ b.magnitude + 2 ^ b.exponent / 20)
    (hge : b.magnitude ≤ q + 2 ^ b.exponent / 20) : b.Covers q := by
  have hunit := two_zpow_pos b.exponent
  obtain ⟨hgap, -⟩ := belowGap_le b
  have hlow : b.lowEnd < q := by
    have : b.lowEnd ≤ b.magnitude - 1 / 4 * 2 ^ b.exponent := by
      unfold Binary.lowEnd Binary.magnitude
      rw [sub_mul]
      gcongr
    linarith
  have hhigh : q < b.highEnd := by
    have : b.highEnd = b.magnitude + 1 / 2 * 2 ^ b.exponent := by
      unfold Binary.highEnd Binary.magnitude
      ring
    linarith
  exact ⟨hlow.le, hhigh.le, fun hend => absurd hend (not_or.mpr ⟨hlow.ne', hhigh.ne⟩)⟩

lemma shortestDigits_go_covers {n m low high : Nat} {point : Int} {closed : Bool}
    (hinterval : ∀ k d, Decimal.inInterval low high m closed k d = true → b.Covers (d * 10 ^ k))
    (hlast : b.Covers (((Decimal.gridNeighbours n m (point - 18)).headD 0 : Nat) *
      10 ^ (point - 18))) (fuel digits : Nat) (hdigits : digits + fuel = 18) :
    let r := Decimal.shortestDigits.go n m low high point closed fuel digits
    b.Covers (r.1 * 10 ^ r.2) := by
  induction fuel generalizing digits with
  | zero =>
    obtain rfl : digits = 18 := hdigits
    exact hlast
  | succ fuel ih =>
    rw [Decimal.shortestDigits.go]
    dsimp only
    split
    · next d hd => exact hinterval _ _ (List.find?_some hd)
    · exact ih (digits + 1) (by omega)

lemma floorLog2_bounds (hb : b.Normal) (hpos : 0 < b.mantissa) {n m : Nat} (hn : 0 < n)
    (hm : 0 < m) (hvalue : (n : ℚ) = b.magnitude * m) :
    -1100 ≤ Binary.floorLog2 n m ∧ Binary.floorLog2 n m ≤ 1100 := by
  have hm' : (0 : ℚ) < m := by exact_mod_cast hm
  have hmantissa : (1 : ℚ) ≤ b.mantissa := by exact_mod_cast hpos
  have hmantissa' : (b.mantissa : ℚ) ≤ 2 ^ 53 := by exact_mod_cast hb.mantissa_lt.le
  have hbelow := two_pow_floorLog2_le n m hn
  have habove := lt_two_pow_floorLog2 n m hm
  rw [hvalue, mul_comm] at hbelow habove
  constructor
  · have hlt : (2 : ℚ) ^ (-1074 : Int) < 2 ^ (Binary.floorLog2 n m + 1) := by
      calc (2 : ℚ) ^ (-1074 : Int) ≤ 2 ^ b.exponent :=
            zpow_le_zpow_right₀ (by norm_num) hb.exponent_ge
        _ = 1 * 2 ^ b.exponent := (one_mul _).symm
        _ ≤ b.mantissa * 2 ^ b.exponent := by gcongr
        _ < 2 ^ (Binary.floorLog2 n m + 1) := lt_of_mul_lt_mul_left habove hm'.le
    have := (zpow_lt_zpow_iff_right₀ (by norm_num)).mp hlt
    omega
  · have hle : (2 : ℚ) ^ Binary.floorLog2 n m ≤ 2 ^ (1024 : Int) := by
      calc (2 : ℚ) ^ Binary.floorLog2 n m ≤ b.mantissa * 2 ^ b.exponent :=
            le_of_mul_le_mul_right hbelow hm'
        _ ≤ 2 ^ 53 * 2 ^ (971 : Int) := by
          gcongr
          · norm_num
          · exact hb.exponent_le
        _ = 2 ^ (1024 : Int) := by
          rw [← zpow_natCast, ← zpow_add₀ (by norm_num)]
          rfl
    have := (zpow_le_zpow_iff_right₀ (by norm_num)).mp hle
    omega

lemma gridNeighbours_covers (hb : b.Normal) (hpos : 0 < b.mantissa) {n m : Nat} (hn : 0 < n)
    (hm : 0 < m) (hvalue : (n : ℚ) = b.magnitude * m) :
    b.Covers (((Decimal.gridNeighbours n m (Decimal.decimalPoint n m - 18)).headD 0 : Nat) *
      10 ^ (Decimal.decimalPoint n m - 18)) := by
  have hm' : (0 : ℚ) < m := by exact_mod_cast hm
  have hmantissa : (b.mantissa : ℚ) ≤ 2 ^ 53 := by exact_mod_cast hb.mantissa_lt.le
  obtain ⟨hlow, hhigh⟩ := floorLog2_bounds hb hpos hn hm hvalue
  have hpoint := decimalPoint_le hn hlow hhigh
  have hnear := gridNeighbours_near n hm (Decimal.decimalPoint n m - 18)
  dsimp only at hnear
  generalize (Decimal.gridNeighbours n m (Decimal.decimalPoint n m - 18)).headD 0 = d at hnear ⊢
  generalize Decimal.decimalPoint n m = point at hpoint hnear ⊢
  have hstep : (10 : ℚ) ^ (point - 18) ≤ 2 ^ b.exponent / 10 := by
    rw [hvalue, mul_comm] at hpoint
    calc (10 : ℚ) ^ (point - 18) = 10 ^ (point - 1) / 10 ^ 17 := by
          rw [show point - 18 = point - 1 - 17 by ring, zpow_sub₀ (by norm_num)]
          norm_num
      _ ≤ b.magnitude / 10 ^ 17 := by
          gcongr
          exact le_of_mul_le_mul_right hpoint hm'
      _ ≤ 2 ^ 53 * 2 ^ b.exponent / 10 ^ 17 := by
          unfold Binary.magnitude
          gcongr
      _ ≤ 2 ^ b.exponent / 10 := by
          have hunit := two_zpow_pos b.exponent
          linarith
  rw [hvalue] at hnear
  obtain ⟨hle, hge⟩ := hnear
  apply covers_of_near
  · have hle : 2 * (d * (10 : ℚ) ^ (point - 18)) ≤
        2 * b.magnitude + 10 ^ (point - 18) := by
      refine le_of_mul_le_mul_right ?_ hm'
      linarith
    linarith
  · have hge : 2 * b.magnitude ≤ 2 * (d * (10 : ℚ) ^ (point - 18)) + 10 ^ (point - 18) := by
      refine le_of_mul_le_mul_right ?_ hm'
      linarith
    linarith

lemma shortestDigits_covers (hb : b.Normal) (hpos : 0 < b.mantissa) :
    let r := Decimal.shortestDigits b.mantissa b.exponent
    b.Covers (r.1 * 10 ^ r.2) := by
  have hm : 0 < 4 * twoTo (-b.exponent) := Nat.mul_pos (by decide) (twoTo_pos _)
  have hn : 0 < 4 * b.mantissa * twoTo b.exponent :=
    Nat.mul_pos (Nat.mul_pos (by decide) hpos) (twoTo_pos _)
  have hvalue : ((4 * b.mantissa * twoTo b.exponent : ℕ) : ℚ) =
      b.magnitude * (4 * twoTo (-b.exponent) : ℕ) := by
    push_cast
    rw [twoTo_zpow, Binary.magnitude]
    ring
  have hhigh : (((4 * b.mantissa + 2) * twoTo b.exponent : ℕ) : ℚ) =
      b.highEnd * (4 * twoTo (-b.exponent) : ℕ) := by
    push_cast
    rw [twoTo_zpow, Binary.highEnd]
    ring
  have hlow : (((4 * b.mantissa - (if b.mantissa = twoTo 52 ∧ -1074 < b.exponent then 1 else 2)) *
      twoTo b.exponent : ℕ) : ℚ) = b.lowEnd * (4 * twoTo (-b.exponent) : ℕ) := by
    have htwo : twoTo 52 = 2 ^ 52 := rfl
    rw [Binary.lowEnd, Binary.belowGap, htwo]
    split
    · rw [Nat.cast_mul, Nat.cast_sub (by omega), twoTo_zpow]
      push_cast
      ring
    · rw [Nat.cast_mul, Nat.cast_sub (by omega), twoTo_zpow]
      push_cast
      ring
  unfold Decimal.shortestDigits
  apply shortestDigits_go_covers (fun k d => covers_of_inInterval hm hlow hhigh) _ 17 1 rfl
  exact gridNeighbours_covers hb hpos hn hm hvalue

end

end Proofs

end SourceGrade
