import Mathlib.Tactic.Common
import SourceGrade.Configuration.Active
import SourceGrade.Scoring.Aggregation

/-!
# Amounts that are doubles

Arithmetic on doubles gives doubles: no operation on them leaves a number out. So the deductions of
an aggregation are doubles whenever the thresholds behind them are.
-/

namespace SourceGrade

/-- Whole numbers and doubles put to use as thresholds. -/
def Thresholds.typed (t : Thresholds Int Float) : ActiveThresholds :=
  t.map Setting.whole Amount.real

namespace Proofs

/-- An amount that is a double. -/
def IsReal (a : Amount) : Prop := ∃ x, a = .real x

namespace IsReal

lemma real (x : Float) : IsReal (.real x) := ⟨x, rfl⟩

lemma ofRatio (n : Int) (d : Nat) : IsReal (Scalar.ofRatio n d) := ⟨_, rfl⟩

lemma ofInt (n : Int) : IsReal (Scalar.ofInt n) := ofRatio n 1

lemma ofNat (n : Nat) : IsReal (Scalar.ofNat n) := ofRatio n 1

variable {a b : Amount}

lemma add (ha : IsReal a) (hb : IsReal b) : IsReal (a + b) := by
  obtain ⟨x, rfl⟩ := ha
  obtain ⟨y, rfl⟩ := hb
  exact ⟨x + y, rfl⟩

lemma sub (ha : IsReal a) (hb : IsReal b) : IsReal (a - b) := by
  obtain ⟨x, rfl⟩ := ha
  obtain ⟨y, rfl⟩ := hb
  exact ⟨x - y, rfl⟩

lemma mul (ha : IsReal a) (hb : IsReal b) : IsReal (a * b) := by
  obtain ⟨x, rfl⟩ := ha
  obtain ⟨y, rfl⟩ := hb
  exact ⟨x * y, rfl⟩

lemma div (ha : IsReal a) (hb : IsReal b) : IsReal (a / b) := by
  obtain ⟨x, rfl⟩ := ha
  obtain ⟨y, rfl⟩ := hb
  exact ⟨x / y, rfl⟩

lemma log2 (ha : IsReal a) : IsReal (Scalar.log2 a) := by
  obtain ⟨x, rfl⟩ := ha
  exact ⟨x.log2, rfl⟩

lemma max (ha : IsReal a) (hb : IsReal b) : IsReal (Scalar.max a b) := by
  unfold Scalar.max
  split
  · exact ha
  · split
    · exact hb
    · exact add ha hb

lemma min (ha : IsReal a) (hb : IsReal b) : IsReal (Scalar.min a b) := by
  unfold Scalar.min
  split
  · exact ha
  · split
    · exact hb
    · exact add ha hb

lemma finiteOr (ha : IsReal a) (hb : IsReal b) : IsReal (Scalar.finiteOr a b) := by
  unfold Scalar.finiteOr
  split
  · exact hb
  · exact ha

lemma foldl {f : Amount → Amount → Amount} (hf : ∀ a b, IsReal a → IsReal b → IsReal (f a b))
    {xs : List Amount} (ha : IsReal a) (hxs : ∀ x ∈ xs, IsReal x) : IsReal (xs.foldl f a) := by
  induction xs generalizing a with
  | nil => exact ha
  | cons x xs ih =>
    obtain ⟨hx, hxs⟩ := List.forall_mem_cons.mp hxs
    exact ih (hf a x ha hx) hxs

variable {xs : List Amount} (hxs : ∀ x ∈ xs, IsReal x)

include hxs

lemma sum : IsReal (Scalar.sum xs) := foldl (fun _ _ => add) (ofInt 0) hxs

lemma eightSums {a b c d e f g h : Amount} (ha : IsReal a) (hb : IsReal b) (hc : IsReal c)
    (hd : IsReal d) (he : IsReal e) (hf : IsReal f) (hg : IsReal g) (hh : IsReal h) :
    IsReal (Scalar.eightSums a b c d e f g h xs) := by
  induction a, b, c, d, e, f, g, h, xs using Scalar.eightSums.induct with
  | case1 a b c d e f g h x₁ x₂ x₃ x₄ x₅ x₆ x₇ x₈ r ih =>
    simp only [List.forall_mem_cons] at hxs
    obtain ⟨h₁, h₂, h₃, h₄, h₅, h₆, h₇, h₈, hr⟩ := hxs
    exact ih hr (add ha h₁) (add hb h₂) (add hc h₃) (add hd h₄) (add he h₅) (add hf h₆)
      (add hg h₇) (add hh h₈)
  | case2 a b c d e f g h r hr =>
    rw [Scalar.eightSums]
    · exact foldl (fun _ _ => add) (add (add (add ha hb) (add hc hd))
        (add (add he hf) (add hg hh))) hxs
    · exact hr

lemma blockSum : IsReal (Scalar.blockSum xs) := by
  unfold Scalar.blockSum
  split
  · simp only [List.forall_mem_cons] at hxs
    obtain ⟨h₁, h₂, h₃, h₄, h₅, h₆, h₇, h₈, hr⟩ := hxs
    exact eightSums hr h₁ h₂ h₃ h₄ h₅ h₆ h₇ h₈
  · exact sum hxs

lemma balancedSum (fuel : Nat) : IsReal (Scalar.balancedSum fuel xs) := by
  induction fuel generalizing xs with
  | zero => exact blockSum hxs
  | succ fuel ih =>
    rw [Scalar.balancedSum]
    split
    · exact blockSum hxs
    · exact add (ih fun x hx => hxs x (List.mem_of_mem_take hx))
        (ih fun x hx => hxs x (List.mem_of_mem_drop hx))

lemma mean : IsReal (Scalar.mean xs) := div (balancedSum hxs _) (ofNat _)

end IsReal

/-! ### Deductions -/

variable (t : Thresholds Int Float)

lemma issueFactor_isReal (i : Issue) : IsReal (issueFactor t.typed i) := by
  unfold issueFactor
  refine IsReal.foldl (fun _ _ => IsReal.min) (IsReal.ofInt 1) fun x hx => ?_
  obtain ⟨tag, -, htag⟩ := List.mem_filterMap.mp hx
  unfold Thresholds.tagFactor? at htag
  split at htag
  · exact ⟨_, (Option.some.inj htag).symm⟩
  · split at htag
    · exact ⟨_, (Option.some.inj htag).symm⟩
    · split at htag
      · exact ⟨_, (Option.some.inj htag).symm⟩
      · cases htag

lemma contextFactor_isReal (issues : List Issue) : IsReal (contextFactor t.typed issues) := by
  have hfactors : ∀ x ∈ issues.map (issueFactor t.typed), IsReal x := by
    intro x hx
    obtain ⟨i, -, rfl⟩ := List.mem_map.mp hx
    exact issueFactor_isReal t i
  unfold contextFactor
  split
  · exact IsReal.ofInt 1
  · exact IsReal.mean hfactors
  · exact IsReal.mul (IsReal.mean hfactors) (IsReal.real t.repeatedIssueFactor)

lemma pathFactor_isReal (issues : List Issue) (critical : Bool) :
    IsReal (pathFactor t.typed issues critical) := by
  unfold pathFactor
  split
  · exact IsReal.ofInt 1
  · have hmean : IsReal (Scalar.mean (issues.map fun i =>
        if i.context.contains ("conditional" : Text) then t.typed.conditionalPathFactor
        else Scalar.ofInt 1)) := by
      refine IsReal.mean fun x hx => ?_
      obtain ⟨i, -, rfl⟩ := List.mem_map.mp hx
      split
      · exact IsReal.real t.conditionalPathFactor
      · exact IsReal.ofInt 1
    dsimp only
    split
    · exact IsReal.max hmean (IsReal.real t.criticalPathFloor)
    · exact hmean

lemma groupDeduction_isReal (first : Issue) (others : List Issue) (critical : Bool) :
    IsReal (groupDeduction t.typed first others critical).2 := by
  have hweight : ∀ s, IsReal (t.typed.weight s) := by
    intro s
    cases s <;> exact ⟨_, rfl⟩
  have hsize : IsReal (Scalar.ofInt 1 + Scalar.log2 (Scalar.ofNat (first :: others).length)) :=
    IsReal.add (IsReal.ofInt 1) (IsReal.log2 (IsReal.ofNat _))
  exact IsReal.mul (IsReal.mul (IsReal.mul (hweight _) hsize) (contextFactor_isReal t _))
    (pathFactor_isReal t _ critical)

lemma compressDeduction_isReal {knee scale total : Amount} (hk : IsReal knee) (hs : IsReal scale)
    (ht : IsReal total) : IsReal (Scalar.compressDeduction knee scale total) := by
  have htotal : IsReal (Scalar.max (Scalar.ofInt 0) (Scalar.finiteOr (Scalar.ofInt 0) total)) :=
    IsReal.max (IsReal.ofInt 0) (IsReal.finiteOr (IsReal.ofInt 0) ht)
  unfold Scalar.compressDeduction
  dsimp only
  split
  · exact htotal
  · exact IsReal.add hk
      (IsReal.mul (IsReal.log2 (IsReal.add (IsReal.sub htotal hk) (IsReal.ofInt 1))) hs)

lemma aggregate_isReal (family : List Category) (cache : NormalizationCache)
    (issues : List Issue) : IsReal (aggregate t.typed family cache issues).1.deduction := by
  have hgroup : ∀ bucket, IsReal (groupOf t.typed bucket).deduction := by
    rintro ⟨key, first, others⟩
    exact groupDeduction_isReal t first others key.isCritical
  have hsorted : ∀ x ∈ (Listing.sorted IssueGroup.comesBefore
      ((bucketsFrom family cache [] issues).1.map (groupOf t.typed))).map (·.deduction),
      IsReal x := by
    intro x hx
    obtain ⟨g, hg, rfl⟩ := List.mem_map.mp hx
    obtain ⟨bucket, -, rfl⟩ := List.mem_map.mp ((Listing.sorted_perm _ _).mem_iff.mp hg)
    exact hgroup bucket
  exact compressDeduction_isReal (IsReal.real t.compressionKnee) (IsReal.real t.compressionScale)
    (IsReal.sum hsorted)

end Proofs

end SourceGrade
