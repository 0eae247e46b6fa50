import SourceGrade.Proofs.ExactThresholds
import SourceGrade.Proofs.NumberOrder

/-!
# Ordered thresholds

The checks of a table of thresholds are there to keep its entries in an order: limits that rise or
fall with the grades, weights that do not fall with the severity, factors between 0 and 1. Some
checks ask whether an entry is in its place, and others whether it is out of place. The latter say
nothing against an entry that is no number. An accepted table is therefore in order exactly if it
has a number in each of these places.
-/

namespace SourceGrade

namespace Thresholds

open Comparable (whole real)

/-- The discounts for the code around issues and for the paths to them. -/
def factors (t : Thresholds Setting Setting) : List Setting :=
  [t.testCodeFactor, t.errorHandlingFactor, t.utilityCodeFactor, t.repeatedIssueFactor,
    t.conditionalPathFactor, t.criticalPathFloor]

/-- The weights of issues and the sizes of a compression, all of which should be positive. -/
def positives (t : Thresholds Setting Setting) : List Setting :=
  [t.weightMinor, t.weightMajor, t.weightCritical, t.weightBlocker, t.compressionKnee,
    t.compressionScale]

/-- The order that the entries of a table are meant to have. `Kept` is how those comparisons are
read that are only checked for being violated. -/
structure Ordered (Kept : Comparison → Setting → Setting → Prop)
    (t : Thresholds Setting Setting) : Prop where
  complexity : chain (whole 1) [(.le, t.complexityAMax), (.lt, t.complexityBMax),
    (.lt, t.complexityCMax)] = .ok true
  maintainability : chain (real 100) [(.ge, t.maintainabilityAMin), (.gt, t.maintainabilityBMin),
    (.gt, t.maintainabilityCMin), (.ge, real 0)] = .ok true
  reliability : chain (real 100) [(.ge, t.reliabilityAMin), (.gt, t.reliabilityBMin),
    (.gt, t.reliabilityCMin), (.ge, real 0)] = .ok true
  debt : chain (real 0) [(.le, t.debtAMax), (.lt, t.debtBMax), (.lt, t.debtCMax)] = .ok true
  factor : ∀ s ∈ t.factors, chain (real 0) [(.lt, s), (.le, real 1)] = .ok true
  nesting : chain (whole 0) [(.lt, t.nestingWarnDepth), (.lt, t.nestingMajorDepth)] = .ok true
  penalty : chain (real 1) [(.le, t.nestingPenaltyFactor), (.le, t.nestingSevereFactor)] = .ok true
  positive : ∀ s ∈ t.positives, Kept .lt (whole 0) s
  weight_major : Kept .le t.weightMinor t.weightMajor
  weight_critical : Kept .le t.weightMajor t.weightCritical
  weight_blocker : Kept .le t.weightCritical t.weightBlocker
  window : Kept .le (whole 2) t.duplicationWindow

end Thresholds

namespace Proofs

open Comparable (whole real)
open Setting (Holds Unviolated)
open Thresholds (Accepted Ordered anyOf chain descends)

variable {t : Thresholds Setting Setting}

lemma isNumber_whole (n : Int) : IsNumber (whole n) := rfl

lemma unviolated_of_anyOf {c : Comparison} {n : Int} {xs : List Setting}
    (h : anyOf c (whole n) xs = .ok false) : ∀ x ∈ xs, Unviolated c.dual (whole n) x := by
  induction xs with
  | nil => exact List.forall_mem_nil _
  | cons x xs ih =>
    obtain ⟨hx, hxs⟩ := anyOf_cons_eq_ok_iff.mp h
    exact List.forall_mem_cons.mpr ⟨unviolated_of_failed hx (isNumber_whole n), ih hxs⟩

lemma isNumber_of_anyOf {c : Comparison} {n : Int} {xs : List Setting}
    (h : anyOf c (whole n) xs = .ok false) : ∀ x ∈ xs, IsNumber x := by
  induction xs with
  | nil => exact List.forall_mem_nil _
  | cons x xs ih =>
    obtain ⟨hx, hxs⟩ := anyOf_cons_eq_ok_iff.mp h
    exact List.forall_mem_cons.mpr ⟨(compareWith_kinds hx).mpr (isNumber_whole n), ih hxs⟩

/-- The limits of complexity start at 1: the first was compared with the second and is a number. -/
lemma complexity_ordered (h : t.Accepted) :
    chain (whole 1) [(.le, t.complexityAMax), (.lt, t.complexityBMax), (.lt, t.complexityCMax)] =
      .ok true := by
  have horder := h.complexity_order
  have hnumber := isNaN_of_holds (chain_cons_eq_ok_iff.mp horder).1
  have hminimum := unviolated_of_failed h.complexity_minimum (isNumber_whole 1)
  exact chain_cons_eq_ok_iff.mpr ⟨holds_of_unviolated hminimum rfl hnumber.1, horder⟩

lemma ordered_of_accepted (h : t.Accepted) : t.Ordered Unviolated := by
  have hweights := unviolated_of_anyOf h.weight_sign
  have hnumbers := isNumber_of_anyOf h.weight_sign
  have hsizes := unviolated_of_anyOf h.compression_sign
  simp only [List.forall_mem_cons] at hweights hnumbers hsizes
  obtain ⟨hmajor, hrest⟩ := descends_cons_eq_ok_iff.mp h.weight_order
  obtain ⟨hcritical, hrest⟩ := descends_cons_eq_ok_iff.mp hrest
  obtain ⟨hblocker, -⟩ := descends_cons_eq_ok_iff.mp hrest
  exact {
    complexity := complexity_ordered h
    maintainability := h.maintainability_order
    reliability := h.reliability_order
    debt := h.debt_order
    factor := by
      simp only [Thresholds.factors, List.forall_mem_cons]
      exact ⟨h.testCode_range, h.errorHandling_range, h.utilityCode_range, h.repeatedIssue_range,
        h.conditionalPath_range, h.criticalPath_range, List.forall_mem_nil _⟩
    nesting := h.nesting_order
    penalty := h.penaltyFactor_order
    positive := by
      simp only [Thresholds.positives, List.forall_mem_cons]
      exact ⟨hweights.1, hweights.2.1, hweights.2.2.1, hweights.2.2.2.1, hsizes.1, hsizes.2.1,
        List.forall_mem_nil _⟩
    weight_major := unviolated_of_failed hmajor hnumbers.1
    weight_critical := unviolated_of_failed hcritical hnumbers.2.1
    weight_blocker := unviolated_of_failed hblocker hnumbers.2.2.1
    window := unviolated_of_failed h.window_minimum (isNumber_whole 2) }

/-- An accepted table is in order as far as no comparison with no number is asked for. It is in
order altogether exactly if its weights, the sizes of its compression and its window are numbers. -/
theorem accepted_ordered (t : Thresholds Setting Setting) (h : t.validate = .ok ()) :
    t.Ordered Unviolated ∧
      (t.Ordered Holds ↔ ∀ s ∈ t.duplicationWindow :: t.positives, s.isNaN = false) := by
  have hordered := ordered_of_accepted (accepted_of_validate h)
  refine ⟨hordered, fun hholds => ?_, fun hnumbers => ?_⟩
  · refine List.forall_mem_cons.mpr ⟨(isNaN_of_holds hholds.window).2, fun s hs => ?_⟩
    exact (isNaN_of_holds (hholds.positive s hs)).2
  · obtain ⟨hwindow, hpositives⟩ := List.forall_mem_cons.mp hnumbers
    have hweights := hpositives
    simp only [Thresholds.positives, List.forall_mem_cons] at hweights
    obtain ⟨hminor, hmajor, hcritical, hblocker, -⟩ := hweights
    exact { hordered with
      positive := fun s hs => holds_of_unviolated (hordered.positive s hs) rfl (hpositives s hs)
      weight_major := holds_of_unviolated hordered.weight_major hminor hmajor
      weight_critical := holds_of_unviolated hordered.weight_critical hmajor hcritical
      weight_blocker := holds_of_unviolated hordered.weight_blocker hcritical hblocker
      window := holds_of_unviolated hordered.window rfl hwindow }

theorem accepted_ordered_usual :
    Thresholds.defaultSettings.validate = .ok () ∧ Thresholds.defaultSettings.Ordered Holds := by
  have haccepted : Thresholds.defaultSettings.validate = .ok () := by decide +kernel
  have hnumbers : ∀ s ∈ Thresholds.defaultSettings.duplicationWindow ::
      Thresholds.defaultSettings.positives, s.isNaN = false := by decide +kernel
  exact ⟨haccepted, (accepted_ordered _ haccepted).2.mpr hnumbers⟩

/-- The usual thresholds with a knee that is no number. -/
def kneelessSettings : Thresholds Setting Setting :=
  { Thresholds.defaultSettings with compressionKnee := .real (0 / 0) }

/-- A knee that is no number is accepted, though it is not above zero. -/
theorem accepted_unordered :
    kneelessSettings.validate = .ok () ∧
      Comparable.compare .lt (whole 0) kneelessSettings.compressionKnee = .ok false ∧
      ¬∀ t : Thresholds Setting Setting, t.validate = .ok () → t.Ordered Holds := by
  have haccepted : kneelessSettings.validate = .ok () := by decide +kernel
  have hknee : Comparable.compare .lt (whole 0) kneelessSettings.compressionKnee = .ok false := by
    decide +kernel
  refine ⟨haccepted, hknee, fun hall => ?_⟩
  have hmem : kneelessSettings.compressionKnee ∈ kneelessSettings.positives := by
    simp [Thresholds.positives]
  have hpositive := (hall _ haccepted).positive _ hmem
  exact absurd (hpositive.symm.trans hknee) (by decide)

end Proofs

end SourceGrade
