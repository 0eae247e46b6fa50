import Mathlib.Data.List.Basic
import Mathlib.Tactic.Common
import SourceGrade.Feedback.TestCase

/-!
# Outputs that are compared

An output is compared with what was expected without blanks and in lower case. What was expected may
hold surrogates, and an output holds none: with a surrogate in it nothing is expected rightly.
-/

namespace SourceGrade

namespace CodePoints

/-- The lower case of code points, `run` being what has been read since the last surrogate, nearest
first. A surrogate has no case; texts before and after it are in lower case each by itself. -/
def lowerAfter (run : Text) : CodePoints → CodePoints
  | [] => ofText (Text.lower run.reverse)
  | .char c :: r => lowerAfter (c :: run) r
  | .surrogate unit :: r => ofText (Text.lower run.reverse) ++ .surrogate unit :: lowerAfter [] r

def lower (t : CodePoints) : CodePoints := lowerAfter [] t

/-- Code points without blanks and in lower case. -/
def compared (t : CodePoints) : CodePoints := lower (t.filter fun p => !p.char?.any Text.isBlank)

lemma ofText_injective : Function.Injective ofText :=
  List.map_injective_iff.mpr fun _ _ => CodePoint.char.inj

lemma surrogate_not_mem_ofText (unit : Nat) (t : Text) : .surrogate unit ∉ ofText t := by
  intro h
  obtain ⟨c, -, hc⟩ := List.mem_map.mp h
  cases hc

lemma ofText_or_surrogate (t : CodePoints) :
    (∃ s, t = ofText s) ∨ t.toText? = none ∧ ∃ unit, .surrogate unit ∈ t := by
  induction t with
  | nil => exact .inl ⟨[], rfl⟩
  | cons p r ih =>
    cases p with
    | surrogate unit => exact .inr ⟨rfl, unit, List.mem_cons_self⟩
    | char c =>
      obtain ⟨s, rfl⟩ | ⟨hnone, unit, h⟩ := ih
      · exact .inl ⟨c :: s, rfl⟩
      · refine .inr ⟨?_, unit, List.mem_cons_of_mem _ h⟩
        rw [toText?] at hnone ⊢
        rw [List.mapM_cons, hnone]
        rfl

/-! ### Lower case -/

lemma lowerAfter_ofText (run t : Text) :
    lowerAfter run (ofText t) = ofText (Text.lower (run.reverse ++ t)) := by
  induction t generalizing run with
  | nil => rw [List.append_nil]; rfl
  | cons c t ih =>
    change lowerAfter (c :: run) (ofText t) = _
    rw [ih, List.reverse_cons, List.append_assoc]
    rfl

lemma surrogate_mem_lowerAfter {unit : Nat} {t : CodePoints} (h : .surrogate unit ∈ t) (run : Text) :
    .surrogate unit ∈ lowerAfter run t := by
  induction t generalizing run with
  | nil => cases h
  | cons p r ih =>
    cases p with
    | char c => exact ih ((List.mem_cons.mp h).resolve_left (by simp)) _
    | surrogate unit' =>
      refine List.mem_append_right _ ?_
      obtain h | h := List.mem_cons.mp h
      · rw [h]
        exact List.mem_cons_self
      · exact List.mem_cons_of_mem _ (ih h [])

lemma compared_ofText (t : Text) : compared (ofText t) = ofText (TestCase.normalizeOutput t) := by
  have hfilter : (ofText t).filter (fun p => !p.char?.any Text.isBlank) =
      ofText (t.filter fun c => !Text.isBlank c) := by
    rw [ofText, List.filter_map]
    rfl
  rw [compared, hfilter]
  exact lowerAfter_ofText [] _

lemma surrogate_mem_compared {unit : Nat} {t : CodePoints} (h : .surrogate unit ∈ t) :
    .surrogate unit ∈ compared t :=
  surrogate_mem_lowerAfter (List.mem_filter.mpr ⟨h, rfl⟩) []

end CodePoints

namespace Proofs

open CodePoints

lemma expected_matches {actual : Text} {expected : CodePoints} :
    (expected.toText?.any fun e => TestCase.normalizeOutput actual == TestCase.normalizeOutput e) =
      true ↔ compared actual = compared expected := by
  obtain ⟨e, rfl⟩ | ⟨hnone, unit, hunit⟩ := ofText_or_surrogate expected
  · rw [toText?_ofText, compared_ofText, compared_ofText, ofText_injective.eq_iff]
    simp
  · rw [hnone, compared_ofText]
    refine ⟨fun h => absurd h Bool.false_ne_true, fun h => ?_⟩
    exact absurd (h ▸ surrogate_mem_compared hunit) (surrogate_not_mem_ofText unit _)

lemma passed_judged (t : TestCase) (actual : Text) :
    ∃ passed, (t.judged actual).passed? = some passed ∧ (passed = true ↔
      actual ≠ TestCase.executionFailed ∧ compared actual = compared t.expected) := by
  refine ⟨_, rfl, ?_⟩
  rw [Bool.and_eq_true, expected_matches, bne_iff_ne]

end Proofs

end SourceGrade
