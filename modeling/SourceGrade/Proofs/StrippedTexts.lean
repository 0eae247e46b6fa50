import Mathlib.Data.List.TakeWhile
import Mathlib.Tactic.Common
import SourceGrade.Text.Basic

/-!
# Stripped texts

A text without the blanks around it is what stands between them, so that nothing but blanks is lost.
-/

namespace SourceGrade.Proofs

lemma stripRight_append_blanks (t : Text) :
    ∃ w, t = Text.stripRight t ++ w ∧ ∀ c ∈ w, Text.isBlank c = true := by
  induction t with
  | nil => exact ⟨[], rfl, List.forall_mem_nil _⟩
  | cons c r ih =>
    obtain ⟨w, hr, hw⟩ := ih
    rw [Text.stripRight]
    cases hstrip : Text.stripRight r with
    | nil =>
      rw [hstrip, List.nil_append] at hr
      by_cases hc : Text.isBlank c = true
      · exact ⟨c :: w, by simp [hc, hr], List.forall_mem_cons.mpr ⟨hc, hw⟩⟩
      · exact ⟨w, by simp [hc, hr], hw⟩
    | cons d s =>
      rw [hstrip] at hr
      exact ⟨w, by rw [hr]; rfl, hw⟩

lemma stripRight_length_le (t : Text) : (Text.stripRight t).length ≤ t.length := by
  obtain ⟨w, ht, -⟩ := stripRight_append_blanks t
  calc (Text.stripRight t).length ≤ (Text.stripRight t ++ w).length := by
        rw [List.length_append]
        exact Nat.le_add_right _ _
    _ = t.length := by rw [← ht]

lemma mem_of_mem_stripRight {t : Text} {c : Char} (hc : c ∈ Text.stripRight t) : c ∈ t := by
  obtain ⟨w, ht, -⟩ := stripRight_append_blanks t
  rw [ht]
  exact List.mem_append_left w hc

lemma strip_between_blanks (t : Text) :
    ∃ v w, t = v ++ (Text.strip t ++ w) ∧ (∀ c ∈ v, Text.isBlank c = true) ∧
      ∀ c ∈ w, Text.isBlank c = true := by
  obtain ⟨w, hw, hblanks⟩ := stripRight_append_blanks (Text.stripLeft t)
  refine ⟨t.takeWhile Text.isBlank, w, ?_, fun c hc => List.mem_takeWhile_imp hc, hblanks⟩
  rw [Text.strip, ← hw]
  exact List.takeWhile_append_dropWhile.symm

lemma exists_of_strip_ne_nil {t : Text} (h : Text.strip t ≠ []) :
    ∃ c ∈ t, Text.isBlank c = false := by
  by_contra hblank
  apply h
  have hall : ∀ c ∈ t, Text.isBlank c = true := by
    intro c hc
    by_contra hne
    exact hblank ⟨c, hc, by simpa using hne⟩
  rw [Text.strip, Text.stripLeft, List.dropWhile_eq_nil_iff.mpr hall]
  rfl

end SourceGrade.Proofs
