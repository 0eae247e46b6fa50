import Mathlib.Data.List.Infix
import Mathlib.Tactic.Common
import SourceGrade.Text.Basic

/-!
# Balanced texts

In a balanced text each closing mark closes an opening one before it, and none is left open. Of the
beginnings of a text at most one is balanced and followed by a closing mark: this mark closes what
was opened before the text.
-/

namespace SourceGrade

/-- A text in which no mark is closed before it was opened. -/
def NeverBelow (opening closing : Char) (t : Text) : Prop :=
  ∀ u, u <+: t → u.count closing ≤ u.count opening

/-- A text in which each closing mark closes an opening one before it, and none is left open. -/
structure Balanced (opening closing : Char) (t : Text) : Prop where
  neverBelow : NeverBelow opening closing t
  count_eq : t.count opening = t.count closing

instance (opening closing : Char) (t : Text) : Decidable (NeverBelow opening closing t) :=
  decidable_of_iff (∀ u ∈ t.inits, u.count closing ≤ u.count opening)
    (forall_congr' fun u => by rw [List.mem_inits])

instance (opening closing : Char) (t : Text) : Decidable (Balanced opening closing t) :=
  decidable_of_iff (NeverBelow opening closing t ∧ t.count opening = t.count closing)
    ⟨fun h => ⟨h.1, h.2⟩, fun h => ⟨h.neverBelow, h.count_eq⟩⟩

namespace Proofs

variable {opening closing c : Char} {t u : Text}

lemma neverBelow_nil : NeverBelow opening closing [] := by
  intro u hu
  rw [List.prefix_nil.mp hu]
  rfl

lemma neverBelow_append_singleton (ht : NeverBelow opening closing t)
    (hc : (t ++ [c]).count closing ≤ (t ++ [c]).count opening) :
    NeverBelow opening closing (t ++ [c]) := by
  intro u hu
  rcases List.prefix_concat_iff.mp hu with rfl | hu
  · exact hc
  · exact ht u hu

lemma not_prefix_of_balanced (hne : opening ≠ closing) (hu : Balanced opening closing u)
    (ht : NeverBelow opening closing t) : ¬u ++ [closing] <+: t := by
  intro hprefix
  have hle := ht (u ++ [closing]) hprefix
  have hzero : [closing].count opening = 0 := List.count_eq_zero_of_not_mem (by simpa using hne)
  rw [List.count_append, List.count_append, List.count_singleton_self, hu.count_eq, hzero] at hle
  omega

lemma append_cons_unique {α : Type} {c : α} {u u' v v' : List α} (h : u ++ c :: v = u' ++ c :: v')
    (hu : ¬u ++ [c] <+: u') (hu' : ¬u' ++ [c] <+: u) : u = u' := by
  rcases List.append_eq_append_iff.mp h with ⟨w, rfl, hw⟩ | ⟨w, rfl, hw⟩
  · cases w with
    | nil => simp
    | cons d w =>
      obtain ⟨rfl, -⟩ := List.cons.inj hw
      simp at hu
  · cases w with
    | nil => simp
    | cons d w =>
      obtain ⟨rfl, -⟩ := List.cons.inj hw
      simp at hu'

lemma balanced_unique {u' v v' : Text} (hne : opening ≠ closing) (hu : Balanced opening closing u)
    (hu' : Balanced opening closing u') (h : u ++ closing :: v = u' ++ closing :: v') : u = u' :=
  append_cons_unique h (not_prefix_of_balanced hne hu hu'.neverBelow)
    (not_prefix_of_balanced hne hu' hu.neverBelow)

end Proofs

end SourceGrade
