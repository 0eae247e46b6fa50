import Mathlib.Data.List.Basic
import SourceGrade.Text.Basic

/-!
# The order of texts

Texts are in the lexicographic order of their code points.
-/

namespace SourceGrade.Proofs

lemma textLe_iff (s t : Text) :
    Text.le s t = true ↔ s = t ∨ List.Lex (fun c d => c.val < d.val) s t := by
  induction s generalizing t with
  | nil =>
    cases t with
    | nil => simp [Text.le]
    | cons d t => simp [Text.le]
  | cons c s ih =>
    cases t with
    | nil => simp [Text.le]
    | cons d t =>
      simp only [Text.le, Bool.or_eq_true, Bool.and_eq_true, decide_eq_true_eq, beq_iff_eq, ih,
        List.cons_lex_cons_iff, List.cons.injEq]
      tauto

lemma textLe_refl (t : Text) : Text.le t t = true := (textLe_iff t t).mpr (.inl rfl)

lemma textLe_total (s t : Text) : Text.le s t = true ∨ Text.le t s = true := by
  induction s generalizing t with
  | nil => exact .inl rfl
  | cons c s ih =>
    cases t with
    | nil => exact .inr rfl
    | cons d t =>
      simp only [Text.le, Bool.or_eq_true, Bool.and_eq_true, decide_eq_true_eq, beq_iff_eq]
      rcases Nat.lt_trichotomy c.val.toNat d.val.toNat with hlt | heq | hgt
      · exact .inl (.inl hlt)
      · obtain rfl : c = d := Char.ext (UInt32.toNat_inj.mp heq)
        exact (ih t).imp (fun h => .inr ⟨rfl, h⟩) fun h => .inr ⟨rfl, h⟩
      · exact .inr (.inl hgt)

lemma textLe_trans {s t u : Text} (h : Text.le s t = true) (h' : Text.le t u = true) :
    Text.le s u = true := by
  induction s generalizing t u with
  | nil => rfl
  | cons c s ih =>
    cases t with
    | nil => cases h
    | cons d t =>
      cases u with
      | nil => cases h'
      | cons e u =>
        simp only [Text.le, Bool.or_eq_true, Bool.and_eq_true, decide_eq_true_eq,
          beq_iff_eq] at h h' ⊢
        obtain hlt | ⟨rfl, h⟩ := h
        · obtain hlt' | ⟨rfl, -⟩ := h'
          · exact .inl (UInt32.lt_trans hlt hlt')
          · exact .inl hlt
        · obtain hlt' | ⟨rfl, h'⟩ := h'
          · exact .inl hlt'
          · exact .inr ⟨rfl, ih h h'⟩

end SourceGrade.Proofs
