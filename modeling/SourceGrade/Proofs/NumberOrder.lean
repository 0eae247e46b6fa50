import SourceGrade.Proofs.AcceptedThresholds
import SourceGrade.Proofs.DoubleParts

/-!
# The order of numbers

Flags, whole numbers and doubles have an order between them, unless one of them is the double that
is no number: this one compares with nothing. So a comparison that fails between numbers holds the
other way round, and tells nothing when one of the two is no number.
-/

namespace SourceGrade

namespace Comparison

/-- The comparison that holds the other way round where this one fails. -/
def dual : Comparison → Comparison
  | lt => le
  | le => lt
  | gt => ge
  | ge => gt

end Comparison

namespace Setting

/-- Whether a setting is the double that is no number. -/
def isNaN : Setting → Bool
  | real x => x.isNaN
  | _ => false

/-- A comparison holds. -/
def Holds (c : Comparison) (s t : Setting) : Prop := Comparable.compare c s t = .ok true

/-- A comparison holds or is one with no number. -/
def Unviolated (c : Comparison) (s t : Setting) : Prop :=
  s.isNaN = true ∨ t.isNaN = true ∨ Holds c s t

end Setting

namespace Proofs

/-! ### Doubles -/

section

open Float.Model (UnpackedFloat)

lemma compare_swap (a b : UnpackedFloat) : b.compare a = (a.compare b).map Ordering.swap := by
  have hthen : ∀ (d e : Int) (m n : Nat), (compare e d).then (compare n m) =
      ((compare d e).then (compare m n)).swap := by
    intro d e m n
    rw [Ordering.swap_then, ← Std.OrientedCmp.eq_swap, ← Std.OrientedCmp.eq_swap]
  -- only two doubles of the same sign have an order that their kinds do not tell
  rcases a with (_ | _) | _ | (_ | _) | ⟨_ | _, m, d, _⟩ <;>
    rcases b with (_ | _) | _ | (_ | _) | ⟨_ | _, n, e, _⟩ <;>
    first
    | rfl
    | exact congrArg some (hthen d e m n)
    | exact congrArg (fun o => some (Ordering.swap o)) (hthen d e m n)

lemma compare_isSome (a b : UnpackedFloat) : (a.compare b).isSome = (!a.isNaN && !b.isNaN) := by
  rcases a with (_ | _) | _ | (_ | _) | ⟨_ | _, _, _, _⟩ <;>
    rcases b with (_ | _) | _ | (_ | _) | ⟨_ | _, _, _, _⟩ <;> rfl

lemma lt_iff_compare (x y : Float) :
    x < y ↔ x.toModel.unpack.compare y.toModel.unpack = some .lt := by
  change decide (x.toModel < y.toModel) = true ↔ _
  rw [decide_eq_true_iff]
  change (x.toModel.unpack.compare y.toModel.unpack == some .lt) = true ↔ _
  exact beq_iff_eq

lemma beq_iff_compare (x y : Float) :
    (x == y) = true ↔ x.toModel.unpack.compare y.toModel.unpack = some .eq := by
  change (x.toModel.unpack.compare y.toModel.unpack == some .eq) = true ↔ _
  exact beq_iff_eq

lemma orderFloat?_eq (x y : Float) :
    Binary.orderFloat? x y = x.toModel.unpack.compare y.toModel.unpack := by
  unfold Binary.orderFloat?
  simp only [lt_iff_compare, beq_iff_compare, compare_swap x.toModel.unpack y.toModel.unpack]
  rcases x.toModel.unpack.compare y.toModel.unpack with _ | (_ | _ | _) <;> rfl

lemma orderFloat?_isSome (x y : Float) :
    (Binary.orderFloat? x y).isSome = (!x.isNaN && !y.isNaN) := by
  rw [orderFloat?_eq]
  exact compare_isSome _ _

end

lemma compareFloat?_isSome (x : Float) (n : Int) :
    (Binary.compareFloat? x n).isSome = !x.isNaN := by
  unfold Binary.compareFloat?
  cases hparts : Binary.ofFloat? x with
  | some b =>
    have hfinite := (ofFloat?_eq_some hparts).2.1
    rw [isFinite_eq, Bool.and_eq_true] at hfinite
    exact hfinite.1.symm
  | none => cases x.isNaN <;> rfl

/-! ### Numbers of all kinds -/

lemma holds_dual (c : Comparison) (o : Ordering) : c.dual.holds o.swap = !c.holds o := by
  cases c <;> cases o <;> rfl

lemma compare_whole_swap (m n : Int) : compare n m = (compare m n).swap := Std.OrientedCmp.eq_swap

lemma order?_swap (a b : Amount) : b.order? a = (a.order? b).map Ordering.swap := by
  cases a with
  | real x =>
    cases b with
    | real y => simp only [Amount.order?, orderFloat?_eq, compare_swap x.toModel.unpack]
    | _ => simp [Amount.order?, Amount.whole?]
  | _ =>
    cases b with
    | real y => simp [Amount.order?, Amount.whole?, Function.comp_def]
    | _ =>
      first
      | rfl
      | exact congrArg some (compare_whole_swap _ _)

lemma order?_isSome {s t : Setting} {a b : Amount} (ha : s.amount? = some a)
    (hb : t.amount? = some b) : (a.order? b).isSome = (!s.isNaN && !t.isNaN) := by
  cases s <;> cases ha <;> cases t <;> cases hb <;>
    simp [Amount.order?, Amount.whole?, orderFloat?_isSome, compareFloat?_isSome, Setting.isNaN]

lemma exists_order {s t : Setting} (hs : IsNumber s) (ht : IsNumber t) :
    ∃ o? : Option Ordering, (∀ c, Setting.compareWith c s t = .ok (o?.any c.holds)) ∧
      (∀ c, Setting.compareWith c t s = .ok ((o?.map Ordering.swap).any c.holds)) ∧
      o?.isSome = (!s.isNaN && !t.isNaN) := by
  obtain ⟨a, ha⟩ := Option.isSome_iff_exists.mp hs
  obtain ⟨b, hb⟩ := Option.isSome_iff_exists.mp ht
  have hcompare : ∀ {s t : Setting} {a b : Amount}, s.amount? = some a → t.amount? = some b →
      ∀ c, Setting.compareWith c s t = .ok ((a.order? b).any c.holds) := by
    intro s t a b ha hb c
    cases s <;> cases ha <;> cases t <;> cases hb <;> rfl
  refine ⟨a.order? b, hcompare ha hb, fun c => ?_, order?_isSome ha hb⟩
  rw [← order?_swap]
  exact hcompare hb ha c

lemma isNumber_of_isNaN {s : Setting} (h : s.isNaN = true) : IsNumber s := by
  cases s <;> first | rfl | cases h

lemma isNaN_of_holds {c : Comparison} {s t : Setting} (h : Setting.Holds c s t) :
    s.isNaN = false ∧ t.isNaN = false := by
  have hkinds : IsNumber s ↔ IsNumber t := compareWith_kinds h
  by_cases hs : IsNumber s
  · obtain ⟨o?, hst, -, hsome⟩ := exists_order hs (hkinds.mp hs)
    have hholds : o?.any c.holds = true := Except.ok.inj ((hst c).symm.trans h)
    cases o? with
    | none => cases hholds
    | some o =>
      have hnan : (!s.isNaN && !t.isNaN) = true := hsome.symm
      rw [Bool.and_eq_true, Bool.not_eq_true', Bool.not_eq_true'] at hnan
      exact hnan
  · have ht := mt hkinds.mpr hs
    exact ⟨Bool.eq_false_iff.mpr (mt isNumber_of_isNaN hs),
      Bool.eq_false_iff.mpr (mt isNumber_of_isNaN ht)⟩

lemma unviolated_of_failed {c : Comparison} {s t : Setting}
    (h : Comparable.compare c s t = .ok false) (ht : IsNumber t) :
    Setting.Unviolated c.dual t s := by
  obtain ⟨o?, hst, hts, hsome⟩ := exists_order ((compareWith_kinds h).mpr ht) ht
  cases o? with
  | none =>
    have hnan : (!s.isNaN && !t.isNaN) = false := hsome.symm
    rw [Bool.and_eq_false_iff, Bool.not_eq_false', Bool.not_eq_false'] at hnan
    exact hnan.elim (fun hs => .inr (.inl hs)) .inl
  | some o =>
    have hfails : c.holds o = false := Except.ok.inj ((hst c).symm.trans h)
    refine .inr (.inr ((hts c.dual).trans (congrArg Except.ok ?_)))
    exact (holds_dual c o).trans (congrArg not hfails)

lemma holds_of_unviolated {c : Comparison} {s t : Setting} (h : Setting.Unviolated c s t)
    (hs : s.isNaN = false) (ht : t.isNaN = false) : Setting.Holds c s t := by
  obtain hnan | hnan | h := h
  · rw [hs] at hnan
    cases hnan
  · rw [ht] at hnan
    cases hnan
  · exact h

end Proofs

end SourceGrade
