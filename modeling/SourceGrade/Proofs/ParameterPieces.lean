import Mathlib.Tactic.Common
import SourceGrade.Declaration.Parameters
import SourceGrade.Language.Table

/-!
# Pieces of parameter lists

A parameter list is cut at exactly the commas before which no bracket is open. What was read before
such a comma has no influence on what follows it, so the parameters of a list are those of its
pieces, and the pieces joined by commas are the list.
-/

namespace SourceGrade

namespace Parameters

/-- The bracket depth at the end of a text. -/
def bracketDepth (t : Text) : Nat := t.foldl depthAfter 0

end Parameters

namespace Proofs

open Parameters

lemma splitFrom_ne_nil (depth : Nat) (t : Text) : splitFrom depth t ≠ [] := by
  cases t with
  | nil => exact List.cons_ne_nil _ _
  | cons c r =>
    rw [splitFrom]
    split
    · exact List.cons_ne_nil _ _
    · split <;> exact List.cons_ne_nil _ _

lemma splitFrom_comma (r : Text) : splitFrom 0 (',' :: r) = [] :: splitFrom 0 r := rfl

lemma splitFrom_cons {depth : Nat} {c : Char} (h : ¬(c = ',' ∧ depthAfter depth c = 0)) (r : Text) :
    ∃ p ps, splitFrom (depthAfter depth c) r = p :: ps ∧
      splitFrom depth (c :: r) = (c :: p) :: ps := by
  obtain ⟨p, ps, hr⟩ := List.exists_cons_of_ne_nil (splitFrom_ne_nil (depthAfter depth c) r)
  refine ⟨p, ps, hr, ?_⟩
  rw [splitFrom, if_neg h, hr]

lemma splitFrom_append {depth : Nat} {a : Text} (h : a.foldl depthAfter depth = 0) (b : Text) :
    splitFrom depth (a ++ ',' :: b) = splitFrom depth a ++ splitFrom 0 b := by
  induction a generalizing depth with
  | nil =>
    obtain rfl : depth = 0 := h
    rfl
  | cons c a ih =>
    have hrest := ih h
    by_cases hc : c = ',' ∧ depthAfter depth c = 0
    · obtain ⟨rfl, hdepth⟩ := hc
      obtain rfl : depth = 0 := hdepth
      rw [List.cons_append, splitFrom_comma, splitFrom_comma, List.cons_append]
      exact congrArg _ hrest
    · obtain ⟨p, ps, hp, hcons⟩ := splitFrom_cons hc a
      obtain ⟨q, qs, hq, hcons'⟩ := splitFrom_cons hc (a ++ ',' :: b)
      rw [hp, hq, List.cons_append] at hrest
      obtain ⟨rfl, rfl⟩ := List.cons.inj hrest
      rw [List.cons_append, hcons', hcons, List.cons_append]

lemma join_splitFrom (depth : Nat) (t : Text) : Text.join "," (splitFrom depth t) = t := by
  induction t generalizing depth with
  | nil => rfl
  | cons c r ih =>
    have hrest := ih (depthAfter depth c)
    by_cases hc : c = ',' ∧ depthAfter depth c = 0
    · obtain ⟨rfl, hdepth⟩ := hc
      obtain rfl : depth = 0 := hdepth
      obtain ⟨p, ps, hp⟩ := List.exists_cons_of_ne_nil (splitFrom_ne_nil 0 r)
      have hrest : Text.join "," (p :: ps) = r := hp ▸ hrest
      rw [splitFrom_comma, hp, Text.join, hrest]
      rfl
    · obtain ⟨p, ps, hp, hcons⟩ := splitFrom_cons hc r
      rw [hp] at hrest
      rw [hcons]
      cases ps with
      | nil => exact congrArg (c :: ·) hrest
      | cons q qs => exact congrArg (c :: ·) hrest

/-! ### The number of pieces -/

lemma length_splitFrom_cons (depth : Nat) (c : Char) (r : Text) :
    (splitFrom depth (c :: r)).length = (splitFrom (depthAfter depth c) r).length +
      if c = ',' ∧ depthAfter depth c = 0 then 1 else 0 := by
  by_cases hc : c = ',' ∧ depthAfter depth c = 0
  · rw [splitFrom, if_pos hc, if_pos hc, List.length_cons]
  · obtain ⟨p, ps, hp, hcons⟩ := splitFrom_cons hc r
    rw [hcons, hp, if_neg hc]
    rfl

lemma depthAfter_mono {m n : Nat} (hle : m ≤ n) (c : Char) : depthAfter m c ≤ depthAfter n c := by
  unfold depthAfter
  split <;> omega

lemma length_splitFrom_anti {m n : Nat} (hle : m ≤ n) (t : Text) :
    (splitFrom n t).length ≤ (splitFrom m t).length := by
  induction t generalizing m n with
  | nil => exact Nat.le_refl _
  | cons c r ih =>
    have hdepth := depthAfter_mono hle c
    rw [length_splitFrom_cons, length_splitFrom_cons]
    refine Nat.add_le_add (ih hdepth) ?_
    by_cases hn : c = ',' ∧ depthAfter n c = 0
    · have hm : c = ',' ∧ depthAfter m c = 0 := ⟨hn.1, Nat.le_zero.mp (hn.2 ▸ hdepth)⟩
      exact Nat.le_of_eq (by rw [if_pos hn, if_pos hm])
    · rw [if_neg hn]
      exact Nat.zero_le _

lemma length_splitFrom_append {depth : Nat} {a : Text} (h : a.foldl depthAfter depth ≠ 0)
    (b : Text) : (splitFrom depth (a ++ ',' :: b)).length + 1 =
      (splitFrom depth a).length + (splitFrom (a.foldl depthAfter depth) b).length := by
  induction a generalizing depth with
  | nil =>
    have hinside : ¬((',' : Char) = ',' ∧ depthAfter depth ',' = 0) := fun hc => h hc.2
    rw [List.nil_append, length_splitFrom_cons, if_neg hinside]
    exact Nat.add_comm _ _
  | cons c a ih =>
    have hrest := ih h
    rw [List.cons_append, length_splitFrom_cons, length_splitFrom_cons, List.foldl_cons]
    omega

/-- A comma separates pieces exactly if no bracket is open before it. -/
lemma split_append_iff (a b : Text) :
    split (a ++ ',' :: b) = split a ++ split b ↔ bracketDepth a = 0 := by
  refine ⟨fun h => ?_, fun h => splitFrom_append h b⟩
  by_contra hdepth
  have hlength := length_splitFrom_append hdepth b
  have hanti := length_splitFrom_anti (Nat.zero_le (a.foldl depthAfter 0)) b
  have heq := congrArg List.length h
  rw [List.length_append] at heq
  unfold split at heq
  omega

/-! ### The parameters of pieces -/

lemma pieces_append {a b : Text} (h : bracketDepth a = 0) (l : Language) :
    pieces l (a ++ ',' :: b) = pieces l a ++ pieces l b := by
  simp only [pieces, (split_append_iff a b).mpr h, List.filterMap_append, List.filter_append]

/-- A comma before which no bracket is open separates the parameters before it from those after it,
and no other comma separates pieces. Joined by commas, the pieces are the list. -/
theorem parameters_append_comma (l : Language) :
    (∀ a b : Text, bracketDepth a = 0 →
      names l (a ++ ',' :: b) = names l a ++ names l b ∧
        nullable l (a ++ ',' :: b) = nullable l a ++ nullable l b) ∧
      (∀ a b : Text, split (a ++ ',' :: b) = split a ++ split b ↔ bracketDepth a = 0) ∧
      ∀ t : Text, Text.join "," (split t) = t := by
  refine ⟨fun a b h => ?_, split_append_iff, join_splitFrom 0⟩
  simp only [names, nullable, pieces_append h l, List.map_append, List.filter_append, true_and]

theorem parameters_append_comma_brackets :
    bracketDepth "sizes: dict[str, int] = None" = 0 ∧
      bracketDepth "sizes: dict[str" ≠ 0 ∧
      names Language.python "sizes: dict[str, int] = None, *rest" =
        (["sizes", "rest"] : List Text) ∧
      nullable Language.python "sizes: dict[str, int] = None, *rest" =
        (["sizes"] : List Text) := by
  have hdepth : bracketDepth "sizes: dict[str, int] = None" = 0 := by decide
  obtain ⟨hnames, hnullable⟩ := (parameters_append_comma Language.python).1
    "sizes: dict[str, int] = None" " *rest" hdepth
  refine ⟨hdepth, by decide, hnames.trans ?_, hnullable.trans ?_⟩ <;> decide +kernel

end Proofs

end SourceGrade
