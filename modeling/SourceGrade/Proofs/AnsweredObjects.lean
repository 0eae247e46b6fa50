import SourceGrade.Feedback.TestCase
import SourceGrade.Proofs.StrippedTexts

/-!
# Objects in answers

The object in a text reaches from the first opening brace to the last closing one, and blanks around
the text do not matter. An object that can be read is the one that is answered; without any, nothing
is answered.
-/

namespace SourceGrade

/-- A part of a text from its first opening brace to its last closing one. -/
def Braced (t part : Text) : Prop :=
  ∃ before inner after : Text, t = before ++ '{' :: (inner ++ '}' :: after) ∧
    '{' ∉ before ∧ '}' ∉ after ∧ part = '{' :: (inner ++ ['}'])

/-- A text with an object that has these members. -/
def HoldsObject (t : Text) (members : List (Text × Json)) : Prop :=
  ∃ part v, Braced t part ∧ Json.read part = .ok v ∧ v.textMembers? = some members

/-- Reading what stands between the braces of a text gives a value, or finds it malformed: no number
in it is too long, and its values are not nested too deeply. -/
def ReadsOrMalformed (t : Text) : Prop :=
  ∀ part e, Braced t part → Json.read part = .error e → e = .malformed

namespace Proofs

/-! ### Braces -/

lemma bne_of_not_mem {c : Char} {t : Text} (h : c ∉ t) : ∀ d ∈ t, (d != c) = true := by
  intro d hd
  exact bne_iff_ne.mpr (ne_of_mem_of_not_mem hd h)

lemma dropWhile_before {c : Char} {before : Text} (h : c ∉ before) (r : Text) :
    (before ++ c :: r).dropWhile (· != c) = c :: r := by
  rw [List.dropWhile_append_of_pos (bne_of_not_mem h), List.dropWhile_cons_of_neg (by simp)]

lemma bracedPart?_of_braced {t part : Text} (h : Braced t part) : bracedPart? t = some part := by
  obtain ⟨before, inner, after, rfl, hbefore, hafter, rfl⟩ := h
  have hreverse : ('{' :: (inner ++ '}' :: after)).reverse =
      after.reverse ++ '}' :: ('{' :: inner).reverse := by simp
  have hclose : '}' ∉ after.reverse := fun hmem => hafter (List.mem_reverse.mp hmem)
  rw [bracedPart?, dropWhile_before hbefore, hreverse, dropWhile_before hclose]
  simp

lemma braced_of_bracedPart? {t part : Text} (h : bracedPart? t = some part) : Braced t part := by
  have hopen : '{' ∈ t := by
    by_contra hnone
    rw [bracedPart?, List.dropWhile_eq_nil_iff.mpr (bne_of_not_mem hnone)] at h
    cases h
  obtain ⟨before, r, rfl, hbefore⟩ := List.eq_append_cons_of_mem hopen
  have hclose : '}' ∈ r := by
    by_contra hnone
    have hnone' : '}' ∉ ('{' :: r).reverse := by simpa using hnone
    rw [bracedPart?, dropWhile_before hbefore,
      List.dropWhile_eq_nil_iff.mpr (bne_of_not_mem hnone')] at h
    cases h
  obtain ⟨after, inner, hr, hafter⟩ := List.eq_append_cons_of_mem (List.mem_reverse.mpr hclose)
  have hr' : r = inner.reverse ++ '}' :: after.reverse := by
    rw [← List.reverse_reverse r, hr]
    simp
  have hbraced : Braced (before ++ '{' :: r) ('{' :: (inner.reverse ++ ['}'])) :=
    ⟨before, inner.reverse, after.reverse, by rw [hr'], hbefore,
      fun hmem => hafter (List.mem_reverse.mp hmem), rfl⟩
  obtain rfl := Option.some.inj ((bracedPart?_of_braced hbraced).symm.trans h)
  exact hbraced

lemma bracedPart?_eq_some {t part : Text} : bracedPart? t = some part ↔ Braced t part :=
  ⟨braced_of_bracedPart?, bracedPart?_of_braced⟩

/-! ### Blanks around a text -/

lemma not_mem_blanks {c : Char} (hc : Text.isBlank c = false) {w : Text}
    (hw : ∀ d ∈ w, Text.isBlank d = true) : c ∉ w := by
  intro hmem
  rw [hw c hmem] at hc
  cases hc

lemma bracedPart?_strip (t : Text) : bracedPart? (Text.strip t) = bracedPart? t := by
  obtain ⟨v, w, ht, hv, hw⟩ := strip_between_blanks t
  have hbefore {c : Char} (hc : Text.isBlank c = false) := bne_of_not_mem (not_mem_blanks hc hv)
  have hafter {c : Char} (hc : Text.isBlank c = false) := bne_of_not_mem (not_mem_blanks hc hw)
  conv_rhs => rw [ht]
  rw [bracedPart?, bracedPart?, List.dropWhile_append_of_pos (hbefore (by decide)),
    List.dropWhile_append]
  by_cases hnone : ((Text.strip t).dropWhile (· != '{')).isEmpty = true
  · rw [if_pos hnone, List.isEmpty_iff.mp hnone,
      List.dropWhile_eq_nil_iff.mpr (hafter (by decide))]
  · rw [if_neg hnone, List.reverse_append, List.dropWhile_append_of_pos]
    intro d hd
    exact hafter (by decide) d (List.mem_reverse.mp hd)

lemma braced_strip {t part : Text} : Braced (Text.strip t) part ↔ Braced t part := by
  rw [← bracedPart?_eq_some, ← bracedPart?_eq_some, bracedPart?_strip]

lemma holdsObject_strip {t : Text} {members : List (Text × Json)} :
    HoldsObject (Text.strip t) members ↔ HoldsObject t members := by
  simp only [HoldsObject, braced_strip]

lemma readsOrMalformed_strip {t : Text} : ReadsOrMalformed (Text.strip t) ↔ ReadsOrMalformed t := by
  simp only [ReadsOrMalformed, braced_strip]

/-! ### Answers -/

lemma answeredObject?_of_holdsObject {t : Text} {members : List (Text × Json)}
    (h : HoldsObject t members) : answeredObject? t = .ok (some members) := by
  obtain ⟨part, v, hpart, hread, hmembers⟩ := h
  rw [answeredObject?, bracedPart?_of_braced hpart, Option.map_some, hread]
  exact congrArg Except.ok hmembers

lemma answeredObject?_of_not_holdsObject {t : Text} (hread : ReadsOrMalformed t)
    (h : ∀ members, ¬ HoldsObject t members) : answeredObject? t = .ok none := by
  unfold answeredObject?
  cases hpart : bracedPart? t with
  | none => rfl
  | some part =>
    have hbraced := braced_of_bracedPart? hpart
    rw [Option.map_some]
    cases hvalue : Json.read part with
    | error e =>
      obtain rfl := hread part e hbraced hvalue
      rfl
    | ok v =>
      cases hmembers : v.textMembers? with
      | none => exact congrArg Except.ok hmembers
      | some members => exact absurd ⟨part, v, hbraced, hvalue, hmembers⟩ (h members)

end Proofs

end SourceGrade
