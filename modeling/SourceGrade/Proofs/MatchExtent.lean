import Mathlib.Algebra.Order.Group.Nat
import Mathlib.Tactic.Common
import SourceGrade.Proofs.PatternPasses

/-!
# Where matches lie

A pattern is run over a text from place to place. The places reached are places of the text, none
before the one it started from, and a slot holds a part of the text between two of them.
-/

namespace SourceGrade

/-- A slot that was filled with a part of a text. -/
structure Capture.Of (t : Text) (c : Capture) : Prop where
  start_le : c.start ≤ c.stop
  stop_le : c.stop ≤ t.length
  before_eq : c.before = (t.take c.stop).reverse

/-- A place of a text, with slots that hold parts of it. -/
structure Place.Of (t : Text) (s : Place) : Prop where
  text_eq : s.before.reverse ++ s.after = t
  index_eq : s.index = s.before.length
  captures : ∀ c ∈ s.captures, c.Of t

lemma Capture.Of.length_text_le {t : Text} {c : Capture} (h : c.Of t) :
    c.text.length ≤ t.length := by
  unfold Capture.text
  rw [List.length_reverse, List.length_take, h.before_eq, List.length_reverse, List.length_take]
  omega

lemma Place.Of.before_eq {t : Text} {s : Place} (h : s.Of t) :
    s.before = (t.take s.index).reverse := by
  rw [← h.text_eq, h.index_eq, ← List.length_reverse, List.take_left, List.reverse_reverse]

lemma Place.Of.index_le {t : Text} {s : Place} (h : s.Of t) : s.index ≤ t.length := by
  rw [h.index_eq, ← h.text_eq, List.length_append, List.length_reverse]
  omega

lemma Place.Of.pass {t u r : Text} {s : Place} (h : s.Of t) (hafter : s.after = u ++ r) :
    (s.pass u r).Of t := by
  refine ⟨?_, ?_, h.captures⟩
  · rw [← h.text_eq, hafter]
    simp [Place.pass]
  · simp [Place.pass, h.index_eq, Nat.add_comm]

lemma Place.Of.fill {t : Text} {s s' : Place} (h : s'.Of t) (hle : s.index ≤ s'.index)
    (slot : Slot) :
    Place.Of t { s' with captures := ⟨slot, s.index, s'.index, s'.before⟩ :: s'.captures } :=
  ⟨h.text_eq, h.index_eq, List.forall_mem_cons.mpr ⟨⟨hle, h.index_le, h.before_eq⟩, h.captures⟩⟩

lemma Place.Of.after_eq {t : Text} {s : Place} (h : s.Of t) : s.after = t.drop s.index := by
  rw [← h.text_eq, h.index_eq, ← List.length_reverse, List.drop_left]

namespace Proofs

variable {t : Text}

lemma respects_place (p : Pattern) (t : Text) :
    p.Respects fun s s' => s.Of t → s'.Of t ∧ s.index ≤ s'.index where
  refl s hs := ⟨hs, le_rfl⟩
  trans h₁ h₂ hs := by
    obtain ⟨hs₂, hle₁⟩ := h₁ hs
    obtain ⟨hs₃, hle₂⟩ := h₂ hs₂
    exact ⟨hs₃, hle₁.trans hle₂⟩
  one _ hafter hs := ⟨hs.pass hafter, Nat.le_succ _⟩
  capture _ h hs := by
    obtain ⟨hs', hle⟩ := h hs
    exact ⟨hs'.fill hle _, hle⟩
  ahead h hs := ⟨⟨hs.text_eq, hs.index_eq, (h hs).1.captures⟩, le_rfl⟩

lemma respects_unfilled {p : Pattern} {slot : Slot} (hp : p.fills slot = false) :
    p.Respects fun s s' => ∀ c ∈ s'.captures, c.slot = slot → c ∈ s.captures where
  refl s c hc _ := hc
  trans h₁ h₂ c hc hslot := h₁ c (h₂ c hc hslot) hslot
  one _ _ c hc _ := hc
  capture hfills h c hc hslot := by
    rcases List.mem_cons.mp hc with rfl | hc
    · cases hslot
      exact absurd (hfills.symm.trans hp) (by decide)
    · exact h c hc hslot
  ahead h := h

/-- What lets the rest succeed after a pattern is a place of the text that is not before the one at
which the pattern started. -/
lemma run_eq_some (p : Pattern) {s : Place} {next : Place → Option Place} {e : Place}
    (hs : s.Of t) (h : p.run s next = some e) :
    ∃ s', s'.Of t ∧ s.index ≤ s'.index ∧ next s' = some e := by
  obtain ⟨s', h', hnext⟩ := run_related (respects_place p t) h
  obtain ⟨hs', hle⟩ := h' hs
  exact ⟨s', hs', hle, hnext⟩

lemma run_unfilled {slot : Slot} {p : Pattern} (hp : p.fills slot = false) {s : Place}
    {next : Place → Option Place} {e : Place} (hs : s.Of t) (h : p.run s next = some e) :
    ∃ s', s'.Of t ∧ s.index ≤ s'.index ∧ (∀ c ∈ s'.captures, c.slot = slot → c ∈ s.captures) ∧
      next s' = some e := by
  obtain ⟨s', ⟨h', hcaptures⟩, hnext⟩ :=
    run_related ((respects_place p t).and (respects_unfilled hp)) h
  obtain ⟨hs', hle⟩ := h' hs
  exact ⟨s', hs', hle, hcaptures, hnext⟩

lemma matchAt_captures (p : Pattern) {s : Place} {m : Match} (hs : s.Of t)
    (h : p.matchAt s = some m) : ∀ c ∈ m.captures, c.Of t := by
  obtain ⟨e, he, rfl⟩ := Option.map_eq_some_iff.mp h
  obtain ⟨s', hs', -, hs'e⟩ := run_eq_some p hs he
  obtain rfl := Option.some.inj hs'e
  exact hs'.captures

lemma exists_matchAt_of_search (p : Pattern) {m : Match} (h : p.search t = some m) :
    ∃ s : Place, s.Of t ∧ s.captures = [] ∧ p.matchAt s = some m := by
  suffices hfrom : ∀ (after before : Text) (index : Nat), (Place.mk before after index []).Of t →
      p.searchFrom before index after = some m →
        ∃ s : Place, s.Of t ∧ s.captures = [] ∧ p.matchAt s = some m by
    exact hfrom t [] 0 ⟨rfl, rfl, by simp⟩ h
  intro after
  induction after with
  | nil =>
    intro before index hs hm
    exact ⟨_, hs, rfl, hm⟩
  | cons c r ih =>
    intro before index hs hm
    rw [Pattern.searchFrom] at hm
    split at hm
    · next found hfound =>
      obtain rfl := Option.some.inj hm
      exact ⟨_, hs, rfl, hfound⟩
    · have hnext : (Place.mk (c :: before) r (index + 1) []).Of t :=
        Place.Of.pass (u := [c]) hs rfl
      exact ih (c :: before) (index + 1) hnext hm

lemma search_captures (p : Pattern) {m : Match} (h : p.search t = some m) :
    ∀ c ∈ m.captures, c.Of t := by
  obtain ⟨s, hs, -, hm⟩ := exists_matchAt_of_search p h
  exact matchAt_captures p hs hm

lemma length_all_le (p : Pattern) (t : Text) : (p.all t).length ≤ t.length + 1 := by
  suffices hfrom : ∀ (after before : Text) (index skip : Nat),
      (p.allFrom before index skip after).length ≤ after.length + 1 from hfrom t [] 0 0
  intro after
  induction after with
  | nil =>
    intro before index skip
    cases skip with
    | zero =>
      rw [Pattern.allFrom]
      cases p.matchAt ⟨before, [], index, []⟩ <;> simp
    | succ skip => simp [Pattern.allFrom]
  | cons c r ih =>
    intro before index skip
    cases skip with
    | zero =>
      rw [Pattern.allFrom]
      split
      · next m _ =>
        rw [List.length_cons, List.length_cons]
        exact Nat.succ_le_succ (ih _ _ _)
      · exact (ih _ _ _).trans (Nat.le_succ _)
    | succ skip =>
      rw [Pattern.allFrom]
      exact (ih _ _ _).trans (Nat.le_succ _)

end Proofs

end SourceGrade
