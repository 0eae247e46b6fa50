import Mathlib.Data.List.Basic
import Mathlib.Tactic.Common
import SourceGrade.Pattern.Build

/-!
# What patterns pass over

A pattern that lets the rest of a match succeed passes from the place where it starts to the place
where the rest starts. Characters, texts and repetitions of a character pass over a part of the
text; what holds from place to place for single characters and slots holds for every pattern.
-/

namespace SourceGrade

/-- The place after a text that stands at a place, `rest` being what follows the text. -/
def Place.pass (s : Place) (u rest : Text) : Place :=
  ⟨u.reverse ++ s.before, rest, s.index + u.length, s.captures⟩

namespace Pattern

/-- Whether a pattern has a part that fills a slot. -/
def fills (slot : Slot) : Pattern → Bool
  | .seq p q | .alt p q => p.fills slot || q.fills slot
  | .many p | .ahead p => p.fills slot
  | .capture other p => other == slot || p.fills slot
  | _ => false

/-- Whether a pattern has a part that accepts a character. -/
def reads (c : Char) : Pattern → Bool
  | .one accepts => accepts c
  | .seq p q | .alt p q => p.reads c || q.reads c
  | .many p | .capture _ p | .ahead p => p.reads c
  | _ => false

/-- A relation between places that the characters and the slots of a pattern respect. -/
structure Respects (p : Pattern) (R : Place → Place → Prop) : Prop where
  refl : ∀ s, R s s
  trans : ∀ {s₁ s₂ s₃}, R s₁ s₂ → R s₂ s₃ → R s₁ s₃
  one : ∀ {s : Place} {c r}, p.reads c = true → s.after = c :: r → R s (s.pass [c] r)
  capture : ∀ {s s' : Place} {slot}, p.fills slot = true → R s s' →
    R s { s' with captures := ⟨slot, s.index, s'.index, s'.before⟩ :: s'.captures }
  ahead : ∀ {s s' : Place}, R s s' → R s { s with captures := s'.captures }

lemma Respects.and {p : Pattern} {R R' : Place → Place → Prop} (h : p.Respects R)
    (h' : p.Respects R') : p.Respects fun s s' => R s s' ∧ R' s s' where
  refl s := ⟨h.refl s, h'.refl s⟩
  trans h₁ h₂ := ⟨h.trans h₁.1 h₂.1, h'.trans h₁.2 h₂.2⟩
  one hc hafter := ⟨h.one hc hafter, h'.one hc hafter⟩
  capture hslot hs := ⟨h.capture hslot hs.1, h'.capture hslot hs.2⟩
  ahead hs := ⟨h.ahead hs.1, h'.ahead hs.2⟩

lemma Respects.part {p q : Pattern} {R : Place → Place → Prop} (h : p.Respects R)
    (hreads : ∀ c, q.reads c = true → p.reads c = true)
    (hfills : ∀ slot, q.fills slot = true → p.fills slot = true) : q.Respects R :=
  ⟨h.refl, h.trans, fun hc => h.one (hreads _ hc), fun hslot => h.capture (hfills _ hslot), h.ahead⟩

lemma Respects.parts {p q : Pattern} {R : Place → Place → Prop} (h : (p.seq q).Respects R) :
    p.Respects R ∧ q.Respects R :=
  ⟨h.part (by simp +contextual [reads]) (by simp +contextual [fills]),
    h.part (by simp +contextual [reads]) (by simp +contextual [fills])⟩

lemma Respects.captured {p : Pattern} {slot : Slot} {R : Place → Place → Prop}
    (h : (Pattern.capture slot p).Respects R) : p.Respects R :=
  h.part (fun _ h => h) (by simp +contextual [fills])

end Pattern

namespace Proofs

open Pattern

lemma pass_nil (s : Place) : s.pass [] s.after = s := rfl

lemma pass_pass (s : Place) (u v w rest : Text) :
    (s.pass u w).pass v rest = s.pass (u ++ v) rest := by
  simp [Place.pass, Nat.add_assoc]

lemma run_append (p q : Pattern) (s : Place) (next : Place → Option Place) :
    (p ++ q).run s next = p.run s fun s' => q.run s' next := rfl

/-! ### What a run that succeeds has done -/

variable {accepts : Char → Bool} {p : Pattern} {s : Place} {next : Place → Option Place} {e : Place}

lemma run_one_cons {c : Char} {r : Text} (hafter : s.after = c :: r) :
    (Pattern.one accepts).run s next = if accepts c then next (s.pass [c] r) else none := by
  obtain ⟨before, after, index, captures⟩ := s
  obtain rfl : after = c :: r := hafter
  rfl

lemma run_one (h : (Pattern.one accepts).run s next = some e) :
    ∃ c r, s.after = c :: r ∧ accepts c = true ∧ next (s.pass [c] r) = some e := by
  obtain ⟨before, after, index, captures⟩ := s
  cases after with
  | nil => cases h
  | cons c r =>
    rw [run_one_cons rfl, Option.ite_none_right_eq_some] at h
    exact ⟨c, r, rfl, h⟩

lemma run_alt {q : Pattern} (h : (p ||| q).run s next = some e) :
    p.run s next = some e ∨ q.run s next = some e := by
  have hrun : (Pattern.alt p q).run s next = some e := h
  rw [run_alt_eq, Option.or_eq_some_iff] at hrun
  exact hrun.imp_right And.right

lemma run_many_related {R : Place → Place → Prop} (hrefl : ∀ s, R s s)
    (htrans : ∀ {s₁ s₂ s₃}, R s₁ s₂ → R s₂ s₃ → R s₁ s₃)
    (hround : ∀ {s : Place} {next : Place → Option Place} {e : Place}, p.run s next = some e →
      ∃ s', R s s' ∧ next s' = some e)
    (h : (Pattern.many p).run s next = some e) : ∃ s', R s s' ∧ next s' = some e := by
  rw [run_many_eq] at h
  -- induction on the text that bounds the rounds, whatever place they have reached
  generalize s.after = bound at h
  induction bound generalizing s with
  | nil => exact ⟨s, hrefl s, h⟩
  | cons c bound ih =>
    rw [rounds_cons, Option.or_eq_some_iff] at h
    rcases h with hrun | ⟨-, hstop⟩
    · obtain ⟨s₁, h₁, hrun⟩ := hround hrun
      obtain ⟨s₂, h₂, hnext⟩ := ih (Option.ite_none_left_eq_some.mp hrun).2
      exact ⟨s₂, htrans h₁ h₂, hnext⟩
    · exact ⟨s, hrefl s, hstop⟩

lemma run_ahead (h : (Pattern.ahead p).run s next = some e) :
    ∃ found, p.run s some = some found ∧ next { s with captures := found.captures } = some e := by
  rw [run_ahead_eq] at h
  exact Option.bind_eq_some_iff.mp h

lemma run_notAhead (h : (Pattern.notAhead p).run s next = some e) : next s = some e := by
  rw [run_notAhead_eq] at h
  exact (Option.ite_none_left_eq_some.mp h).2

/-- What the characters and slots of a pattern respect holds from the place where the pattern starts
to the place where the rest of the match starts. -/
theorem run_related {R : Place → Place → Prop} (hp : p.Respects R) (h : p.run s next = some e) :
    ∃ s', R s s' ∧ next s' = some e := by
  induction p generalizing s next e with
  | empty => exact ⟨s, hp.refl s, h⟩
  | one accepts =>
    obtain ⟨c, r, hafter, hc, hnext⟩ := run_one h
    exact ⟨s.pass [c] r, hp.one hc hafter, hnext⟩
  | seq p q ihp ihq =>
    obtain ⟨s₁, h₁, hrun⟩ := ihp hp.parts.1 h
    obtain ⟨s₂, h₂, hnext⟩ := ihq hp.parts.2 hrun
    exact ⟨s₂, hp.trans h₁ h₂, hnext⟩
  | alt p q ihp ihq =>
    have hparts : (p.seq q).Respects R := hp.part (fun _ h => h) fun _ h => h
    exact (run_alt h).elim (ihp hparts.parts.1) (ihq hparts.parts.2)
  | many p ih =>
    have hpart : p.Respects R := hp.part (fun _ h => h) fun _ h => h
    exact run_many_related hp.refl hp.trans (ih hpart) h
  | capture slot p ih =>
    obtain ⟨s₁, h₁, hnext⟩ := ih hp.captured h
    exact ⟨_, hp.capture (by simp [fills]) h₁, hnext⟩
  | ahead p ih =>
    obtain ⟨found, hfound, hnext⟩ := run_ahead h
    obtain ⟨s₁, h₁, hs₁⟩ := ih (hp.part (fun _ h => h) fun _ h => h) hfound
    obtain rfl := Option.some.inj hs₁
    exact ⟨_, hp.ahead h₁, hnext⟩
  | notAhead p ih => exact ⟨s, hp.refl s, run_notAhead h⟩
  | notBehind sets => exact ⟨s, hp.refl s, (Option.ite_none_left_eq_some.mp h).2⟩
  | behind | wordEdge | start | finish =>
    exact ⟨s, hp.refl s, (Option.ite_none_right_eq_some.mp h).2⟩

lemma run_reads (h : p.run s next = some e) :
    ∃ u s', s.after = u ++ s'.after ∧ (∀ c ∈ u, p.reads c = true) ∧ next s' = some e := by
  have hpassed : p.Respects fun s s' => ∃ u, s.after = u ++ s'.after ∧
      ∀ c ∈ u, p.reads c = true := by
    refine ⟨fun s => ⟨[], rfl, List.forall_mem_nil _⟩, ?_, ?_, fun _ h => h,
      fun _ => ⟨[], rfl, List.forall_mem_nil _⟩⟩
    · rintro s₁ s₂ s₃ ⟨u, hu, hreads⟩ ⟨v, hv, hreads'⟩
      exact ⟨u ++ v, by rw [hu, hv, List.append_assoc], List.forall_mem_append.mpr
        ⟨hreads, hreads'⟩⟩
    · intro s c r hc hafter
      exact ⟨[c], hafter, List.forall_mem_singleton.mpr hc⟩
  obtain ⟨s', ⟨u, hu, hreads⟩, hnext⟩ := run_related hpassed h
  exact ⟨u, s', hu, hreads, hnext⟩

/-! ### Texts and choices -/

lemma run_literal {w : Text} (h : (Pattern.literal w).run s next = some e) :
    ∃ r, s.after = w ++ r ∧ next (s.pass w r) = some e := by
  induction w using Pattern.literal.induct generalizing s with
  | case1 => exact ⟨s.after, rfl, h⟩
  | case2 c =>
    obtain ⟨d, r, hafter, hd, hnext⟩ := run_one h
    obtain rfl := eq_of_beq hd
    exact ⟨r, hafter, hnext⟩
  | case3 c d w ih =>
    have hrun : (Pattern.one (· == c)).run s (fun s' => (literal (d :: w)).run s' next) =
        some e := h
    obtain ⟨a, r, hafter, ha, hseq⟩ := run_one hrun
    obtain rfl := eq_of_beq ha
    obtain ⟨r', hr, hnext⟩ := ih hseq
    refine ⟨r', ?_, ?_⟩
    · rw [hafter]
      exact congrArg (a :: ·) hr
    · rwa [pass_pass] at hnext

lemma isSome_run_alt {q : Pattern} (h : (p.run s next).isSome) :
    ((p ||| q).run s next).isSome := by
  change ((Pattern.alt p q).run s next).isSome
  rw [run_alt_eq, Option.or_of_isSome h]
  exact h

/-! ### Repetitions of a character -/

lemma rounds_one_cons (d : Char) (bound : Text) {c : Char} {r : Text} (hafter : s.after = c :: r) :
    rounds (Pattern.one accepts).run next (d :: bound) s =
      if accepts c then (rounds (Pattern.one accepts).run next bound (s.pass [c] r)).or (next s)
      else next s := by
  rw [rounds_cons, run_one_cons hafter]
  by_cases hc : accepts c = true
  · rw [if_pos hc, if_pos hc, if_neg (show (s.pass [c] r).index ≠ s.index from Nat.succ_ne_self _)]
  · rw [if_neg hc, if_neg hc, Option.none_or]

lemma run_many_one (h : (Pattern.many (.one accepts)).run s next = some e) :
    ∃ u r, s.after = u ++ r ∧ (∀ c ∈ u, accepts c = true) ∧ next (s.pass u r) = some e := by
  rw [run_many_eq] at h
  generalize hbound : s.after = bound at h
  have hstop : next s = some e → ∃ u r, s.after = u ++ r ∧ (∀ c ∈ u, accepts c = true) ∧
      next (s.pass u r) = some e := fun h => ⟨[], s.after, rfl, List.forall_mem_nil _, h⟩
  rw [← hbound]
  induction bound generalizing s with
  | nil => exact hstop h
  | cons c bound ih =>
    rw [rounds_one_cons c bound hbound] at h
    split at h
    · next hc =>
      rcases Option.or_eq_some_iff.mp h with h | ⟨-, h⟩
      · obtain ⟨u, r, hr, hu, hnext⟩ := ih rfl h
          fun h => ⟨[], bound, rfl, List.forall_mem_nil _, h⟩
        refine ⟨c :: u, r, ?_, List.forall_mem_cons.mpr ⟨hc, hu⟩, by rwa [pass_pass] at hnext⟩
        rw [hbound]
        exact congrArg (c :: ·) hr
      · exact hstop h
    · exact hstop h

lemma run_many_one_greedy
    (h : (next (s.pass (s.after.takeWhile accepts) (s.after.dropWhile accepts))).isSome) :
    (Pattern.many (.one accepts)).run s next =
      next (s.pass (s.after.takeWhile accepts) (s.after.dropWhile accepts)) := by
  rw [run_many_eq]
  generalize hbound : s.after = bound at h ⊢
  induction bound generalizing s with
  | nil =>
    change next s = _
    rw [← pass_nil s, hbound]
    rfl
  | cons c bound ih =>
    rw [rounds_one_cons c bound hbound]
    by_cases hc : accepts c = true
    · rw [if_pos hc]
      rw [List.takeWhile_cons_of_pos hc, List.dropWhile_cons_of_pos hc] at h ⊢
      have hpass : ∀ u r, (s.pass [c] bound).pass u r = s.pass (c :: u) r :=
        fun u r => pass_pass s [c] u bound r
      rw [ih rfl (by rwa [hpass]), hpass, Option.or_of_isSome h]
    · rw [if_neg hc, List.takeWhile_cons_of_neg hc, List.dropWhile_cons_of_neg hc, ← hbound]
      rfl

lemma run_many_one_exact {u r : Text} (hafter : s.after = u ++ r)
    (hu : ∀ c ∈ u, accepts c = true) (hr : ∀ c ∈ r.head?, accepts c = false)
    (h : (next (s.pass u r)).isSome) :
    (Pattern.many (.one accepts)).run s next = next (s.pass u r) := by
  have hrest : r.takeWhile accepts = [] ∧ r.dropWhile accepts = r := by
    cases r with
    | nil => exact ⟨rfl, rfl⟩
    | cons c r => simp [hr c rfl]
  have htake : s.after.takeWhile accepts = u := by
    rw [hafter, List.takeWhile_append_of_pos hu, hrest.1, List.append_nil]
  have hdrop : s.after.dropWhile accepts = r := by
    rw [hafter, List.dropWhile_append_of_pos hu, hrest.2]
  rw [run_many_one_greedy (by rwa [htake, hdrop]), htake, hdrop]

end Proofs

end SourceGrade
