import SourceGrade.Proofs.PatternPasses

/-!
# What slots hold

A pattern passes over texts of a certain form, whatever stands around them. A slot of a match holds
a text that one of the parts passes over which fill the slot.
-/

namespace SourceGrade

namespace Pattern

/-- A text that a pattern can pass over. What it looks at before and behind is left out. -/
def Passes : Pattern → Text → Prop
  | .one accepts, u => ∃ c, accepts c = true ∧ u = [c]
  | .seq p q, u => ∃ v w, p.Passes v ∧ q.Passes w ∧ u = v ++ w
  | .alt p q, u => p.Passes u ∨ q.Passes u
  | .many p, u => ∃ vs : List Text, (∀ v ∈ vs, p.Passes v) ∧ u = vs.flatten
  | .capture _ p, u => p.Passes u
  | _, u => u = []

/-- A text that a part of a pattern can pass over which fills a slot. -/
def FillsWith (slot : Slot) : Pattern → Text → Prop
  | .seq p q, u | .alt p q, u => p.FillsWith slot u ∨ q.FillsWith slot u
  | .many p, u | .ahead p, u => p.FillsWith slot u
  | .capture other p, u => other = slot ∧ p.Passes u ∨ p.FillsWith slot u
  | _, _ => False

/-- A pattern passes over a text from one place to another, filling slots on the way. -/
structure Reaches (p : Pattern) (s s' : Place) (u : Text) : Prop where
  passes : p.Passes u
  after_eq : s.after = u ++ s'.after
  before_eq : s'.before = u.reverse ++ s.before
  index_eq : s'.index = s.index + u.length
  captures : ∀ c ∈ s'.captures, c ∈ s.captures ∨ p.FillsWith c.slot c.text

lemma Reaches.stay {p : Pattern} {s : Place} (hp : p.Passes []) : p.Reaches s s [] :=
  ⟨hp, rfl, rfl, rfl, fun _ => .inl⟩

lemma Reaches.append {p q r : Pattern} {s s' s'' : Place} {u v : Text} (hp : p.Reaches s s' u)
    (hq : q.Reaches s' s'' v) (hr : r.Passes (u ++ v))
    (hfills : ∀ slot w, p.FillsWith slot w ∨ q.FillsWith slot w → r.FillsWith slot w) :
    r.Reaches s s'' (u ++ v) where
  passes := hr
  after_eq := by rw [hp.after_eq, hq.after_eq, List.append_assoc]
  before_eq := by rw [hq.before_eq, hp.before_eq, List.reverse_append, List.append_assoc]
  index_eq := by rw [hq.index_eq, hp.index_eq, List.length_append, Nat.add_assoc]
  captures c hc := by
    rcases hq.captures c hc with hc | hc
    · exact (hp.captures c hc).imp_right fun h => hfills _ _ (.inl h)
    · exact .inr (hfills _ _ (.inr hc))

/-- What a part reaches, a pattern reaches that passes over as much and fills the same slots. -/
lemma Reaches.mono {p q : Pattern} {s s' : Place} {u : Text} (h : p.Reaches s s' u)
    (hpasses : q.Passes u) (hfills : ∀ slot w, p.FillsWith slot w → q.FillsWith slot w) :
    q.Reaches s s' u :=
  ⟨hpasses, h.after_eq, h.before_eq, h.index_eq,
    fun c hc => (h.captures c hc).imp_right (hfills _ _)⟩

lemma Reaches.round {p : Pattern} {s s' : Place} {u : Text} (h : p.Reaches s s' u) :
    (Pattern.many p).Reaches s s' u :=
  h.mono ⟨[u], List.forall_mem_singleton.mpr h.passes, u.append_nil.symm⟩ fun _ _ h => h

lemma Reaches.rounds {p : Pattern} {s s' s'' : Place} {u v : Text}
    (h : (Pattern.many p).Reaches s s' u) (h' : (Pattern.many p).Reaches s' s'' v) :
    (Pattern.many p).Reaches s s'' (u ++ v) := by
  obtain ⟨us, hus, rfl⟩ := h.passes
  obtain ⟨vs, hvs, rfl⟩ := h'.passes
  exact h.append h' ⟨us ++ vs, List.forall_mem_append.mpr ⟨hus, hvs⟩, List.flatten_append.symm⟩
    fun _ _ h => h.elim id id

lemma Reaches.capture {p : Pattern} {s s' : Place} {u : Text} (slot : Slot) (h : p.Reaches s s' u) :
    (Pattern.capture slot p).Reaches s
      { s' with captures := ⟨slot, s.index, s'.index, s'.before⟩ :: s'.captures } u where
  passes := h.passes
  after_eq := h.after_eq
  before_eq := h.before_eq
  index_eq := h.index_eq
  captures := by
    have htext : (Capture.mk slot s.index s'.index s'.before).text = u := by
      simp [Capture.text, h.before_eq, h.index_eq]
    refine List.forall_mem_cons.mpr ⟨.inr (.inl ⟨rfl, ?_⟩), fun c hc => ?_⟩
    · rw [htext]
      exact h.passes
    · exact (h.captures c hc).imp_right .inr

lemma Reaches.ahead {p : Pattern} {s s' : Place} {u : Text} (h : p.Reaches s s' u) :
    (Pattern.ahead p).Reaches s { s with captures := s'.captures } [] :=
  ⟨rfl, rfl, rfl, rfl, h.captures⟩

end Pattern

namespace Proofs

open Pattern

theorem run_reaches {p : Pattern} {s : Place} {next : Place → Option Place} {e : Place}
    (h : p.run s next = some e) : ∃ u s', p.Reaches s s' u ∧ next s' = some e := by
  induction p generalizing s next e with
  | empty => exact ⟨[], s, .stay rfl, h⟩
  | one accepts =>
    obtain ⟨c, r, hafter, hc, hnext⟩ := run_one h
    exact ⟨[c], s.pass [c] r, ⟨⟨c, hc, rfl⟩, hafter, rfl, rfl, fun _ => .inl⟩, hnext⟩
  | seq p q ihp ihq =>
    obtain ⟨u, s₁, hp, hrun⟩ := ihp h
    obtain ⟨v, s₂, hq, hnext⟩ := ihq hrun
    exact ⟨u ++ v, s₂, hp.append hq ⟨u, v, hp.passes, hq.passes, rfl⟩ fun _ _ h => h, hnext⟩
  | alt p q ihp ihq =>
    rcases run_alt h with h | h
    · obtain ⟨u, s', hp, hnext⟩ := ihp h
      exact ⟨u, s', hp.mono (.inl hp.passes) fun _ _ => .inl, hnext⟩
    · obtain ⟨u, s', hq, hnext⟩ := ihq h
      exact ⟨u, s', hq.mono (.inr hq.passes) fun _ _ => .inr, hnext⟩
  | many p ih =>
    have hround : ∀ {s : Place} {next : Place → Option Place} {e : Place},
        p.run s next = some e → ∃ s', (∃ u, (Pattern.many p).Reaches s s' u) ∧ next s' = some e := by
      intro s next e h
      obtain ⟨u, s', hp, hnext⟩ := ih h
      exact ⟨s', ⟨u, hp.round⟩, hnext⟩
    obtain ⟨s', ⟨u, hu⟩, hnext⟩ := run_many_related
      (fun s => ⟨[], .stay ⟨[], List.forall_mem_nil _, rfl⟩⟩)
      (fun ⟨u, hu⟩ ⟨v, hv⟩ => ⟨u ++ v, hu.rounds hv⟩) hround h
    exact ⟨u, s', hu, hnext⟩
  | capture slot p ih =>
    obtain ⟨u, s', hp, hnext⟩ := ih h
    exact ⟨u, _, hp.capture slot, hnext⟩
  | ahead p ih =>
    obtain ⟨found, hfound, hnext⟩ := run_ahead h
    obtain ⟨u, s', hp, hs'⟩ := ih hfound
    obtain rfl := Option.some.inj hs'
    exact ⟨[], _, hp.ahead, hnext⟩
  | notAhead p ih => exact ⟨[], s, .stay rfl, run_notAhead h⟩
  | notBehind sets => exact ⟨[], s, .stay rfl, (Option.ite_none_left_eq_some.mp h).2⟩
  | behind | wordEdge | start | finish =>
    exact ⟨[], s, .stay rfl, (Option.ite_none_right_eq_some.mp h).2⟩

/-! ### Slots of matches -/

lemma matchAt_fillsWith {p : Pattern} {s : Place} {m : Match} (hs : s.captures = [])
    (h : p.matchAt s = some m) : ∀ c ∈ m.captures, p.FillsWith c.slot c.text := by
  obtain ⟨e, he, rfl⟩ := Option.map_eq_some_iff.mp h
  obtain ⟨u, s', hreaches, hnext⟩ := run_reaches he
  obtain rfl := Option.some.inj hnext
  intro c hc
  rcases hreaches.captures c hc with hc | hc
  · rw [hs] at hc
    cases hc
  · exact hc

lemma exists_matchAt_of_mem_all {p : Pattern} {t : Text} {m : Match} (h : m ∈ p.all t) :
    ∃ s : Place, s.captures = [] ∧ p.matchAt s = some m := by
  suffices hfrom : ∀ (after before : Text) (index skip : Nat),
      m ∈ p.allFrom before index skip after → ∃ s : Place, s.captures = [] ∧ p.matchAt s = some m by
    exact hfrom t [] 0 0 h
  intro after
  induction after with
  | nil =>
    intro before index skip hm
    cases skip with
    | zero => exact ⟨_, rfl, Option.mem_toList.mp hm⟩
    | succ skip => cases hm
  | cons c r ih =>
    intro before index skip hm
    cases skip with
    | zero =>
      rw [Pattern.allFrom] at hm
      split at hm
      · next found hfound =>
        rcases List.mem_cons.mp hm with rfl | hm
        · exact ⟨_, rfl, hfound⟩
        · exact ih _ _ _ hm
      · exact ih _ _ _ hm
    | succ skip =>
      rw [Pattern.allFrom] at hm
      exact ih _ _ _ hm

/-- What a slot of a match holds is passed over by a part that fills the slot, unless the slot is
empty. -/
theorem textOf_fillsWith {p : Pattern} {t : Text} {m : Match} (h : m ∈ p.all t) (slot : Slot) :
    m.textOf slot = [] ∨ p.FillsWith slot (m.textOf slot) := by
  obtain ⟨s, hs, hm⟩ := exists_matchAt_of_mem_all h
  unfold Match.textOf
  split
  · next c hc =>
    obtain rfl : c.slot = slot := by simpa using List.find?_some hc
    exact .inr (matchAt_fillsWith hs hm c (List.mem_of_find?_eq_some hc))
  · exact .inl rfl

/-! ### Characters -/

lemma passes_reads {p : Pattern} {u : Text} (h : p.Passes u) : ∀ c ∈ u, p.reads c = true := by
  induction p generalizing u with
  | one accepts =>
    obtain ⟨c, hc, rfl⟩ := h
    exact List.forall_mem_singleton.mpr hc
  | seq p q ihp ihq =>
    obtain ⟨v, w, hv, hw, rfl⟩ := h
    refine List.forall_mem_append.mpr ⟨fun c hc => ?_, fun c hc => ?_⟩
    · simp [reads, ihp hv c hc]
    · simp [reads, ihq hw c hc]
  | alt p q ihp ihq =>
    intro c hc
    rcases h with h | h
    · simp [reads, ihp h c hc]
    · simp [reads, ihq h c hc]
  | many p ih =>
    obtain ⟨vs, hvs, rfl⟩ := h
    intro c hc
    obtain ⟨v, hv, hc⟩ := List.mem_flatten.mp hc
    exact ih (hvs v hv) c hc
  | capture slot p ih => exact ih h
  | empty | ahead | notAhead | behind | notBehind | wordEdge | start | finish =>
    obtain rfl : u = [] := h
    exact List.forall_mem_nil _

lemma not_fillsWith {p : Pattern} {slot : Slot} (h : p.fills slot = false) (u : Text) :
    ¬p.FillsWith slot u := by
  induction p with
  | seq p q ihp ihq | alt p q ihp ihq =>
    obtain ⟨hp, hq⟩ := Bool.or_eq_false_iff.mp h
    exact fun hu => hu.elim (ihp hp) (ihq hq)
  | many p ih | ahead p ih => exact ih h
  | capture other p ih =>
    obtain ⟨hother, hp⟩ := Bool.or_eq_false_iff.mp h
    rintro (⟨rfl, -⟩ | hu)
    · simp at hother
    · exact ih hp hu
  | empty | one | notAhead | behind | notBehind | wordEdge | start | finish => exact id

variable {p q : Pattern} {slot : Slot} {u : Text}

lemma fillsWith_left (hq : q.fills slot = false) (h : (p ++ q).FillsWith slot u) :
    p.FillsWith slot u :=
  h.resolve_right (not_fillsWith hq u)

lemma fillsWith_right (hp : p.fills slot = false) (h : (p ++ q).FillsWith slot u) :
    q.FillsWith slot u :=
  h.resolve_left (not_fillsWith hp u)

lemma fillsWith_capture (hp : p.fills slot = false) (h : (capture slot p).FillsWith slot u) :
    p.Passes u :=
  (h.resolve_right (not_fillsWith hp u)).2

end Proofs

end SourceGrade
