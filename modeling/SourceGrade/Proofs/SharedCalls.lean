import SourceGrade.Cache.Sharing
import SourceGrade.Proofs.NormalizationMemory

/-!
# Calls in any order of their steps

Calls that share a memory answer what is computed for their texts, in whatever order they take their
steps and whenever the memory is cleared. A memory that is never cleared has in the end one entry for
each text that was asked for, however many calls have computed it.
-/

namespace SourceGrade

open NormalizationCache (MapsBy mapsBy_empty known_insertNew mem_known_of_find? size_eq_card)

/-! ### One call -/

namespace MemoryCall

/-- What a call has is what is computed for its text. -/
def Right (compute : Text → Text) (m : MemoryCall) : Prop :=
  match m.stage with
  | .computed value | .answered value => value = compute m.key
  | _ => True

/-- The steps that a call takes at most until it has ended. -/
def stepsLeft (m : MemoryCall) : Nat :=
  match m.stage with
  | .asking => maxSteps
  | .missing => 2
  | .computed _ => 1
  | .answered _ => 0

lemma stepsLeft_eq_zero {m : MemoryCall} : m.stepsLeft = 0 ↔ m.answer?.isSome := by
  obtain ⟨key, stage⟩ := m
  cases stage <;> simp [stepsLeft, answer?, maxSteps]

lemma answer?_eq_some {m : MemoryCall} {value : Text} :
    m.answer? = some value ↔ m.stage = .answered value := by
  obtain ⟨key, stage⟩ := m
  cases stage <;> simp [answer?]

variable (compute : Text → Text) (m : MemoryCall) (c : NormalizationCache)

lemma advance_cases :
    (∃ value, m.stage = .asking ∧ c.find? m.key = some value ∧
      m.advance compute c = ({ m with stage := .answered value }, c)) ∨
    (m.stage = .asking ∧ c.find? m.key = none ∧
      m.advance compute c = ({ m with stage := .missing }, c)) ∨
    (m.stage = .missing ∧
      m.advance compute c = ({ m with stage := .computed (compute m.key) }, c)) ∨
    (∃ value, m.stage = .computed value ∧
      m.advance compute c = ({ m with stage := .answered value }, c.insertNew m.key value)) ∨
    ∃ value, m.stage = .answered value ∧ m.advance compute c = (m, c) := by
  obtain ⟨key, stage⟩ := m
  cases stage with
  | asking =>
    cases hfind : c.find? key with
    | some value => exact .inl ⟨value, rfl, rfl, by simp [advance, hfind]⟩
    | none => exact .inr (.inl ⟨rfl, rfl, by simp [advance, hfind]⟩)
  | missing => exact .inr (.inr (.inl ⟨rfl, rfl⟩))
  | computed value => exact .inr (.inr (.inr (.inl ⟨value, rfl, rfl⟩)))
  | answered value => exact .inr (.inr (.inr (.inr ⟨value, rfl, rfl⟩)))

lemma key_advance : (m.advance compute c).1.key = m.key := by
  obtain ⟨_, -, -, h⟩ | ⟨-, -, h⟩ | ⟨-, h⟩ | ⟨_, -, h⟩ | ⟨_, -, h⟩ :=
    m.advance_cases compute c <;> rw [h]

lemma stepsLeft_advance : (m.advance compute c).1.stepsLeft ≤ m.stepsLeft - 1 := by
  obtain ⟨_, hm, -, h⟩ | ⟨hm, -, h⟩ | ⟨hm, h⟩ | ⟨_, hm, h⟩ | ⟨_, hm, h⟩ :=
    m.advance_cases compute c <;> simp [stepsLeft, h, hm, maxSteps]

lemma known_advance :
    (m.advance compute c).2.known = c.known ∨
      m.key ∉ c.known ∧ (m.advance compute c).2.known = m.key :: c.known := by
  obtain ⟨_, -, -, h⟩ | ⟨-, -, h⟩ | ⟨-, h⟩ | ⟨value, -, h⟩ | ⟨_, -, h⟩ :=
    m.advance_cases compute c <;> rw [h]
  case inr.inr.inr.inl =>
    rw [known_insertNew]
    split
    · exact .inl rfl
    · next hnew => exact .inr ⟨hnew, rfl⟩
  all_goals exact .inl rfl

variable {compute m c}

lemma nodup_known_advance (h : c.known.Nodup) : (m.advance compute c).2.known.Nodup := by
  obtain hknown | ⟨hnew, hknown⟩ := m.known_advance compute c <;> rw [hknown]
  · exact h
  · exact List.nodup_cons.mpr ⟨hnew, h⟩

lemma mem_known_advance {key : Text} (h : key ∈ c.known) : key ∈ (m.advance compute c).2.known := by
  obtain hknown | ⟨-, hknown⟩ := m.known_advance compute c <;> rw [hknown]
  · exact h
  · exact List.mem_cons_of_mem _ h

lemma of_mem_known_advance {key : Text} (h : key ∈ (m.advance compute c).2.known) :
    key = m.key ∨ key ∈ c.known := by
  obtain hknown | ⟨-, hknown⟩ := m.known_advance compute c <;> rw [hknown] at h
  · exact .inr h
  · exact List.mem_cons.mp h

lemma Right.advance (hm : m.Right compute) (hc : c.MapsBy compute) :
    (m.advance compute c).1.Right compute ∧ (m.advance compute c).2.MapsBy compute := by
  obtain ⟨value, -, hfind, h⟩ | ⟨-, -, h⟩ | ⟨-, h⟩ | ⟨value, hstage, h⟩ | ⟨_, -, h⟩ :=
    m.advance_cases compute c <;> rw [h]
  · exact ⟨hc.eq_of_find? hfind, hc⟩
  · exact ⟨trivial, hc⟩
  · exact ⟨rfl, hc⟩
  · have hvalue : value = compute m.key := by rwa [Right, hstage] at hm
    exact ⟨hvalue, hvalue ▸ hc.insertNew m.key⟩
  · exact ⟨hm, hc⟩

lemma key_mem_known_advance
    (hanswered : m.answer?.isSome → m.key ∈ c.known) (h : (m.advance compute c).1.answer?.isSome) :
    m.key ∈ (m.advance compute c).2.known := by
  obtain ⟨_, -, hfind, hstep⟩ | ⟨-, -, hstep⟩ | ⟨-, hstep⟩ | ⟨value, -, hstep⟩ | ⟨_, -, hstep⟩ :=
    m.advance_cases compute c <;> rw [hstep] at h ⊢
  · exact mem_known_of_find? hfind
  · cases h
  · cases h
  · rw [known_insertNew]
    split
    · assumption
    · exact List.mem_cons_self
  · exact hanswered h

end MemoryCall

/-! ### All calls -/

namespace Sharing

/-- The texts that are asked for. -/
def keys (s : Sharing) : List Text := s.calls.map (·.key)

/-- The memory and the calls have only what is computed. -/
structure Sound (compute : Text → Text) (s : Sharing) : Prop where
  memory : s.memory.MapsBy compute
  calls : ∀ m ∈ s.calls, m.Right compute

/-- The memory has the texts of the calls that have ended and no others than those asked for, each
once. -/
structure Kept (s : Sharing) : Prop where
  known_nodup : s.memory.known.Nodup
  known_asked : ∀ key ∈ s.memory.known, key ∈ s.keys
  answered_known : ∀ m ∈ s.calls, m.answer?.isSome → m.key ∈ s.memory.known

/-- The steps that a call takes at most until it has ended. -/
def stepsLeft (s : Sharing) (i : Nat) : Nat := (s.calls[i]?).elim 0 MemoryCall.stepsLeft

variable (compute : Text → Text) (s : Sharing)

lemma step_cases (move : Move) :
    (move = .clear ∧ s.step compute move = { s with memory := .empty }) ∨
    (∃ i, move = .call i ∧ s.calls[i]? = none ∧ s.step compute move = s) ∨
    ∃ i m, move = .call i ∧ s.calls[i]? = some m ∧ s.step compute move =
      ⟨(m.advance compute s.memory).2, s.calls.set i (m.advance compute s.memory).1⟩ := by
  cases move with
  | clear => exact .inl ⟨rfl, rfl⟩
  | call i =>
    cases hi : s.calls[i]? with
    | none => exact .inr (.inl ⟨i, rfl, hi, by rw [step, hi]⟩)
    | some m => exact .inr (.inr ⟨i, m, rfl, hi, step_call compute hi⟩)

lemma keys_step (move : Move) : (s.step compute move).keys = s.keys := by
  obtain ⟨-, h⟩ | ⟨i, -, -, h⟩ | ⟨i, m, -, hi, h⟩ := s.step_cases compute move <;> rw [h]
  · rfl
  · obtain ⟨hlt, rfl⟩ := List.getElem?_eq_some_iff.mp hi
    have hlt' : i < s.keys.length := by rwa [keys, List.length_map]
    have hkey : s.keys[i] = s.calls[i].key := List.getElem_map MemoryCall.key
    rw [keys, List.map_set, MemoryCall.key_advance, ← hkey]
    exact List.set_getElem_self hlt'

lemma forall_mem_set {p : MemoryCall → Prop} {calls : List MemoryCall} {m : MemoryCall}
    (hcalls : ∀ n ∈ calls, p n) (hm : p m) (i : Nat) : ∀ n ∈ calls.set i m, p n := by
  intro n hn
  obtain hn | rfl := List.mem_or_eq_of_mem_set hn
  · exact hcalls n hn
  · exact hm

variable {compute s}

lemma Sound.step (h : s.Sound compute) (move : Move) : (s.step compute move).Sound compute := by
  obtain ⟨-, hstep⟩ | ⟨i, -, -, hstep⟩ | ⟨i, m, -, hi, hstep⟩ := s.step_cases compute move <;>
    rw [hstep]
  · exact ⟨mapsBy_empty compute, h.calls⟩
  · exact h
  · obtain ⟨hright, hmemory⟩ := (h.calls m (List.mem_of_getElem? hi)).advance h.memory
    exact ⟨hmemory, forall_mem_set h.calls hright i⟩

lemma Kept.step (h : s.Kept) {move : Move} (hmove : move ≠ .clear) :
    (s.step compute move).Kept := by
  have hkeys := s.keys_step compute move
  obtain ⟨hclear, -⟩ | ⟨i, -, -, hstep⟩ | ⟨i, m, -, hi, hstep⟩ := s.step_cases compute move
  · exact absurd hclear hmove
  · rwa [hstep]
  · rw [hstep] at hkeys ⊢
    have hm : m ∈ s.calls := List.mem_of_getElem? hi
    have hended : (m.advance compute s.memory).1.answer?.isSome →
        (m.advance compute s.memory).1.key ∈ (m.advance compute s.memory).2.known := by
      rw [MemoryCall.key_advance]
      exact MemoryCall.key_mem_known_advance (h.answered_known m hm)
    refine ⟨MemoryCall.nodup_known_advance h.known_nodup, fun key hkey => ?_, ?_⟩
    · rw [hkeys]
      obtain rfl | hkey := MemoryCall.of_mem_known_advance hkey
      · exact List.mem_map_of_mem hm
      · exact h.known_asked key hkey
    · exact forall_mem_set
        (fun n hn hanswer => MemoryCall.mem_known_advance (h.answered_known n hn hanswer)) hended i

/-! ### Runs -/

variable (compute s)

lemma keys_run (moves : List Move) : (s.run compute moves).keys = s.keys := by
  induction moves generalizing s with
  | nil => rfl
  | cons move moves ih => exact (ih _).trans (s.keys_step compute move)

lemma stepsLeft_step (move : Move) (i : Nat) :
    (s.step compute move).stepsLeft i ≤ s.stepsLeft i - if move = .call i then 1 else 0 := by
  obtain ⟨rfl, h⟩ | ⟨j, rfl, hj, h⟩ | ⟨j, m, rfl, hj, h⟩ := s.step_cases compute move <;> rw [h]
  · exact Nat.le_refl _
  · by_cases hji : j = i
    · subst hji
      simp [stepsLeft, hj]
    · simp [hji]
  · by_cases hji : j = i
    · subst hji
      have hlt : j < s.calls.length := (List.getElem?_eq_some_iff.mp hj).1
      rw [stepsLeft, stepsLeft, hj, List.getElem?_set_self hlt, if_pos rfl]
      exact m.stepsLeft_advance compute s.memory
    · simp [stepsLeft, hji]

/-- Each step that a call takes brings it nearer to its end, whatever is done between them. -/
lemma stepsLeft_run (moves : List Move) (i : Nat) :
    (s.run compute moves).stepsLeft i ≤ s.stepsLeft i - moves.count (.call i) := by
  induction moves generalizing s with
  | nil => exact Nat.le_refl _
  | cons move moves ih =>
    have hstep := s.stepsLeft_step compute move i
    have hrest := ih (s.step compute move)
    rw [List.count_cons]
    simp only [beq_iff_eq]
    change ((s.step compute move).run compute moves).stepsLeft i ≤ _
    omega

variable {compute s}

lemma Sound.run (h : s.Sound compute) (moves : List Move) : (s.run compute moves).Sound compute := by
  induction moves generalizing s with
  | nil => exact h
  | cons move moves ih => exact ih (h.step move)

lemma Kept.run (h : s.Kept) {moves : List Move} (hmoves : .clear ∉ moves) :
    (s.run compute moves).Kept := by
  induction moves generalizing s with
  | nil => exact h
  | cons move moves ih =>
    rw [List.mem_cons, not_or] at hmoves
    exact ih (h.step (Ne.symm hmoves.1)) hmoves.2

lemma Sound.eq_of_answer? (h : s.Sound compute) {i : Nat} {key value : Text}
    (hkey : s.keys[i]? = some key) (hanswer : s.answer? i = some value) : value = compute key := by
  obtain ⟨m, hm, hvalue⟩ := Option.bind_eq_some_iff.mp hanswer
  rw [keys, List.getElem?_map, hm] at hkey
  obtain rfl := Option.some.inj hkey
  have hright := h.calls m (List.mem_of_getElem? hm)
  rwa [MemoryCall.Right, MemoryCall.answer?_eq_some.mp hvalue] at hright

lemma isSome_answer? {i : Nat} {key : Text} (hkey : s.keys[i]? = some key)
    (h : s.stepsLeft i = 0) : (s.answer? i).isSome := by
  rw [keys, List.getElem?_map] at hkey
  obtain ⟨m, hm, -⟩ := Option.map_eq_some_iff.mp hkey
  rw [stepsLeft, hm] at h
  rw [answer?, hm]
  exact MemoryCall.stepsLeft_eq_zero.mp h

lemma Kept.size (h : s.Kept) (hended : ∀ i < s.keys.length, (s.answer? i).isSome) :
    s.memory.size = s.keys.toFinset.card := by
  refine size_eq_card h.known_nodup fun key => ⟨h.known_asked key, fun hkey => ?_⟩
  obtain ⟨m, hm, rfl⟩ := List.mem_map.mp hkey
  obtain ⟨i, hi, rfl⟩ := List.mem_iff_getElem.mp hm
  refine h.answered_known _ hm ?_
  have hanswer := hended i (by rwa [keys, List.length_map])
  rwa [answer?, List.getElem?_eq_getElem hi] at hanswer

/-! ### Runs from an empty memory -/

section

variable (keys : List Text)

lemma keys_ofKeys : (ofKeys keys).keys = keys := by
  simp [Sharing.keys, ofKeys, Function.comp_def]

lemma mem_calls_ofKeys {m : MemoryCall} (h : m ∈ (ofKeys keys).calls) : m.stage = .asking := by
  obtain ⟨key, -, rfl⟩ := List.mem_map.mp h
  rfl

lemma sound_ofKeys (compute : Text → Text) : (ofKeys keys).Sound compute where
  memory := mapsBy_empty compute
  calls m hm := by
    rw [MemoryCall.Right, mem_calls_ofKeys keys hm]
    trivial

lemma kept_ofKeys : (ofKeys keys).Kept where
  known_nodup := List.nodup_nil
  known_asked _ hkey := absurd hkey List.not_mem_nil
  answered_known m hm hanswer := by
    rw [MemoryCall.answer?, mem_calls_ofKeys keys hm] at hanswer
    cases hanswer

lemma stepsLeft_ofKeys (i : Nat) : (ofKeys keys).stepsLeft i ≤ MemoryCall.maxSteps := by
  rw [stepsLeft, ofKeys, List.getElem?_map]
  cases keys[i]? with
  | none => exact Nat.zero_le _
  | some key => exact Nat.le_refl _

end

end Sharing

namespace Proofs

open Sharing

/-- Calls that share a memory, with their steps in any order and the memory cleared at any time: a
call that has taken its steps has ended, each call that has ended answers what is computed for its
text, every entry of the memory is what is computed for its text, and without a clearing the memory
has, when all calls have ended, as many entries as there are different texts asked for. -/
theorem run_answers (compute : Text → Text) (keys : List Text) (moves : List Move) :
    let s := (ofKeys keys).run compute moves
    (∀ i key, keys[i]? = some key →
      (∀ value, s.answer? i = some value → value = compute key) ∧
        (MemoryCall.maxSteps ≤ moves.count (.call i) → s.answer? i = some (compute key))) ∧
      (∀ entry ∈ s.memory.entries, entry.2 = compute entry.1) ∧
      (.clear ∉ moves → (∀ i < keys.length, (s.answer? i).isSome) →
        s.memory.size = keys.toFinset.card) := by
  intro s
  have hsound : s.Sound compute := (sound_ofKeys keys compute).run moves
  have hkeys : s.keys = keys := (keys_run compute _ moves).trans (keys_ofKeys keys)
  refine ⟨fun i key hkey => ?_, hsound.memory, fun hclear hended => ?_⟩
  · rw [← hkeys] at hkey
    refine ⟨fun value => hsound.eq_of_answer? hkey, fun hcount => ?_⟩
    have hleft : s.stepsLeft i = 0 := by
      have hrun := stepsLeft_run compute (ofKeys keys) moves i
      have hstart := stepsLeft_ofKeys keys i
      change s.stepsLeft i ≤ _ at hrun
      omega
    obtain ⟨value, hvalue⟩ := Option.isSome_iff_exists.mp (isSome_answer? hkey hleft)
    rw [hvalue, hsound.eq_of_answer? hkey hvalue]
  · have hkept : s.Kept := (kept_ofKeys keys).run hclear
    rw [← hkeys] at hended ⊢
    exact hkept.size hended

/-- Two calls that have both computed the same text before either has added it, a third one between
their steps, and a last one that finds the text. -/
def crossedMoves : List Move :=
  [.call 0, .call 2, .call 0, .call 1, .call 2, .call 2, .call 1, .call 0, .call 1, .call 3]

theorem run_answers_crossed :
    let s := (ofKeys ["Key 1", "Key 2", "Key 1", "Key 1"]).run normalizeDescription crossedMoves
    MemoryCall.maxSteps ≤ crossedMoves.count (.call 2) ∧ .clear ∉ crossedMoves ∧
      (∀ i < 4, (s.answer? i).isSome) ∧ s.answer? 2 = some "key #" ∧ s.memory.size = 2 := by
  intro s
  have hcount : MemoryCall.maxSteps ≤ crossedMoves.count (.call 2) := by decide
  have hclear : .clear ∉ crossedMoves := by decide
  have hended : ∀ i < 4, (s.answer? i).isSome := by decide +kernel
  obtain ⟨hanswers, -, hsize⟩ :=
    run_answers normalizeDescription ["Key 1", "Key 2", "Key 1", "Key 1"] crossedMoves
  refine ⟨hcount, hclear, hended, ?_, ?_⟩
  · rw [(hanswers 2 "Key 1" rfl).2 hcount]
    decide +kernel
  · rw [hsize hclear hended]
    decide

end Proofs

end SourceGrade
