import SourceGrade.Proofs.LoweredTexts
import SourceGrade.Proofs.ScanMarks
import Mathlib.Data.Bool.AllAny
import Mathlib.Data.List.Basic
import Mathlib.Data.List.Chain
import Mathlib.Data.List.TakeWhile
/-!
# Normal descriptions

Each pass of normalizing a description leaves what the passes before it have reached: dropping
references, masking numbers and reducing blanks bring no quote back, and nothing brings a digit or
a capital back. So a normalized description has the form that every pass leaves alone.
-/

namespace SourceGrade

namespace Normalize

/-- The quotes, and the star that stands for what is between two of them. -/
def isQuoteMark (c : Char) : Bool := isQuote c || c == '*'

def quoteMarks (t : Text) : Text := t.filter isQuoteMark

/-- A text whose blanks are single spaces between other characters. -/
structure IsSpaced (t : Text) : Prop where
  spaces : ∀ c ∈ t, Text.isBlank c = true → c = ' '
  single : t.IsChain fun c d => Text.isBlank c = true → Text.isBlank d = false
  head : ∀ c ∈ t.head?, Text.isBlank c = false
  last : ∀ c ∈ t.getLast?, Text.isBlank c = false

/-- A text in lower case without digits, with at most one quote of each kind, whose blanks are
single spaces between other characters. -/
structure IsNormal (t : Text) : Prop extends IsSpaced t where
  lowered : ∀ c ∈ t, Text.IsLowered c
  digits : ∀ c ∈ t, Text.isDigit c = false
  quotes : ∀ q, isQuote q = true → t.count q ≤ 1

end Normalize

namespace Proofs

open Normalize

/-! ### Quotes -/

lemma mem_maskQuoted {open? : Option Char} {t : Text} {c : Char} (h : c ∈ maskQuoted open? t) :
    c = '*' ∨ c ∈ t := by
  induction t generalizing open? with
  | nil => cases open? <;> cases h
  | cons d r ih =>
    have hr : ∀ {open?}, c ∈ maskQuoted open? r → c = '*' ∨ c ∈ d :: r :=
      fun h => (ih h).imp_right (List.mem_cons_of_mem d)
    cases open? with
    | some q =>
      rw [maskQuoted] at h
      split at h <;> exact hr h
    | none =>
      rw [maskQuoted] at h
      split at h
      · rcases List.mem_cons.mp h with rfl | h
        · exact Or.inl rfl
        · exact hr h
      · rcases List.mem_cons.mp h with rfl | h
        · exact Or.inr List.mem_cons_self
        · exact hr h

/-- A quote that stays has no partner after it, so no second one of its kind stays. -/
lemma count_maskQuoted (open? : Option Char) (t : Text) {q : Char} (hq : isQuote q = true) :
    (maskQuoted open? t).count q ≤ 1 := by
  induction t generalizing open? with
  | nil => cases open? <;> exact Nat.zero_le 1
  | cons c r ih =>
    cases open? with
    | some e =>
      rw [maskQuoted]
      split <;> exact ih _
    | none =>
      rw [maskQuoted]
      have hstar : q ≠ '*' := by
        rintro rfl
        exact absurd hq (by decide)
      split
      · rw [List.count_cons_of_ne hstar.symm]
        exact ih _
      · next hpair =>
        by_cases hc : c = q
        · have hmem : q ∉ maskQuoted none r := fun h =>
            (mem_maskQuoted h).elim hstar fun h => hpair (by simp [hc, hq, h])
          rw [hc, List.count_cons_self, List.count_eq_zero.mpr hmem]
        · rw [List.count_cons_of_ne hc]
          exact ih none

lemma maskQuoted_eq_self {t : Text} (h : ∀ q, isQuote q = true → t.count q ≤ 1) :
    maskQuoted none t = t := by
  induction t with
  | nil => rfl
  | cons c r ih =>
    have hpair : ¬(isQuote c && r.contains c) = true := by
      intro hc
      obtain ⟨hquote, hmem⟩ := Bool.and_eq_true_iff.mp hc
      have hcount := h c hquote
      rw [List.count_cons_self] at hcount
      have := List.count_pos_iff.mpr (List.contains_iff_mem.mp hmem)
      omega
    rw [maskQuoted, if_neg hpair, ih fun q hq => (List.count_le_count_cons).trans (h q hq)]

/-! ### References to lines -/

lemma referenceLength?_eq_some {t : Text} {n : Nat} (h : referenceLength? t = some n) :
    ∃ word ∈ referenceWords, ∃ blanks digits rest : Text, t = word ++ blanks ++ digits ++ rest ∧
      n = (word ++ blanks ++ digits).length ∧ (∀ c ∈ blanks, Text.isBlank c = true) ∧
      (∀ c ∈ digits, Text.isDigit c = true) ∧ digits ≠ [] := by
  obtain ⟨word, hword, h⟩ := List.exists_of_findSome?_eq_some h
  obtain ⟨r, hr, h⟩ := Option.bind_eq_some_iff.mp h
  dsimp only at h
  split at h
  · cases h
  · next hwhole =>
    simp only [Bool.or_eq_true, not_or, List.isEmpty_iff] at hwhole
    refine ⟨word, hword, r.takeWhile Text.isBlank,
      (r.dropWhile Text.isBlank).takeWhile Text.isDigit,
      (r.dropWhile Text.isBlank).dropWhile Text.isDigit, ?_, ?_, ?_, ?_, hwhole.1.2⟩
    · rw [List.append_assoc, List.takeWhile_append_dropWhile, List.append_assoc,
        List.takeWhile_append_dropWhile]
      exact (dropPrefix?_eq_some word t r).mp hr
    · rw [List.length_append, List.length_append]
      exact (Option.some.inj h).symm
    · exact fun c hc => List.mem_takeWhile_imp hc
    · exact fun c hc => List.mem_takeWhile_imp hc

lemma dropReferences_sublist (inWord : Bool) (skip : Nat) (t : Text) :
    (dropReferences inWord skip t).Sublist t := by
  induction t generalizing inWord skip with
  | nil => cases skip <;> exact List.Sublist.refl []
  | cons c r ih =>
    cases skip with
    | succ skip => exact (ih _ _).cons c
    | zero =>
      rw [dropReferences]
      split
      · exact (ih _ _).cons c
      · exact (ih _ _).cons_cons c

lemma dropReferences_eq_self {t : Text} (h : ∀ c ∈ t, Text.isDigit c = false) (inWord : Bool) :
    dropReferences inWord 0 t = t := by
  induction t generalizing inWord with
  | nil => rfl
  | cons c r ih =>
    have hnone : referenceLength? (c :: r) = none := by
      refine Option.eq_none_iff_forall_ne_some.mpr fun n hn => ?_
      obtain ⟨word, -, blanks, digits, rest, ht, -, -, hdigits, hne⟩ := referenceLength?_eq_some hn
      obtain ⟨d, ds, rfl⟩ := List.exists_cons_of_ne_nil hne
      have hd := h d (by rw [ht]; simp)
      rw [hdigits d List.mem_cons_self] at hd
      cases hd
    rw [dropReferences, hnone, ite_self, ih fun d hd => h d (List.mem_cons_of_mem c hd)]

/-! ### Numbers -/

lemma mem_maskNumbers {part : NumberPart} {t : Text} {c : Char} (h : c ∈ maskNumbers part t) :
    c = '#' ∨ c ∈ t ∧ Text.isDigit c = false := by
  induction t generalizing part with
  | nil => cases h
  | cons d r ih =>
    have hr : ∀ {part}, c ∈ maskNumbers part r → c = '#' ∨ c ∈ d :: r ∧ Text.isDigit c = false :=
      fun h => (ih h).imp_right fun h => ⟨List.mem_cons_of_mem d h.1, h.2⟩
    unfold maskNumbers at h
    split at h
    · cases part with
      | outside =>
        rcases List.mem_cons.mp h with rfl | h
        · exact Or.inl rfl
        · exact hr h
      | whole => exact hr h
      | fraction => exact hr h
    · next hdigit =>
      split at h
      · exact hr h
      · rcases List.mem_cons.mp h with rfl | h
        · exact Or.inr ⟨List.mem_cons_self, Bool.eq_false_iff.mpr hdigit⟩
        · exact hr h

lemma maskNumbers_append {s : Text} (h : ∀ c ∈ s, Text.isDigit c = false) (t : Text) :
    maskNumbers .outside (s ++ t) = s ++ maskNumbers .outside t := by
  induction s with
  | nil => rfl
  | cons c s ih =>
    have hc : ¬Text.isDigit c = true := by simp [h c List.mem_cons_self]
    rw [List.cons_append, maskNumbers, if_neg hc, if_neg (by simp),
      ih fun d hd => h d (List.mem_cons_of_mem c hd)]
    rfl

lemma maskNumbers_eq_self {t : Text} (h : ∀ c ∈ t, Text.isDigit c = false) :
    maskNumbers .outside t = t := by
  have happend := maskNumbers_append h []
  rwa [List.append_nil, maskNumbers, List.append_nil] at happend

/-! ### Blanks -/

lemma flatten_words_go (t w : Text) :
    (Text.words.go t w).flatten = w.reverse ++ t.filter (!Text.isBlank ·) := by
  induction t generalizing w with
  | nil => cases w <;> simp [Text.words.go]
  | cons c r ih =>
    unfold Text.words.go
    split
    · next hc => cases w <;> simp [ih, hc]
    · next hc => simp [ih, hc]

lemma mem_words_go {t w v : Text} (hw : ∀ c ∈ w, Text.isBlank c = false)
    (h : v ∈ Text.words.go t w) : v ≠ [] ∧ ∀ c ∈ v, Text.isBlank c = false := by
  induction t generalizing w with
  | nil =>
    cases w with
    | nil => cases h
    | cons d w =>
      obtain rfl := List.mem_singleton.mp h
      exact ⟨by simp, fun c hc => hw c (List.mem_reverse.mp hc)⟩
  | cons c r ih =>
    unfold Text.words.go at h
    split at h
    · cases w with
      | nil => exact ih hw h
      | cons d w =>
        rcases List.mem_cons.mp h with rfl | h
        · exact ⟨by simp, fun c hc => hw c (List.mem_reverse.mp hc)⟩
        · exact ih (by simp) h
    · next hc =>
      refine ih (fun d hd => ?_) h
      rcases List.mem_cons.mp hd with rfl | hd
      · exact Bool.eq_false_iff.mpr hc
      · exact hw d hd

lemma isSpaced_of_word {w : Text} (h : ∀ c ∈ w, Text.isBlank c = false) : IsSpaced w where
  spaces c hc hblank := absurd hblank (by simp [h c hc])
  single := List.Pairwise.isChain (List.pairwise_of_forall_mem_list fun _ _ d hd _ => h d hd)
  head c hc := h c (List.mem_of_mem_head? hc)
  last c hc := h c (List.mem_of_mem_getLast? hc)

lemma isSpaced_cons_word {w t : Text} (hne : w ≠ []) (hw : ∀ c ∈ w, Text.isBlank c = false)
    (ht : IsSpaced t) (htne : t ≠ []) : IsSpaced (w ++ " " ++ t) where
  spaces c hc hblank := by
    simp only [List.mem_append] at hc
    rcases hc with (hc | hc) | hc
    · exact absurd hblank (by simp [hw c hc])
    · exact List.mem_singleton.mp hc
    · exact ht.spaces c hc hblank
  single := by
    refine ((isSpaced_of_word hw).single.append (List.isChain_singleton ' ') ?_).append
      ht.single ?_
    · intro c hc d _ hblank
      exact absurd hblank (by simp [hw c (List.mem_of_mem_getLast? hc)])
    · exact fun _ _ d hd _ => ht.head d hd
  head c hc := by
    rw [List.append_assoc, List.head?_append_of_ne_nil _ hne] at hc
    exact hw c (List.mem_of_mem_head? hc)
  last c hc := by
    rw [List.getLast?_append_of_ne_nil _ htne] at hc
    exact ht.last c hc

lemma join_cons (sep w : Text) {ws : List Text} (h : ws ≠ []) :
    Text.join sep (w :: ws) = w ++ sep ++ Text.join sep ws := by
  cases ws with
  | nil => exact absurd rfl h
  | cons v r => rfl

lemma join_ne_nil (sep w : Text) {ws : List Text} (h : w ≠ []) : Text.join sep (w :: ws) ≠ [] := by
  cases ws <;> simp [Text.join, h]

lemma isSpaced_join {ws : List Text} (h : ∀ w ∈ ws, w ≠ [] ∧ ∀ c ∈ w, Text.isBlank c = false) :
    IsSpaced (Text.join " " ws) := by
  induction ws with
  | nil => exact isSpaced_of_word (by simp [Text.join])
  | cons w ws ih =>
    have hw := h w List.mem_cons_self
    cases ws with
    | nil => exact isSpaced_of_word hw.2
    | cons v r =>
      have hv : v ≠ [] := (h v (by simp)).1
      exact isSpaced_cons_word hw.1 hw.2 (ih fun u hu => h u (List.mem_cons_of_mem w hu))
        (join_ne_nil " " v hv)

/-- In a spaced text each blank ends a word and the next character begins one. `w` is the word
that has begun, if one has. -/
lemma join_words_go {t : Text} (hspaces : ∀ c ∈ t, Text.isBlank c = true → c = ' ')
    (hsingle : t.IsChain fun c d => Text.isBlank c = true → Text.isBlank d = false)
    (hlast : ∀ c ∈ t.getLast?, Text.isBlank c = false) :
    (∀ w ≠ [], Text.join " " (Text.words.go t w) = w.reverse ++ t) ∧
      ((∀ c ∈ t.head?, Text.isBlank c = false) → Text.join " " (Text.words.go t []) = t) := by
  induction t with
  | nil =>
    refine ⟨fun w hw => ?_, fun _ => rfl⟩
    obtain ⟨d, w, rfl⟩ := List.exists_cons_of_ne_nil hw
    simp [Text.words.go, Text.join]
  | cons c r ih =>
    obtain ⟨hword, hbetween⟩ := ih (fun d hd => hspaces d (List.mem_cons_of_mem c hd)) hsingle.tail
      fun d hd => hlast d (by rw [List.getLast?_cons, hd]; rfl)
    refine ⟨fun w hw => ?_, fun hhead => ?_⟩
    · obtain ⟨d, w, rfl⟩ := List.exists_cons_of_ne_nil hw
      by_cases hc : Text.isBlank c = true
      · obtain rfl := hspaces c List.mem_cons_self hc
        have hr := hbetween fun d hd => (List.isChain_cons.mp hsingle).1 d hd hc
        have hne : Text.words.go r [] ≠ [] := by
          intro hnil
          rw [hnil] at hr
          have hlast := hlast ' ' (by rw [← hr]; rfl)
          exact absurd hc (by simp [hlast])
        rw [Text.words.go, if_pos hc, join_cons _ _ hne, hr, List.append_assoc]
        rfl
      · rw [Text.words.go, if_neg hc, hword (c :: d :: w) (by simp), List.reverse_cons,
          List.append_assoc]
        rfl
    · have hc : ¬Text.isBlank c = true := by simp [hhead c rfl]
      rw [Text.words.go, if_neg hc, hword [c] (by simp)]
      rfl

lemma isSpaced_reduceBlanks (t : Text) : IsSpaced (reduceBlanks t) :=
  isSpaced_join fun _ hw => mem_words_go (by simp) hw

lemma reduceBlanks_eq_self {t : Text} (h : IsSpaced t) : reduceBlanks t = t :=
  (join_words_go h.spaces h.single h.last).2 h.head

lemma filter_reduceBlanks {p : Char → Bool} (hp : ∀ c, p c = true → Text.isBlank c = false)
    (t : Text) : (reduceBlanks t).filter p = t.filter p := by
  have hjoin : ∀ ws : List Text, (Text.join " " ws).filter p = ws.flatten.filter p := by
    intro ws
    induction ws with
    | nil => rfl
    | cons w ws ih =>
      cases ws with
      | nil => simp [Text.join]
      | cons v r =>
        have hspace : p ' ' = false := Bool.eq_false_iff.mpr fun h => absurd (hp _ h) (by decide)
        rw [Text.join, List.filter_append, ih]
        simp [hspace]
  rw [reduceBlanks, hjoin, Text.words, flatten_words_go, List.reverse_nil, List.nil_append,
    List.filter_filter]
  refine List.filter_congr fun c _ => ?_
  cases hc : p c with
  | false => rfl
  | true => rw [hp c hc]; rfl

lemma mem_reduceBlanks {t : Text} {c : Char} (h : c ∈ reduceBlanks t) : c = ' ' ∨ c ∈ t := by
  by_cases hc : Text.isBlank c = true
  · exact Or.inl ((isSpaced_reduceBlanks t).spaces c h hc)
  · have hmem : c ∈ (reduceBlanks t).filter (!Text.isBlank ·) :=
      List.mem_filter.mpr ⟨h, by simp [hc]⟩
    rw [filter_reduceBlanks (by simp)] at hmem
    exact Or.inr (List.mem_of_mem_filter hmem)

/-! ### Marks -/

lemma isQuoteMark_eq {c : Char} (h : isQuoteMark c = true) :
    Text.isBlank c = false ∧ Text.isDigit c = false ∧ c ≠ '.' ∧ c ≠ '#' := by
  have hmarks : ∀ c ∈ ['\'', '"', '\x60', '*'], Text.isBlank c = false ∧
      Text.isDigit c = false ∧ c ≠ '.' ∧ c ≠ '#' := List.all_iff_forall_prop.mp (by decide)
  refine hmarks c ?_
  simpa [isQuoteMark, isQuote, or_assoc] using h

lemma quoteMarks_append (s t : Text) : quoteMarks (s ++ t) = quoteMarks s ++ quoteMarks t :=
  List.filter_append s t

lemma quoteMarks_eq_nil {t : Text} (h : ∀ c ∈ t, Text.isBlank c = true ∨ Text.isDigit c = true) :
    quoteMarks t = [] :=
  List.filter_eq_nil_iff.mpr fun c hc hmark => by
    obtain ⟨hblank, hdigit, -⟩ := isQuoteMark_eq hmark
    rcases h c hc with h | h <;> simp_all

lemma quoteMarks_drop_reference {t : Text} {n : Nat} (h : referenceLength? t = some n) :
    quoteMarks (t.drop n) = quoteMarks t := by
  obtain ⟨word, hword, blanks, digits, rest, rfl, rfl, hblanks, hdigits, -⟩ :=
    referenceLength?_eq_some h
  have hwords : ∀ word ∈ referenceWords, quoteMarks word = [] := by decide
  rw [List.drop_left, quoteMarks_append, quoteMarks_append, quoteMarks_append, hwords word hword,
    quoteMarks_eq_nil fun c hc => Or.inl (hblanks c hc),
    quoteMarks_eq_nil fun c hc => Or.inr (hdigits c hc)]
  rfl

lemma quoteMarks_dropReferences (inWord : Bool) (skip : Nat) (t : Text) :
    quoteMarks (dropReferences inWord skip t) = quoteMarks (t.drop skip) := by
  induction t generalizing inWord skip with
  | nil => cases skip <;> rfl
  | cons c r ih =>
    cases skip with
    | succ skip => exact ih _ _
    | zero =>
      rw [dropReferences]
      split
      · next n hn =>
        have href : referenceLength? (c :: r) = some n := by
          split at hn
          · cases hn
          · exact hn
        have hpos : n ≠ 0 := by
          obtain ⟨word, -, blanks, digits, rest, -, rfl, -, -, hne⟩ := referenceLength?_eq_some href
          simp [hne]
        obtain ⟨n, rfl⟩ := Nat.exists_eq_succ_of_ne_zero hpos
        exact (ih _ n).trans (quoteMarks_drop_reference href)
      · rw [← List.singleton_append, quoteMarks_append, ih, ← quoteMarks_append]
        rfl

lemma quoteMarks_maskNumbers (part : NumberPart) (t : Text) :
    quoteMarks (maskNumbers part t) = quoteMarks t := by
  induction t generalizing part with
  | nil => rfl
  | cons c r ih =>
    have hcons : ∀ d s, isQuoteMark d = false → quoteMarks (d :: s) = quoteMarks s :=
      fun d s hd => List.filter_cons_of_neg (by simp [hd])
    unfold maskNumbers
    split
    · next hdigit =>
      have hc : isQuoteMark c = false := Bool.eq_false_iff.mpr fun h => by
        simp [(isQuoteMark_eq h).2.1] at hdigit
      rw [hcons c r hc]
      cases part with
      | outside => exact (hcons '#' _ (by decide)).trans (ih _)
      | whole => exact ih _
      | fraction => exact ih _
    · split
      · next hdot =>
        obtain rfl := hdot.2.1
        rw [hcons '.' r (by decide)]
        exact ih _
      · rw [← List.singleton_append, quoteMarks_append, ih, ← quoteMarks_append]
        rfl

lemma quoteMarks_normalizeDescription (t : Text) :
    quoteMarks (normalizeDescription t) = quoteMarks (maskQuoted none (Text.lower t)) := by
  rw [normalizeDescription, quoteMarks, filter_reduceBlanks fun c hc => (isQuoteMark_eq hc).1]
  exact (quoteMarks_maskNumbers _ _).trans (quoteMarks_dropReferences false 0 _)

/-! ### Normal texts -/

lemma mem_normalizeDescription {t : Text} {c : Char} (h : c ∈ normalizeDescription t) :
    c ∈ [' ', '#', '*'] ∨ c ∈ Text.lower t ∧ Text.isDigit c = false := by
  rcases mem_reduceBlanks h with rfl | h
  · exact Or.inl (by simp)
  rcases mem_maskNumbers h with rfl | ⟨h, hdigit⟩
  · exact Or.inl (by simp)
  rcases mem_maskQuoted ((dropReferences_sublist _ _ _).subset h) with rfl | h
  · exact Or.inl (by simp)
  · exact Or.inr ⟨h, hdigit⟩

lemma isNormal_normalizeDescription (t : Text) : IsNormal (normalizeDescription t) where
  toIsSpaced := isSpaced_reduceBlanks _
  lowered c hc := by
    have hmarks : ∀ c ∈ [' ', '#', '*'], Text.lowerChar c = [c] :=
      List.all_iff_forall_prop.mp (by decide)
    rcases mem_normalizeDescription hc with hc | ⟨hc, -⟩
    · exact hmarks c hc
    · exact isLowered_of_mem_lowerAfter hc
  digits c hc := by
    have hmarks : ∀ c ∈ [' ', '#', '*'], Text.isDigit c = false :=
      List.all_iff_forall_prop.mp (by decide)
    exact (mem_normalizeDescription hc).elim (hmarks c) And.right
  quotes q hq := by
    have hmark : isQuoteMark q = true := by rw [isQuoteMark, hq, Bool.true_or]
    rw [← List.count_filter hmark, ← quoteMarks, quoteMarks_normalizeDescription, quoteMarks,
      List.count_filter hmark]
    exact count_maskQuoted none _ hq

lemma normalizeDescription_eq_self {t : Text} (h : IsNormal t) : normalizeDescription t = t := by
  rw [normalizeDescription, Text.lower, lowerAfter_eq_self h.lowered, maskQuoted_eq_self h.quotes,
    dropReferences_eq_self h.digits, maskNumbers_eq_self h.digits,
    reduceBlanks_eq_self h.toIsSpaced]

theorem isNormal_iff (t : Text) : IsNormal t ↔ normalizeDescription t = t :=
  ⟨normalizeDescription_eq_self, fun h => h ▸ isNormal_normalizeDescription t⟩

/-- Normalizing a description gives a normal text, and once is as good as twice. -/
theorem normalizeDescription_normal (t : Text) :
    IsNormal (normalizeDescription t) ∧
      normalizeDescription (normalizeDescription t) = normalizeDescription t := by
  have h := isNormal_normalizeDescription t
  exact ⟨h, (isNormal_iff _).mp h⟩

end Proofs

end SourceGrade
