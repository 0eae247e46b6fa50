import Mathlib.Data.Set.Card
import SourceGrade.Language.Table
import SourceGrade.Measure.Duplication
import SourceGrade.Proofs.ScanLines

/-!
# Repeated windows

A table of the first places of windows finds the same duplicated lines as a comparison of every
window with all windows before it. Joined by line feeds, two windows of significant lines are the
same text only if their lines are the same.
-/

namespace SourceGrade

namespace Duplication

/-- The lines of a window by its first position. -/
def windowAt (lines : List Text) (width start : Nat) : List Text := (lines.drop start).take width

/-- Two windows of some lines of which the one at `b` repeats the one at `a`. They do not overlap,
their lines are the same, and there is enough text in them. -/
structure Repeats {ι : Type} [Comparable ι] (lines : List Text) (width : Nat) (minChars : ι)
    (a b : Nat) : Prop where
  apart : a + width ≤ b
  inside : b + width ≤ lines.length
  same : ∀ k < width, lines[a + k]? = lines[b + k]?
  long : Comparable.isBelow (Text.join "\n" (windowAt lines width b)).length minChars = false

/-- A position in some window that repeats another one. -/
def IsDuplicated {ι : Type} [Comparable ι] (lines : List Text) (width : Nat) (minChars : ι)
    (i : Nat) : Prop :=
  ∃ a b, Repeats lines width minChars a b ∧ b ≤ i ∧ i < b + width

lemma Repeats.isDuplicated {ι : Type} [Comparable ι] {lines : List Text} {width : Nat}
    {minChars : ι} {a b i : Nat} (h : Repeats lines width minChars a b) (hle : b ≤ i)
    (hlt : i < b + width) : IsDuplicated lines width minChars i := ⟨a, b, h, hle, hlt⟩

end Duplication

namespace Proofs

open Duplication

/-! ### Windows -/

section

variable {lines : List Text} {width a b : Nat}

lemma windowAt_eq_iff :
    windowAt lines width a = windowAt lines width b ↔
      ∀ k < width, lines[a + k]? = lines[b + k]? := by
  constructor
  · intro h k hk
    have hget := congrArg (·[k]?) h
    simpa [windowAt, List.getElem?_take, List.getElem?_drop, hk] using hget
  · intro h
    apply List.ext_getElem?
    intro k
    by_cases hk : k < width
    · simpa [windowAt, List.getElem?_take, List.getElem?_drop, hk] using h k hk
    · simp [windowAt, hk]

lemma length_windowAt (h : a + width ≤ lines.length) : (windowAt lines width a).length = width := by
  rw [windowAt, List.length_take, List.length_drop]
  omega

lemma length_windowAt_lt (hw : 0 < width) :
    (windowAt lines width a).length < width ↔ lines.length < a + width := by
  rw [windowAt, List.length_take, List.length_drop]
  omega

lemma windowLength_eq (window : List Text) :
    windowLength window = (Text.join "\n" window).length := by
  induction window with
  | nil => rfl
  | cons t ts ih =>
    cases ts with
    | nil => simp [windowLength, Listing.total, Text.join]
    | cons u us =>
      simp only [windowLength, Listing.total, List.map_cons, List.foldr_cons, List.length_cons,
        Nat.add_sub_cancel] at ih
      simp only [windowLength, Listing.total, Text.join, List.map_cons, List.foldr_cons,
        List.length_cons, List.length_append, Nat.add_sub_cancel, ← ih]
      change _ = t.length + 1 + _
      omega

end

/-! ### Joined windows -/

lemma splitOn_of_not_mem {sep : Char} {t : Text} (h : sep ∉ t) : Text.splitOn sep t = [t] := by
  induction t with
  | nil => rfl
  | cons c t ih =>
    obtain ⟨hc, ht⟩ := not_or.mp (mt List.mem_cons.mpr h)
    rw [splitOn_cons (Ne.symm hc), ih ht]
    rfl

lemma splitOn_append {sep : Char} {t : Text} (h : sep ∉ t) (r : Text) :
    Text.splitOn sep (t ++ sep :: r) = t :: Text.splitOn sep r := by
  induction t with
  | nil => simp [Text.splitOn]
  | cons c t ih =>
    obtain ⟨hc, ht⟩ := not_or.mp (mt List.mem_cons.mpr h)
    rw [List.cons_append, splitOn_cons (Ne.symm hc), ih ht]
    rfl

lemma splitOn_join {sep : Char} {ts : List Text} (hne : ts ≠ []) (h : ∀ t ∈ ts, sep ∉ t) :
    Text.splitOn sep (Text.join [sep] ts) = ts := by
  induction ts with
  | nil => exact absurd rfl hne
  | cons t ts ih =>
    obtain ⟨ht, hts⟩ := List.forall_mem_cons.mp h
    cases ts with
    | nil => exact splitOn_of_not_mem ht
    | cons u us =>
      rw [Text.join, List.append_assoc, List.singleton_append, splitOn_append ht,
        ih (List.cons_ne_nil _ _) hts]

lemma words_go_not_blank (t w : Text) (hw : ∀ c ∈ w, Text.isBlank c = false) :
    ∀ word ∈ Text.words.go t w, ∀ c ∈ word, Text.isBlank c = false := by
  induction t generalizing w with
  | nil =>
    cases w with
    | nil => simp [Text.words.go]
    | cons d w => simpa [Text.words.go, or_comm] using hw
  | cons d t ih =>
    unfold Text.words.go
    split
    · cases w with
      | nil => exact ih [] (List.forall_mem_nil _)
      | cons e w =>
        refine List.forall_mem_cons.mpr ⟨?_, ih [] (List.forall_mem_nil _)⟩
        intro c hc
        exact hw c (List.mem_reverse.mp hc)
    · next hd =>
      have hd : Text.isBlank d = false := Bool.not_eq_true _ ▸ hd
      exact ih (d :: w) (List.forall_mem_cons.mpr ⟨hd, hw⟩)

lemma mem_join {sep : Text} {ts : List Text} {c : Char} (h : c ∈ Text.join sep ts) :
    c ∈ sep ∨ ∃ t ∈ ts, c ∈ t := by
  induction ts with
  | nil => cases h
  | cons t ts ih =>
    cases ts with
    | nil => exact .inr ⟨t, List.mem_cons_self, h⟩
    | cons u us =>
      rw [Text.join, List.mem_append, List.mem_append] at h
      obtain (h | h) | h := h
      · exact .inr ⟨t, List.mem_cons_self, h⟩
      · exact .inl h
      · exact (ih h).imp_right fun ⟨v, hv, hc⟩ => ⟨v, List.mem_cons_of_mem _ hv, hc⟩

lemma lineFeed_not_mem_significant (s : Source) :
    ∀ t ∈ s.significantLines.map (·.text), '\n' ∉ t := by
  intro t ht hmem
  obtain ⟨l, hl, rfl⟩ := List.mem_map.mp ht
  obtain ⟨line, -, rfl⟩ := List.mem_map.mp hl
  obtain hsep | ⟨word, hword, hmem⟩ := mem_join hmem
  · exact absurd hsep (by decide)
  · have hblank := words_go_not_blank line.stripped [] (List.forall_mem_nil _) word hword _ hmem
    exact absurd hblank (by decide)

lemma join_windowAt_eq_iff {lines : List Text} (hlines : ∀ t ∈ lines, '\n' ∉ t) {width a b : Nat}
    (hw : 0 < width) (ha : a + width ≤ lines.length) (hb : b + width ≤ lines.length) :
    Text.join "\n" (windowAt lines width a) = Text.join "\n" (windowAt lines width b) ↔
      ∀ k < width, lines[a + k]? = lines[b + k]? := by
  have hsplit : ∀ c, c + width ≤ lines.length →
      Text.splitOn '\n' (Text.join "\n" (windowAt lines width c)) = windowAt lines width c := by
    intro c hc
    refine splitOn_join ?_ fun t ht => hlines t ?_
    · intro hnil
      have hlength := length_windowAt hc
      rw [hnil, List.length_nil] at hlength
      omega
    · exact List.mem_of_mem_drop (List.mem_of_mem_take ht)
  rw [← windowAt_eq_iff]
  constructor
  · intro h
    rw [← hsplit a ha, ← hsplit b hb, h]
  · intro h
    rw [h]

/-! ### The table of first places -/

variable {ι : Type} [Comparable ι] {lines : List Text} {width : Nat} {minChars : ι}

/-- A repeat of the first window that has its lines. -/
structure RepeatsFirst (lines : List Text) (width : Nat) (minChars : ι) (r : Repeat) : Prop
    extends Repeats lines width minChars r.earlier r.start where
  first : ∀ c < r.earlier, windowAt lines width c ≠ windowAt lines width r.start

/-- A table with the first places of all long windows before a position. -/
structure Remembers (lines : List Text) (width : Nat) (minChars : ι) (start : Nat)
    (seen : List (List Text × Nat)) : Prop where
  first : ∀ {window a}, seen.lookup window = some a →
    a < start ∧ windowAt lines width a = window ∧ ∀ c < a, windowAt lines width c ≠ window
  complete : ∀ c < start,
    Comparable.isBelow (windowLength (windowAt lines width c)) minChars = false →
      seen.lookup (windowAt lines width c) ≠ none

lemma remembers_start : Remembers lines width minChars 0 [] where
  first h := nomatch h
  complete _ h := absurd h (Nat.not_lt_zero _)

lemma Remembers.pass {start : Nat} {seen : List (List Text × Nat)}
    (h : Remembers lines width minChars start seen)
    (hpass : Comparable.isBelow (windowLength (windowAt lines width start)) minChars = false →
      seen.lookup (windowAt lines width start) ≠ none) :
    Remembers lines width minChars (start + 1) seen where
  first hlookup := by
    obtain ⟨hlt, hwindow, hfirst⟩ := h.first hlookup
    exact ⟨by omega, hwindow, hfirst⟩
  complete c hc hlong := by
    obtain hc | rfl := Nat.lt_succ_iff_lt_or_eq.mp hc
    · exact h.complete c hc hlong
    · exact hpass hlong

lemma Remembers.insert {start : Nat} {seen : List (List Text × Nat)}
    (h : Remembers lines width minChars start seen)
    (hlong : Comparable.isBelow (windowLength (windowAt lines width start)) minChars = false)
    (hnew : seen.lookup (windowAt lines width start) = none) :
    Remembers lines width minChars (start + 1) ((windowAt lines width start, start) :: seen) where
  first {window a} hlookup := by
    rw [List.lookup_cons] at hlookup
    split at hlookup
    · next heq =>
      obtain rfl := Option.some.inj hlookup
      obtain rfl := eq_of_beq heq
      refine ⟨by omega, rfl, fun c hc hsame => ?_⟩
      exact h.complete c hc (hsame ▸ hlong) (hsame ▸ hnew)
    · obtain ⟨hlt, hwindow, hfirst⟩ := h.first hlookup
      exact ⟨by omega, hwindow, hfirst⟩
  complete c hc hlong' := by
    rw [List.lookup_cons]
    split
    · exact Option.some_ne_none _
    · next hne =>
      obtain hc | rfl := Nat.lt_succ_iff_lt_or_eq.mp hc
      · exact h.complete c hc hlong'
      · simp at hne

/-- The table tells whether the window at a position repeats another one. -/
lemma Remembers.repeatsFirst_iff {seen : List (List Text × Nat)} {r : Repeat} (hw : 0 < width)
    (h : Remembers lines width minChars r.start seen) :
    RepeatsFirst lines width minChars r ↔
      r.start + width ≤ lines.length ∧
        Comparable.isBelow (windowLength (windowAt lines width r.start)) minChars = false ∧
        seen.lookup (windowAt lines width r.start) = some r.earlier ∧
        r.earlier + width ≤ r.start := by
  constructor
  · intro hr
    have hsame := windowAt_eq_iff.mpr hr.same
    have hlong := hr.long
    rw [← windowLength_eq] at hlong
    have hapart := hr.apart
    have hne := h.complete r.earlier (by omega) (hsame ▸ hlong)
    obtain ⟨a, ha⟩ := Option.ne_none_iff_exists'.mp hne
    obtain ⟨-, hwindow, hfirst⟩ := h.first ha
    have hle : a ≤ r.earlier := Nat.le_of_not_lt fun hlt => hfirst _ hlt rfl
    have hge : r.earlier ≤ a := Nat.le_of_not_lt fun hlt => hr.first a hlt (hwindow.trans hsame)
    rw [hsame, le_antisymm hle hge] at ha
    exact ⟨hr.inside, hlong, ha, hapart⟩
  · rintro ⟨hinside, hlong, hlookup, hapart⟩
    obtain ⟨-, hwindow, hfirst⟩ := h.first hlookup
    rw [windowLength_eq] at hlong
    exact ⟨⟨hapart, hinside, windowAt_eq_iff.mp hwindow, hlong⟩, hfirst⟩

lemma repeatsFrom_step (hw : 0 < width) {start : Nat} {seen : List (List Text × Nat)}
    (hseen : Remembers lines width minChars start seen) {t : Text} {ts : List Text}
    (hrest : lines.drop start = t :: ts) (hinside : start + width ≤ lines.length) :
    ∃ seen' found, Remembers lines width minChars (start + 1) seen' ∧
      repeatsFrom width minChars seen start (t :: ts) =
        found ++ repeatsFrom width minChars seen' (start + 1) ts ∧
      ∀ r, r ∈ found ↔ r.start = start ∧ RepeatsFirst lines width minChars r := by
  have hwindow : (t :: ts).take width = windowAt lines width start := by rw [windowAt, hrest]
  have hfull : ¬(windowAt lines width start).length < width := by
    rw [length_windowAt_lt hw]
    omega
  have htable : ∀ {r : Repeat}, r.start = start →
      (RepeatsFirst lines width minChars r ↔ _) := fun h =>
    Remembers.repeatsFirst_iff hw (h ▸ hseen)
  have hnothing : (∀ r : Repeat, r.start = start → ¬RepeatsFirst lines width minChars r) →
      ∀ r, r ∈ [] ↔ r.start = start ∧ RepeatsFirst lines width minChars r :=
    fun h r => ⟨fun hr => (nomatch hr), fun ⟨hstart, hr⟩ => absurd hr (h r hstart)⟩
  rw [repeatsFrom, hwindow, if_neg hfull]
  split
  · next hbelow =>
    have hshort : ¬Comparable.isBelow (windowLength (windowAt lines width start)) minChars =
        false := by simp [hbelow]
    refine ⟨seen, [], hseen.pass fun h => absurd h hshort, rfl, hnothing ?_⟩
    rintro r rfl hr
    exact hshort ((htable rfl).mp hr).2.1
  · next hbelow =>
    have hlong : Comparable.isBelow (windowLength (windowAt lines width start)) minChars =
        false := by simpa using hbelow
    split
    · next hnew =>
      refine ⟨_, [], hseen.insert hlong hnew, rfl, hnothing ?_⟩
      rintro r rfl hr
      have hold := ((htable rfl).mp hr).2.2.1
      rw [hnew] at hold
      cases hold
    · next earlier hold =>
      have hpass := hseen.pass fun _ => by simp [hold]
      split
      · next hoverlap =>
        refine ⟨seen, [], hpass, rfl, hnothing ?_⟩
        rintro r rfl hr
        obtain ⟨-, -, hfound, hapart⟩ := (htable rfl).mp hr
        obtain rfl := Option.some.inj (hold.symm.trans hfound)
        omega
      · next hapart =>
        refine ⟨seen, [⟨start, earlier⟩], hpass, rfl, fun r => ?_⟩
        rw [List.mem_singleton]
        constructor
        · rintro rfl
          have hle : earlier + width ≤ start := by omega
          exact ⟨rfl, (htable rfl).mpr ⟨hinside, hlong, hold, hle⟩⟩
        · rintro ⟨rfl, hr⟩
          have hfound := ((htable rfl).mp hr).2.2.1
          rw [hold] at hfound
          rw [Option.some.inj hfound]

lemma mem_repeatsFrom (hw : 0 < width) {start : Nat} {seen : List (List Text × Nat)}
    (hseen : Remembers lines width minChars start seen) {rest : List Text}
    (hrest : lines.drop start = rest) (r : Repeat) :
    r ∈ repeatsFrom width minChars seen start rest ↔
      start ≤ r.start ∧ RepeatsFirst lines width minChars r := by
  have hnone : ∀ c, lines.length < c + width →
      ¬(c ≤ r.start ∧ RepeatsFirst lines width minChars r) := by
    rintro c hlt ⟨hle, hr⟩
    have := hr.inside
    omega
  induction rest generalizing start seen with
  | nil =>
    have hlength : lines.length ≤ start := List.drop_eq_nil_iff.mp hrest
    exact iff_of_false List.not_mem_nil (hnone start (by omega))
  | cons t ts ih =>
    by_cases hinside : start + width ≤ lines.length
    · obtain ⟨seen', found, hseen', heq, hfound⟩ := repeatsFrom_step hw hseen hrest hinside
      have hnext : lines.drop (start + 1) = ts := by
        rw [← List.drop_drop, hrest]
        rfl
      have hlater : r ∈ repeatsFrom width minChars seen' (start + 1) ts ↔
          start + 1 ≤ r.start ∧ RepeatsFirst lines width minChars r := ih hseen' hnext
      rw [heq, List.mem_append, hfound, hlater, ← or_and_right]
      exact and_congr_left fun _ => by omega
    · have hwindow : (t :: ts).take width = windowAt lines width start := by rw [windowAt, hrest]
      have hshort : (windowAt lines width start).length < width := by
        rw [length_windowAt_lt hw]
        omega
      rw [repeatsFrom, hwindow, if_pos hshort]
      exact iff_of_false List.not_mem_nil (hnone start (by omega))

lemma mem_repeats (hw : 0 < width) (r : Repeat) :
    r ∈ repeatsFrom width minChars [] 0 lines ↔ RepeatsFirst lines width minChars r := by
  rw [mem_repeatsFrom hw remembers_start List.drop_zero r, and_iff_right (Nat.zero_le _)]

lemma exists_repeatsFirst {a b : Nat} (h : Repeats lines width minChars a b) :
    ∃ r, RepeatsFirst lines width minChars r ∧ r.start = b := by
  classical
  have hex : ∃ c, windowAt lines width c = windowAt lines width b := ⟨a, windowAt_eq_iff.mpr h.same⟩
  have hle : Nat.find hex ≤ a := Nat.find_min' hex (windowAt_eq_iff.mpr h.same)
  have hapart := h.apart
  refine ⟨⟨b, Nat.find hex⟩, ⟨⟨by dsimp only; omega, h.inside, ?_, h.long⟩, ?_⟩, rfl⟩
  · exact windowAt_eq_iff.mp (Nat.find_spec hex)
  · intro c hc
    exact Nat.find_min hex hc

lemma isMarked_iff (hw : 0 < width) (i : Nat) :
    isMarked width (repeatsFrom width minChars [] 0 lines) i = true ↔
      IsDuplicated lines width minChars i := by
  simp only [isMarked, List.any_eq_true, Bool.and_eq_true, decide_eq_true_eq, mem_repeats hw]
  constructor
  · rintro ⟨r, hr, hle, hlt⟩
    exact hr.isDuplicated hle hlt
  · rintro ⟨a, b, h, hle, hlt⟩
    obtain ⟨r, hr, rfl⟩ := exists_repeatsFirst h
    exact ⟨r, hr, hle, hlt⟩

lemma bounds_of_isDuplicated {i : Nat} (h : IsDuplicated lines width minChars i) :
    width ≤ i ∧ i < lines.length ∧ width * 2 ≤ lines.length := by
  obtain ⟨a, b, h, hle, hlt⟩ := h
  have hapart := h.apart
  have hinside := h.inside
  omega

/-! ### Duplicated positions -/

/-- The positions of duplicated lines, in increasing order. -/
def duplicatedPositions (width : Nat) (minChars : ι) (lines : List Text) : List Nat :=
  (List.range lines.length).filter (isMarked width (repeatsFrom width minChars [] 0 lines))

lemma mem_duplicatedPositions (hw : 0 < width) {i : Nat} :
    i ∈ duplicatedPositions width minChars lines ↔ IsDuplicated lines width minChars i := by
  rw [duplicatedPositions, List.mem_filter, List.mem_range, isMarked_iff hw,
    and_iff_right_of_imp fun h => (bounds_of_isDuplicated h).2.1]

lemma duplicatedPositions_pairwise : (duplicatedPositions width minChars lines).Pairwise (· < ·) :=
  List.pairwise_lt_range.filter _

lemma duplicatedPositions_nodup : (duplicatedPositions width minChars lines).Nodup :=
  duplicatedPositions_pairwise.imp Nat.ne_of_lt

/-- Too few lines for two windows have no duplicated positions, so that nothing is lost when they
are not looked at. -/
lemma ofLines_eq (hw : 0 < width) (ls : List SignificantLine) :
    let positions := duplicatedPositions width minChars (ls.map (·.text))
    ofLines width minChars ls =
      ⟨positions.length, ls.length, (runs positions).map
        (blockOf ls (repeatsFrom width minChars [] 0 (ls.map (·.text))))⟩ := by
  intro positions
  unfold ofLines
  split
  · next hfew =>
    have hnone : positions = [] := by
      refine List.eq_nil_iff_forall_not_mem.mpr fun i hi => ?_
      have hbounds := bounds_of_isDuplicated ((mem_duplicatedPositions hw).mp hi)
      rw [List.length_map] at hbounds
      omega
    rw [hnone]
    rfl
  · have hpositions : positions = (List.range ls.length).filter
        (isMarked width (repeatsFrom width minChars [] 0 (ls.map (·.text)))) := by
      simp only [positions, duplicatedPositions, List.length_map]
    rw [hpositions]

lemma length_duplicatedPositions_le (hw : 0 < width)
    (hne : duplicatedPositions width minChars lines ≠ []) :
    (duplicatedPositions width minChars lines).length + width ≤ lines.length := by
  obtain ⟨i, hi⟩ := List.exists_mem_of_ne_nil _ hne
  have hbounds := bounds_of_isDuplicated ((mem_duplicatedPositions hw).mp hi)
  have hsub : duplicatedPositions width minChars lines ⊆
      List.range' width (lines.length - width) := by
    intro j hj
    have hj := bounds_of_isDuplicated ((mem_duplicatedPositions hw).mp hj)
    rw [List.mem_range'_1]
    omega
  have hle := (List.subperm_of_subset duplicatedPositions_nodup hsub).length_le
  rw [List.length_range'] at hle
  omega

/-- The duplicated lines are those that a comparison of each window with every earlier window
finds. Too few lines for two windows have none, and there are never more than the lines after the
first window. Joined windows are the same text exactly if their lines are the same. -/
theorem duplicatedLines_eq_encard (s : Source) (hw : 0 < width) (minChars : ι) :
    let lines := s.significantLines.map (·.text)
    let found := Duplication.ofSource width minChars s
    let duplicated := {i | IsDuplicated lines width minChars i}
    duplicated.encard = found.duplicatedLines ∧
      (lines.length < width * 2 → duplicated = ∅) ∧
      (found.duplicatedLines ≠ 0 → found.duplicatedLines + width ≤ lines.length) ∧
      ∀ a b, a + width ≤ lines.length → b + width ≤ lines.length →
        (Text.join "\n" (windowAt lines width a) = Text.join "\n" (windowAt lines width b) ↔
          ∀ k < width, lines[a + k]? = lines[b + k]?) := by
  intro lines found duplicated
  have hlines : found.duplicatedLines = (duplicatedPositions width minChars lines).length := by
    change (ofLines width minChars s.significantLines).duplicatedLines = _
    rw [ofLines_eq hw]
  have hset : duplicated = ((duplicatedPositions width minChars lines).toFinset : Set Nat) := by
    ext i
    rw [List.coe_toFinset]
    exact (mem_duplicatedPositions hw).symm
  refine ⟨?_, ?_, ?_, ?_⟩
  · rw [hset, Set.encard_coe_eq_coe_finsetCard, hlines,
      List.toFinset_card_of_nodup duplicatedPositions_nodup]
  · intro hfew
    refine Set.eq_empty_of_forall_notMem fun i hi => ?_
    have hbounds := bounds_of_isDuplicated hi
    omega
  · intro hne
    rw [hlines] at hne ⊢
    exact length_duplicatedPositions_le hw (mt List.length_eq_zero_iff.mpr hne)
  · intro a b ha hb
    exact join_windowAt_eq_iff (lineFeed_not_mem_significant s) hw ha hb

theorem duplicatedLines_eq_encard_pair :
    let s := Source.ofText Language.generic "a\nb\nx\na\nb"
    let duplicated := {i | IsDuplicated (s.significantLines.map (·.text)) 2 (3 : Int) i}
    0 < 2 ∧ (Duplication.ofSource 2 (3 : Int) s).duplicatedLines ≠ 0 ∧ duplicated.encard = 2 := by
  intro s duplicated
  have hlines : (Duplication.ofSource 2 (3 : Int) s).duplicatedLines = 2 := by decide +kernel
  obtain ⟨hcard, -⟩ := duplicatedLines_eq_encard s (show 0 < 2 by decide) (3 : Int)
  refine ⟨by decide, by rw [hlines]; decide, ?_⟩
  rw [show duplicated.encard = _ from hcard, hlines]
  rfl

end Proofs

end SourceGrade
