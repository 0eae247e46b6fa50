import SourceGrade.Language.Table
import SourceGrade.Proofs.FoundIssues
import SourceGrade.Proofs.RepeatedWindows

/-!
# Blocks of duplicated lines

Each maximal run of duplicated lines is one block. A run starts where a window repeats an earlier
one, so the first window of a block occurs at the line that the block names. The lines after that
window may have been met elsewhere.
-/

namespace SourceGrade

/-- A stretch of neighbouring positions that cannot be made longer. -/
structure IsMaximalRun (P : Nat → Prop) (first length : Nat) : Prop where
  pos : 0 < length
  all : ∀ i, first ≤ i → i < first + length → P i
  before : ∀ i, i + 1 = first → ¬P i
  after : ¬P (first + length)

namespace IsMaximalRun

variable {P Q : Nat → Prop} {first length : Nat}

lemma congr (h : ∀ i, P i ↔ Q i) : IsMaximalRun P first length ↔ IsMaximalRun Q first length := by
  rw [show P = Q from funext fun i => propext (h i)]

lemma unique {first' length' i : Nat} (h : IsMaximalRun P first length)
    (h' : IsMaximalRun P first' length') (hi : first ≤ i ∧ i < first + length)
    (hi' : first' ≤ i ∧ i < first' + length') : first = first' ∧ length = length' := by
  have hfirst : ∀ {f l f' l'}, IsMaximalRun P f l → IsMaximalRun P f' l' →
      f ≤ i → i < f + l → f' ≤ i → ¬f < f' := by
    intro f l f' l' hrun hrun' _ _ _ hlt
    exact hrun'.before (f' - 1) (by omega) (hrun.all _ (by omega) (by omega))
  have heq : first = first' := by
    have := hfirst h h' hi.1 hi.2 hi'.1
    have := hfirst h' h hi'.1 hi'.2 hi.1
    omega
  subst heq
  refine ⟨rfl, ?_⟩
  rcases Nat.lt_trichotomy length length' with hlt | heq | hgt
  · exact absurd (h'.all _ (by omega) (by omega)) h.after
  · exact heq
  · exact absurd (h.all _ (by omega) (by omega)) h'.after

lemma contains {c n i : Nat} (h : IsMaximalRun P first length)
    (hall : ∀ j, c ≤ j → j < c + n → P j) (hi : first ≤ i ∧ i < first + length)
    (hc : c ≤ i ∧ i < c + n) : first ≤ c ∧ c + n ≤ first + length := by
  constructor
  · by_contra hlt
    exact h.before (first - 1) (by omega) (hall _ (by omega) (by omega))
  · by_contra hlt
    exact h.after (hall _ (by omega) (by omega))

end IsMaximalRun

namespace Duplication

/-- A block that shows a run of duplicated lines, with the position of the window that the first
lines of the run repeat. -/
structure Shows {ι : Type} [Comparable ι] (ls : List SignificantLine) (width : Nat) (minChars : ι)
    (run : Nat × Nat) (source : Nat) (b : DuplicateBlock) : Prop where
  recorded : (repeatsFrom width minChars [] 0 (ls.map (·.text))).find? (·.start = run.1) =
    some ⟨run.1, source⟩
  apart : source + width ≤ run.1
  firstLine : (ls[source]?).map (·.number) = some b.firstLine
  duplicateLine : (ls[run.1]?).map (·.number) = some b.duplicateLine
  length_eq : b.length = run.2

end Duplication

namespace Proofs

open Duplication

/-! ### Maximal runs -/

section

variable {first length : Nat}

lemma runs_cons (i : Nat) (is : List Nat) :
    (runs (i :: is) = (i, 1) :: runs is ∧ ∀ r ∈ (runs is).head?, r.1 ≠ i + 1) ∨
      ∃ length rest, runs is = (i + 1, length) :: rest ∧
        runs (i :: is) = (i, length + 1) :: rest := by
  rw [runs]
  cases hruns : runs is with
  | nil => exact .inl ⟨rfl, by simp⟩
  | cons r rest =>
    obtain ⟨first, length⟩ := r
    by_cases h : first = i + 1
    · subst h
      exact .inr ⟨length, rest, rfl, by simp⟩
    · exact .inl ⟨by simp [h], by simpa using h⟩

lemma runs_flatMap (is : List Nat) : ((runs is).flatMap fun r => List.range' r.1 r.2) = is := by
  induction is with
  | nil => rfl
  | cons i is ih =>
    obtain ⟨heq, -⟩ | ⟨length, rest, hruns, heq⟩ := runs_cons i is
    · rw [heq, List.flatMap_cons, ih]
      rfl
    · rw [hruns, List.flatMap_cons] at ih
      rw [heq, List.flatMap_cons, List.range'_succ, List.cons_append, ih]

lemma runs_pos (is : List Nat) : ∀ r ∈ runs is, 0 < r.2 := by
  induction is with
  | nil => exact List.forall_mem_nil _
  | cons i is ih =>
    obtain ⟨heq, -⟩ | ⟨length, rest, hruns, heq⟩ := runs_cons i is
    · rw [heq]
      exact List.forall_mem_cons.mpr ⟨Nat.one_pos, ih⟩
    · rw [hruns] at ih
      rw [heq]
      exact List.forall_mem_cons.mpr ⟨Nat.succ_pos _, (List.forall_mem_cons.mp ih).2⟩

lemma mem_runs_range {is : List Nat} {i : Nat} :
    i ∈ is ↔ ∃ r ∈ runs is, r.1 ≤ i ∧ i < r.1 + r.2 := by
  conv_lhs => rw [← runs_flatMap is]
  simp only [List.mem_flatMap, List.mem_range'_1]

lemma runs_gaps {is : List Nat} (h : is.Pairwise (· < ·)) :
    (runs is).Pairwise fun r r' => r.1 + r.2 < r'.1 := by
  induction is with
  | nil => exact List.Pairwise.nil
  | cons i is ih =>
    obtain ⟨hlt, his⟩ := List.pairwise_cons.mp h
    have hgaps := ih his
    obtain ⟨heq, hhead⟩ | ⟨length, rest, hruns, heq⟩ := runs_cons i is
    · rw [heq]
      refine List.pairwise_cons.mpr ⟨?_, hgaps⟩
      cases hruns : runs is with
      | nil => exact List.forall_mem_nil _
      | cons s rest =>
        rw [hruns] at hgaps hhead
        have hmem : s ∈ runs is := hruns ▸ List.mem_cons_self
        have hpos := runs_pos is s hmem
        have hi : i < s.1 := hlt s.1 (mem_runs_range.mpr ⟨s, hmem, le_rfl, by omega⟩)
        have hne : s.1 ≠ i + 1 := hhead s rfl
        have hs : i + 1 < s.1 := by omega
        refine List.forall_mem_cons.mpr ⟨hs, fun r hr => ?_⟩
        have := (List.pairwise_cons.mp hgaps).1 r hr
        dsimp only
        omega
    · rw [hruns] at hgaps
      obtain ⟨hfirst, hrest⟩ := List.pairwise_cons.mp hgaps
      rw [heq]
      refine List.pairwise_cons.mpr ⟨fun r hr => ?_, hrest⟩
      have := hfirst r hr
      dsimp only at this ⊢
      omega

lemma runs_apart {is : List Nat} (h : is.Pairwise (· < ·)) {r r' : Nat × Nat} (hr : r ∈ runs is)
    (hr' : r' ∈ runs is) (hne : r ≠ r') : r.1 + r.2 < r'.1 ∨ r'.1 + r'.2 < r.1 := by
  have hgaps : (runs is).Pairwise fun r r' : Nat × Nat =>
      r.1 + r.2 < r'.1 ∨ r'.1 + r'.2 < r.1 := (runs_gaps h).imp fun h => .inl h
  have hsymm : Std.Symm fun r r' : Nat × Nat => r.1 + r.2 < r'.1 ∨ r'.1 + r'.2 < r.1 :=
    ⟨fun _ _ => Or.symm⟩
  exact hgaps.forall hr hr' hne

/-- The runs of increasing positions are the maximal ones. -/
lemma mem_runs_iff {is : List Nat} (h : is.Pairwise (· < ·)) :
    (first, length) ∈ runs is ↔ IsMaximalRun (· ∈ is) first length := by
  have hmaximal : ∀ r ∈ runs is, IsMaximalRun (· ∈ is) r.1 r.2 := by
    intro r hr
    have hpos := runs_pos is r hr
    have houtside : ∀ i, i ∈ is → r.1 ≤ i + 1 → i ≤ r.1 + r.2 → r.1 ≤ i ∧ i < r.1 + r.2 := by
      intro i hi hle hge
      obtain ⟨r', hr', hle', hlt'⟩ := mem_runs_range.mp hi
      by_cases hsame : r = r'
      · exact hsame ▸ ⟨hle', hlt'⟩
      · have := runs_apart h hr hr' hsame
        omega
    refine ⟨hpos, fun i hle hlt => mem_runs_range.mpr ⟨r, hr, hle, hlt⟩, ?_, ?_⟩
    · intro i hi hmem
      have := houtside i hmem (by omega) (by omega)
      omega
    · intro hmem
      have := houtside _ hmem (by omega) le_rfl
      omega
  constructor
  · exact hmaximal (first, length)
  · intro hrun
    have hpos := hrun.pos
    obtain ⟨r, hr, hle, hlt⟩ := mem_runs_range.mp (hrun.all first le_rfl (by omega))
    obtain ⟨rfl, rfl⟩ := hrun.unique (hmaximal r hr) ⟨le_rfl, by omega⟩ ⟨hle, hlt⟩
    exact hr

end

/-! ### Blocks -/

variable {ι : Type} [Comparable ι] {ls : List SignificantLine} {lines : List Text} {width : Nat}
  {minChars : ι} {first length : Nat}

lemma exists_repeatsFirst_of_run
    (h : IsMaximalRun (IsDuplicated lines width minChars) first length) :
    ∃ source, RepeatsFirst lines width minChars ⟨first, source⟩ ∧ width ≤ length := by
  have hpos := h.pos
  obtain ⟨a, b, hrepeats, hle, hlt⟩ := h.all first le_rfl (by omega)
  obtain ⟨hge, hend⟩ := h.contains (fun j => hrepeats.isDuplicated) ⟨le_rfl, by omega⟩ ⟨hle, hlt⟩
  obtain rfl := le_antisymm hle hge
  obtain ⟨⟨start, source⟩, hfirst, rfl⟩ := exists_repeatsFirst hrepeats
  exact ⟨source, hfirst, by omega⟩

lemma RepeatsFirst.unique {r r' : Repeat} (h : RepeatsFirst lines width minChars r)
    (h' : RepeatsFirst lines width minChars r') (hstart : r.start = r'.start) : r = r' := by
  have hle : ∀ {r r' : Repeat}, RepeatsFirst lines width minChars r →
      RepeatsFirst lines width minChars r' → r.start = r'.start → r.earlier ≤ r'.earlier := by
    intro r r' h h' hstart
    refine Nat.le_of_not_lt fun hlt => h.first _ hlt ?_
    rw [windowAt_eq_iff.mpr h'.same, hstart]
  have heq := le_antisymm (hle h h' hstart) (hle h' h hstart.symm)
  cases r
  cases r'
  simp_all

lemma find?_repeats (hw : 0 < width) {r : Repeat} (h : RepeatsFirst lines width minChars r) :
    (repeatsFrom width minChars [] 0 lines).find? (·.start = r.start) = some r := by
  cases hfind : (repeatsFrom width minChars [] 0 lines).find? (·.start = r.start) with
  | none => simpa using List.find?_eq_none.mp hfind r ((mem_repeats hw r).mpr h)
  | some r' =>
    have hr' := (mem_repeats hw r').mp (List.mem_of_find?_eq_some hfind)
    have hstart : r'.start = r.start := by simpa using List.find?_some hfind
    rw [hr'.unique h hstart]

lemma number_numberAt {i : Nat} (h : i < ls.length) :
    (ls[i]?).map (·.number) = some (numberAt ls i) := by
  simp [numberAt, h]

lemma blockOf_shows (hw : 0 < width) (h : IsMaximalRun
    (IsDuplicated (ls.map (·.text)) width minChars) first length) :
    ∃ source, Shows ls width minChars (first, length) source
        (blockOf ls (repeatsFrom width minChars [] 0 (ls.map (·.text))) (first, length)) ∧
      Repeats (ls.map (·.text)) width minChars source first ∧ width ≤ length := by
  obtain ⟨source, hfirst, hle⟩ := exists_repeatsFirst_of_run h
  have hfind := find?_repeats hw hfirst
  have hapart := hfirst.apart
  have hinside := hfirst.inside
  rw [List.length_map] at hinside
  dsimp only at hfind hapart hinside
  refine ⟨source, ⟨hfind, hapart, ?_, ?_, rfl⟩, hfirst.toRepeats, hle⟩
  · rw [number_numberAt (by omega), blockOf, hfind]
    rfl
  · exact number_numberAt (by omega)

lemma mem_stretches (hw : 0 < width) :
    (first, length) ∈ runs (duplicatedPositions width minChars lines) ↔
      IsMaximalRun (IsDuplicated lines width minChars) first length := by
  rw [mem_runs_iff duplicatedPositions_pairwise]
  exact IsMaximalRun.congr fun i => mem_duplicatedPositions hw

lemma exists_run_of_block (hw : 0 < width) {b : DuplicateBlock}
    (hb : b ∈ (ofLines width minChars ls).blocks) :
    ∃ first source, IsMaximalRun (IsDuplicated (ls.map (·.text)) width minChars) first b.length ∧
      Shows ls width minChars (first, b.length) source b ∧
      Repeats (ls.map (·.text)) width minChars source first ∧ width ≤ b.length := by
  rw [ofLines_eq hw] at hb
  obtain ⟨⟨first, length⟩, hmem, rfl⟩ := List.mem_map.mp hb
  have hrun := (mem_stretches hw).mp hmem
  obtain ⟨source, hshows, hrepeats, hle⟩ := blockOf_shows hw hrun
  exact ⟨first, source, hrun, hshows, hrepeats, hle⟩

/-! ### Line numbers -/

lemma significant_numbers (l : Language) (text : Text) :
    ((Source.ofText l text).significantLines.map (·.number)).Pairwise (· < ·) := by
  have hlines : ((Source.ofText l text).lines).Pairwise fun a b => a.number < b.number := by
    rw [List.pairwise_iff_getElem]
    intro i j hi hj hlt
    rw [ofText_number l text (List.getElem?_eq_getElem hi),
      ofText_number l text (List.getElem?_eq_getElem hj)]
    omega
  rw [Source.significantLines, List.map_map, List.pairwise_map]
  exact hlines.filter _

lemma number_lt (h : (ls.map (·.number)).Pairwise (· < ·)) {a b m n : Nat} (hlt : a < b)
    (ha : (ls[a]?).map (·.number) = some m) (hb : (ls[b]?).map (·.number) = some n) : m < n := by
  rw [← List.getElem?_map] at ha hb
  obtain ⟨ha, rfl⟩ := List.getElem?_eq_some_iff.mp ha
  obtain ⟨hb, rfl⟩ := List.getElem?_eq_some_iff.mp hb
  exact List.pairwise_iff_getElem.mp h a b _ _ hlt

/-! ### Main results -/

/-- The blocks are the maximal runs of duplicated lines, in order and with gaps between them. Each
is at least as long as a window, together they have all duplicated lines, and each names the line of
an earlier window, which ends before the run. -/
theorem blocks_maximal_runs (l : Language) (text : Text) (hw : 0 < width) (minChars : ι) :
    let s := Source.ofText l text
    let lines := s.significantLines.map (·.text)
    let found := Duplication.ofSource width minChars s
    ∃ stretches : List (Nat × Nat),
      (∀ first length, (first, length) ∈ stretches ↔
        IsMaximalRun (IsDuplicated lines width minChars) first length) ∧
      stretches.Pairwise (fun r r' => r.1 + r.2 < r'.1) ∧
      List.Forall₂ (fun run b => ∃ source, Shows s.significantLines width minChars run source b)
        stretches found.blocks ∧
      (∀ b ∈ found.blocks, width ≤ b.length ∧ b.firstLine < b.duplicateLine) ∧
      (found.blocks.map (·.length)).sum = found.duplicatedLines := by
  intro s lines found
  have hfound : found = ofLines width minChars s.significantLines := rfl
  refine ⟨runs (duplicatedPositions width minChars lines), fun _ _ => mem_stretches hw,
    runs_gaps duplicatedPositions_pairwise, ?_, ?_, ?_⟩
  · rw [hfound, ofLines_eq hw, List.forall₂_map_right_iff]
    refine List.forall₂_same.mpr fun run hrun => ?_
    obtain ⟨source, hshows, -, -⟩ := blockOf_shows hw ((mem_stretches hw).mp hrun)
    exact ⟨source, hshows⟩
  · intro b hb
    obtain ⟨first, source, -, hshows, -, hle⟩ := exists_run_of_block hw hb
    have hapart : source < first := Nat.lt_of_lt_of_le (Nat.lt_add_of_pos_right hw) hshows.apart
    exact ⟨hle, number_lt (significant_numbers l text) hapart hshows.firstLine
      hshows.duplicateLine⟩
  · have hlengths := congrArg List.length (runs_flatMap (duplicatedPositions width minChars lines))
    rw [hfound, ofLines_eq hw, List.map_map, ← hlengths, List.length_flatMap]
    simp only [List.length_range']
    rfl

theorem blocks_maximal_runs_pair :
    let s := Source.ofText Language.generic "a\nb\nx\na\nb"
    let lines := s.significantLines.map (·.text)
    0 < 2 ∧ ∃ first, IsMaximalRun (IsDuplicated lines 2 (3 : Int)) first 2 := by
  intro s lines
  have hblocks : (Duplication.ofSource 2 (3 : Int) s).blocks = [⟨1, 4, 2⟩] := by decide +kernel
  obtain ⟨stretches, hruns, -, hshown, -⟩ :=
    blocks_maximal_runs Language.generic "a\nb\nx\na\nb" (show 0 < 2 by decide) (3 : Int)
  rw [hblocks] at hshown
  obtain ⟨⟨first, length⟩, rest, ⟨source, hshows⟩, -, rfl⟩ := List.forall₂_cons_right_iff.mp hshown
  obtain rfl : 2 = length := hshows.length_eq
  exact ⟨by decide, first, (hruns first 2).mp List.mem_cons_self⟩

/-- The first window of a block is the one at the line that the block names, and each line of a
block is in a window inside it that repeats an earlier one. So the whole block repeats what it names
exactly if the windows that it was put together from also follow each other there. -/
theorem blocks_repeat_windows (s : Source) (hw : 0 < width) (minChars : ι) :
    let lines := s.significantLines.map (·.text)
    ∀ b ∈ (Duplication.ofSource width minChars s).blocks, ∃ first source,
      Shows s.significantLines width minChars (first, b.length) source b ∧
        width ≤ b.length ∧
        (∀ k < width, lines[source + k]? = lines[first + k]?) ∧
        (∀ i, first ≤ i → i < first + b.length → ∃ a c, Repeats lines width minChars a c ∧
          c ≤ i ∧ i < c + width ∧ first ≤ c ∧ c + width ≤ first + b.length) ∧
        ((∀ k < b.length, lines[source + k]? = lines[first + k]?) ↔
          ∀ c a, ⟨first + c, a⟩ ∈ repeatsFrom width minChars [] 0 lines → c + width ≤ b.length →
            ∀ k < width, lines[source + c + k]? = lines[a + k]?) := by
  intro lines b hb
  obtain ⟨first, source, hrun, hshows, hrepeats, hle⟩ := exists_run_of_block hw hb
  have hinside : ∀ i, first ≤ i → i < first + b.length → ∃ a c, Repeats lines width minChars a c ∧
      c ≤ i ∧ i < c + width ∧ first ≤ c ∧ c + width ≤ first + b.length := by
    intro i hge hlt
    obtain ⟨a, c, h, hci, hic⟩ := hrun.all i hge hlt
    exact ⟨a, c, h, hci, hic, hrun.contains (fun j => h.isDuplicated) ⟨hge, hlt⟩ ⟨hci, hic⟩⟩
  refine ⟨first, source, hshows, hle, hrepeats.same, hinside, ?_⟩
  constructor
  · intro hall c a hmem hc k hk
    have hsame := ((mem_repeats hw _).mp hmem).same k hk
    have hblock := hall (c + k) (by omega)
    rw [← Nat.add_assoc, ← Nat.add_assoc] at hblock
    rw [hblock, ← hsame]
  · intro hwindows k hk
    obtain ⟨a, c, h, hci, hic, hfirst, hend⟩ := hinside (first + k) (by omega) (by omega)
    obtain ⟨⟨start, earlier⟩, hr, hstart⟩ := exists_repeatsFirst h
    obtain ⟨d, rfl⟩ := Nat.exists_eq_add_of_le hfirst
    obtain rfl : start = first + d := hstart
    have hmem := (mem_repeats hw _).mpr hr
    obtain ⟨j, rfl⟩ := Nat.exists_eq_add_of_le (show d ≤ k by omega)
    have hnamed := hwindows d earlier hmem (by omega) j (by omega)
    have hsame := hr.same j (by omega)
    rw [← Nat.add_assoc, ← Nat.add_assoc, hnamed, hsame]

/-- Lines that repeat two earlier windows in one block. -/
def gluedText : Text := "a\nb\nx\nb\nc\ny\na\nb\nc"

theorem blocks_repeat_windows_glued :
    let s := Source.ofText Language.generic gluedText
    let lines := s.significantLines.map (·.text)
    0 < 2 ∧ (⟨1, 7, 3⟩ : DuplicateBlock) ∈ (Duplication.ofSource 2 (1 : Int) s).blocks ∧
      ∃ first source, Shows s.significantLines 2 (1 : Int) (first, 3) source ⟨1, 7, 3⟩ ∧
        ∀ k < 2, lines[source + k]? = lines[first + k]? := by
  intro s lines
  have hblock : (⟨1, 7, 3⟩ : DuplicateBlock) ∈ (Duplication.ofSource 2 (1 : Int) s).blocks := by
    decide +kernel
  obtain ⟨first, source, hshows, -, hsame, -⟩ :=
    blocks_repeat_windows s (show 0 < 2 by decide) (1 : Int) _ hblock
  exact ⟨by decide, hblock, first, source, hshows, hsame⟩

/-- The lines of a block need not all follow the line that it names: the third of these does not. -/
theorem blocks_glued_differ :
    let s := Source.ofText Language.generic gluedText
    let lines := s.significantLines.map (·.text)
    (Duplication.ofSource 2 (1 : Int) s).blocks = [⟨1, 7, 3⟩] ∧
      (s.significantLines[0]?).map (·.number) = some 1 ∧
      (s.significantLines[6]?).map (·.number) = some 7 ∧
      ¬∀ k < 3, lines[0 + k]? = lines[6 + k]? := by
  decide +kernel

end Proofs

end SourceGrade
