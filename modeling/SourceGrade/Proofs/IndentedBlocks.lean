import Mathlib.Data.List.Induction
import Mathlib.Tactic.Common
import SourceGrade.Language.Table
import SourceGrade.Proofs.FoundIssues

/-!
# Indented blocks

A line that ends with a colon opens a block, which goes on while the lines with code are indented
further. The open blocks are indented further and further, so it is enough to close them from the
innermost one on until one is indented less than the line.
-/

namespace SourceGrade

namespace Indentation

/-- The kind of the block that a line opens. -/
def kindOf (keywords : List (Text × BlockKind)) (l : SourceLine) : BlockKind :=
  (keywords.lookup (firstWord l.stripped)).getD .other

/-- One of some lines opens a block that the lines after it do not close. -/
structure OpenHeader (lines : List SourceLine) (h : Nat) (header : SourceLine) : Prop where
  getElem?_eq : lines[h]? = some header
  hasCode : header.hasCode = true
  colon : Text.endsWith ":" header.stripped = true
  deeper : ∀ j line, h < j → lines[j]? = some line → line.hasCode = true →
    header.indent < line.indent

/-- The open blocks after any line. -/
def next (keywords : List (Text × BlockKind)) (open_ : List (Nat × BlockKind)) (l : SourceLine) :
    List (Nat × BlockKind) :=
  if l.hasCode then step keywords open_ l else open_

end Indentation

namespace Proofs

open Indentation

variable {keywords : List (Text × BlockKind)}

lemma stacksFrom_getElem? (open_ : List (Nat × BlockKind)) (ls : List SourceLine) {k : Nat}
    (hk : k < ls.length) :
    (Indentation.stacksFrom keywords open_ ls)[k]? =
      some (((ls.take (k + 1)).foldl (next keywords) open_).map (·.2)).reverse := by
  induction ls generalizing open_ k with
  | nil => simp at hk
  | cons l ls ih =>
    cases k with
    | zero => rfl
    | succ k => exact ih _ (Nat.lt_of_succ_lt_succ hk)

/-- A line with code closes the blocks that are not indented less, and may open one itself. -/
lemma openHeader_concat {lines : List SourceLine} {l : SourceLine} {h : Nat}
    {header : SourceLine} :
    OpenHeader (lines ++ [l]) h header ↔
      OpenHeader lines h header ∧ (l.hasCode = true → header.indent < l.indent) ∨
        (h = lines.length ∧ header = l) ∧ l.hasCode = true ∧
          Text.endsWith ":" l.stripped = true := by
  constructor
  · intro hopen
    have heq := hopen.getElem?_eq
    rcases Nat.lt_trichotomy h lines.length with hlt | rfl | hgt
    · rw [List.getElem?_append_left hlt] at heq
      refine .inl ⟨⟨heq, hopen.hasCode, hopen.colon, fun j line hj hline => ?_⟩, fun hcode => ?_⟩
      · refine hopen.deeper j line hj ?_
        rwa [List.getElem?_append_left (List.getElem?_eq_some_iff.mp hline).1]
      · exact hopen.deeper lines.length l hlt List.getElem?_concat_length hcode
    · rw [List.getElem?_concat_length] at heq
      obtain rfl := Option.some.inj heq
      exact .inr ⟨⟨rfl, rfl⟩, hopen.hasCode, hopen.colon⟩
    · rw [List.getElem?_eq_none (by simp; omega)] at heq
      cases heq
  · rintro (⟨hopen, hdeeper⟩ | ⟨⟨rfl, rfl⟩, hcode, hcolon⟩)
    · have hlt := (List.getElem?_eq_some_iff.mp hopen.getElem?_eq).1
      refine ⟨?_, hopen.hasCode, hopen.colon, fun j line hj hline hcode => ?_⟩
      · rw [List.getElem?_append_left hlt]
        exact hopen.getElem?_eq
      · rcases Nat.lt_trichotomy j lines.length with hlt' | rfl | hgt
        · rw [List.getElem?_append_left hlt'] at hline
          exact hopen.deeper j line hj hline hcode
        · rw [List.getElem?_concat_length] at hline
          obtain rfl := Option.some.inj hline
          exact hdeeper hcode
        · rw [List.getElem?_eq_none (by simp; omega)] at hline
          cases hline
    · refine ⟨List.getElem?_concat_length, hcode, hcolon, fun j line hj hline => ?_⟩
      rw [List.getElem?_eq_none (by simp; omega)] at hline
      cases hline

/-- Headers with the number of lines before them, in their order and indented further and
further. -/
def Nested (headers : List (Nat × SourceLine)) : Prop :=
  headers.Pairwise fun a b => a.1 < b.1 ∧ a.2.indent < b.2.indent

/-- The blocks that some headers open, the innermost first. -/
def blocksOf (keywords : List (Text × BlockKind)) (headers : List (Nat × SourceLine)) :
    List (Nat × BlockKind) :=
  (headers.map fun a => (a.2.indent, kindOf keywords a.2)).reverse

lemma dropWhile_blocksOf {headers : List (Nat × SourceLine)} (hnested : Nested headers)
    (indent : Nat) :
    (blocksOf keywords headers).dropWhile (indent ≤ ·.1) =
      blocksOf keywords (headers.filter (·.2.indent < indent)) := by
  induction headers using List.reverseRecOn with
  | nil => rfl
  | append_singleton headers a ih =>
    obtain ⟨hheaders, -, hlast⟩ := List.pairwise_append.mp hnested
    have hcons : blocksOf keywords (headers ++ [a]) =
        (a.2.indent, kindOf keywords a.2) :: blocksOf keywords headers := by
      simp [blocksOf]
    rw [hcons]
    by_cases hle : indent ≤ a.2.indent
    · rw [List.dropWhile_cons_of_pos (by simpa using hle), ih hheaders, List.filter_append,
        List.filter_cons_of_neg (by simpa using hle), List.filter_nil, List.append_nil]
    · have hall : ∀ b ∈ headers ++ [a], decide (b.2.indent < indent) = true := by
        intro b hb
        rcases List.mem_append.mp hb with hb | hb
        · have := (hlast b hb a (List.mem_singleton_self a)).2
          exact decide_eq_true (by omega)
        · obtain rfl := List.mem_singleton.mp hb
          exact decide_eq_true (by omega)
      rw [List.dropWhile_cons_of_neg (by simpa using hle), List.filter_eq_self.mpr hall, hcons]

/-- What a line with code leaves of some headers, and the header that it may be itself. -/
def headersAfter (headers : List (Nat × SourceLine)) (index : Nat) (l : SourceLine) :
    List (Nat × SourceLine) :=
  headers.filter (·.2.indent < l.indent) ++
    if Text.endsWith ":" l.stripped then [(index, l)] else []

lemma step_blocksOf {headers : List (Nat × SourceLine)} (hnested : Nested headers) (index : Nat)
    (l : SourceLine) :
    step keywords (blocksOf keywords headers) l =
      blocksOf keywords (headersAfter headers index l) := by
  unfold step headersAfter
  rw [dropWhile_blocksOf hnested]
  by_cases hcolon : Text.endsWith ":" l.stripped = true
  · rw [if_pos hcolon, if_pos hcolon]
    simp [blocksOf, kindOf]
  · rw [if_neg hcolon, if_neg hcolon, List.append_nil]

lemma nested_headersAfter {headers : List (Nat × SourceLine)} (hnested : Nested headers)
    {index : Nat} (hbefore : ∀ a ∈ headers, a.1 < index) (l : SourceLine) :
    Nested (headersAfter headers index l) := by
  refine List.pairwise_append.mpr ⟨hnested.filter _, ?_, fun a ha b hb => ?_⟩
  · split <;> simp
  · obtain ⟨ha, hdeeper⟩ := List.mem_filter.mp ha
    split at hb
    · obtain rfl := List.mem_singleton.mp hb
      exact ⟨hbefore a ha, of_decide_eq_true hdeeper⟩
    · cases hb

lemma mem_headersAfter {lines : List SourceLine} {headers : List (Nat × SourceLine)}
    (hmem : ∀ h header, (h, header) ∈ headers ↔ OpenHeader lines h header) {l : SourceLine}
    (hcode : l.hasCode = true) (h : Nat) (header : SourceLine) :
    (h, header) ∈ headersAfter headers lines.length l ↔ OpenHeader (lines ++ [l]) h header := by
  rw [headersAfter, List.mem_append, List.mem_filter, hmem, openHeader_concat]
  by_cases hcolon : Text.endsWith ":" l.stripped = true
  · rw [if_pos hcolon, List.mem_singleton, Prod.mk.injEq]
    simp only [hcode, hcolon, true_imp_iff, and_true, decide_eq_true_eq]
  · rw [if_neg hcolon]
    simp only [hcode, hcolon, true_imp_iff, List.not_mem_nil, and_false, decide_eq_true_eq,
      Bool.false_eq_true]

lemma foldl_next (lines : List SourceLine) :
    ∃ headers, (∀ h header, (h, header) ∈ headers ↔ OpenHeader lines h header) ∧ Nested headers ∧
      lines.foldl (next keywords) [] = blocksOf keywords headers := by
  induction lines using List.reverseRecOn with
  | nil =>
    refine ⟨[], fun h header => ⟨fun hmem => ?_, fun hopen => ?_⟩, .nil, rfl⟩
    · cases hmem
    · cases hopen.getElem?_eq
  | append_singleton lines l ih =>
    obtain ⟨headers, hmem, hnested, hstack⟩ := ih
    rw [List.foldl_append, List.foldl_cons, List.foldl_nil, hstack, next]
    by_cases hcode : l.hasCode = true
    · have hbefore : ∀ a ∈ headers, a.1 < lines.length := fun a ha =>
        (List.getElem?_eq_some_iff.mp ((hmem a.1 a.2).mp ha).getElem?_eq).1
      refine ⟨headersAfter headers lines.length l, mem_headersAfter hmem hcode,
        nested_headersAfter hnested hbefore l, ?_⟩
      rw [if_pos hcode, step_blocksOf hnested]
    · refine ⟨headers, fun h header => ?_, hnested, if_neg hcode⟩
      rw [hmem, openHeader_concat]
      simp [hcode]

/-- The blocks around a line of a source whose blocks are indented are those of the headers before
it, and of the line itself, that every line with code after them up to it is indented further
than; these headers are indented further and further. -/
theorem indentedBlocks_headers (s : Source) (hs : s.language.blockStyle = .indentation) :
    ∃ m, BlockMap.ofSource s = .ok m ∧ m.lineBlocks.length = s.lines.length ∧
      ∀ k < s.lines.length, ∃ headers : List (Nat × SourceLine),
        (∀ h header, (h, header) ∈ headers ↔ OpenHeader (s.lines.take (k + 1)) h header) ∧
          headers.Pairwise (fun a b => a.1 < b.1 ∧ a.2.indent < b.2.indent) ∧
          m.kindsAt (k + 1) = headers.map fun a => kindOf s.language.blockKeywords a.2 := by
  have hm : BlockMap.ofSource s = .ok ⟨Indentation.lineBlocks s⟩ := by
    rw [BlockMap.ofSource, hs]
  refine ⟨_, hm, blockMap_length hm, fun k hk => ?_⟩
  obtain ⟨headers, hmem, hnested, hstack⟩ := foldl_next (s.lines.take (k + 1))
  refine ⟨headers, hmem, hnested, ?_⟩
  rw [BlockMap.kindsAt_succ, Indentation.lineBlocks, stacksFrom_getElem? [] s.lines hk, hstack]
  simp [blocksOf]

/-- A line without code keeps three blocks open, and one line closes them all. -/
theorem indentedBlocks_headers_dedent :
    let s := Source.ofText Language.python "def f():\n  if a:\n    for x in y:\n\n      b\nc"
    s.language.blockStyle = .indentation ∧ ∃ m, BlockMap.ofSource s = .ok m ∧
      m.kindsAt 4 = [.other, .conditional, .loop] ∧ ∀ k < 6,
        ∃ headers : List (Nat × SourceLine),
          (∀ h header, (h, header) ∈ headers ↔ OpenHeader (s.lines.take (k + 1)) h header) ∧
            headers.Pairwise (fun a b => a.1 < b.1 ∧ a.2.indent < b.2.indent) ∧
            [[.other], [.other, .conditional], [.other, .conditional, .loop],
              [.other, .conditional, .loop], [.other, .conditional, .loop], []][k]? =
              some (headers.map fun a => kindOf s.language.blockKeywords a.2) := by
  intro s
  have hs : s.language.blockStyle = .indentation := rfl
  obtain ⟨m, hm, hlength, hlines⟩ := indentedBlocks_headers s hs
  have hblocks : BlockMap.ofSource s = .ok ⟨[[.other], [.other, .conditional],
      [.other, .conditional, .loop], [.other, .conditional, .loop], [.other, .conditional, .loop],
      []]⟩ := by decide +kernel
  obtain rfl := Except.ok.inj (hm.symm.trans hblocks)
  refine ⟨hs, _, hm, by decide, fun k hk => ?_⟩
  have hlt : k < s.lines.length := hk.trans_eq hlength
  obtain ⟨headers, hmem, hnested, hkinds⟩ := hlines k hlt
  refine ⟨headers, hmem, hnested, ?_⟩
  rw [BlockMap.kindsAt_succ] at hkinds
  rw [← hkinds, List.getElem?_eq_getElem hk]
  rfl

end Proofs

end SourceGrade
