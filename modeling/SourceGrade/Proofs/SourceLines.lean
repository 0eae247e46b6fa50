import SourceGrade.Proofs.ScanLines

/-!
# The lines of a source unit

A source unit has one line for each piece of its normalized text between line feeds, numbered from
1. The scanner collects exactly one text of code and one of comments for each of them, both picked
from places of that line which they do not share.
-/

namespace SourceGrade.Proofs

/-! ### Normalized texts -/

lemma lineFeed_prefix_iff (r : Text) : ['\n'] <+: r ↔ ∃ r', r = '\n' :: r' := by
  constructor
  · rintro ⟨r', h⟩
    exact ⟨r', h.symm⟩
  · rintro ⟨r', rfl⟩
    exact ⟨r', rfl⟩

lemma unifyLineEnds_eq_replace (t : Text) :
    Text.unifyLineEnds t = Text.replace "\r" "\n" (Text.replace "\r\n" "\n" t) := by
  change Text.unifyLineEnds t =
    Text.replace.go "\n".toList '\r' [] (Text.replace.go "\n".toList '\r' ['\n'] t 0) 0
  induction t using Text.unifyLineEnds.induct with
  | case1 => rfl
  | case2 r ih => simp [Text.unifyLineEnds, Text.replace.go, startsWith_iff, ih]
  | case3 r hr ih =>
    have hn : ¬['\n'] <+: r := fun h => by
      obtain ⟨r', hr'⟩ := (lineFeed_prefix_iff r).mp h
      exact hr r' hr'
    simp [Text.unifyLineEnds, Text.replace.go, startsWith_iff, hn, ih]
  | case4 c r _ hc ih =>
    have hc : '\r' ≠ c := fun h => hc h.symm
    simp [Text.unifyLineEnds, Text.replace.go, startsWith_iff, hc, ih]

lemma dropFinalLineFeed_append (t : Text) : Source.dropFinalLineFeed (t ++ ['\n']) = t := by
  induction t with
  | nil => rfl
  | cons c r ih =>
    rw [List.cons_append, Source.dropFinalLineFeed, ih]
    simp

lemma dropFinalLineFeed_of_getLast? (t : Text) (h : t.getLast? ≠ some '\n') :
    Source.dropFinalLineFeed t = t := by
  induction t using Source.dropFinalLineFeed.induct with
  | case1 => rfl
  | case2 => simp at h
  | case3 c r hr ih =>
    rw [Source.dropFinalLineFeed]
    · cases r with
      | nil => rfl
      | cons d r => rw [ih (by rwa [List.getLast?_cons_cons] at h)]
    · exact hr

lemma normalize_eq (t : Text) :
    Source.normalize t =
      let u := Text.replace "\r" "\n" (Text.replace "\r\n" "\n" t)
      if u.getLast? = some '\n' then u.dropLast else u := by
  rw [Source.normalize, unifyLineEnds_eq_replace]
  dsimp only
  split
  · next h =>
    obtain ⟨ys, hys⟩ := List.getLast?_eq_some_iff.mp h
    rw [hys, dropFinalLineFeed_append, List.dropLast_concat]
  · next h => exact dropFinalLineFeed_of_getLast? _ h

lemma normalize_eq_self (t : Text) (hr : '\r' ∉ t) (hn : t.getLast? ≠ some '\n') :
    Source.normalize t = t := by
  have hu : Text.unifyLineEnds t = t := by
    clear hn
    induction t using Text.unifyLineEnds.induct with
    | case1 => rfl
    | case2 r => simp at hr
    | case3 r => simp at hr
    | case4 c r h₁ h₂ ih =>
      rw [Text.unifyLineEnds, ih fun h => hr (List.mem_cons_of_mem c h)]
      · exact h₁
      · exact h₂
  rw [Source.normalize, hu, dropFinalLineFeed_of_getLast? t hn]

/-! ### Numbered lines -/

lemma numberFrom_eq_mapIdx (n : Nat) (w : List (List (Char × Part))) :
    Source.numberFrom n w = w.mapIdx fun k line => .ofLabelled (n + k) line := by
  induction w generalizing n with
  | nil => rfl
  | cons x w ih =>
    rw [Source.numberFrom, ih, List.mapIdx_cons]
    simp only [Nat.add_zero, Nat.add_assoc, Nat.add_comm 1]

lemma start_modeOf (l : Language) : ModeOf l Scanner.start.mode := trivial

/-- The code and the comments that a scan of a text collects, line by line. -/
def collectLines (l : Language) (t : Text) : List Text × List Text :=
  let a := Scanner.start.run l 0 t
  (a.allCode, a.allComments)

/-- The labelled lines of a text. -/
def linesOf (l : Language) (t : Text) : List (List (Char × Part)) :=
  labelledLines (t.zip (l.scan t))

lemma collectLines_eq {l : Language} (hl : WellMarked l) (t : Text) :
    collectLines l t =
      ((linesOf l t).map (charsOf .code), (linesOf l t).map (charsOf .comment)) := by
  obtain ⟨hcode, hcomment⟩ := Scanner.run_eq_labelled hl Scanner.start (start_modeOf l) 0 t
  have hnil : ∀ rest : List Text, Scanner.ending [] [] rest = rest := by
    intro rest
    cases rest <;> simp [Scanner.ending]
  rw [collectLines, hcode, hcomment]
  exact congrArg₂ Prod.mk (hnil _) (hnil _)

lemma linesOf_raw {l : Language} (hl : WellMarked l) (t : Text) :
    (linesOf l t).map (·.map (·.1)) = Text.splitOn '\n' t := by
  have hlabels := labelled_lineEnd hl ScanState.initial trivial 0 t (by simp)
  have hraw := labelledLines_raw (labelled l ScanState.initial 0 t) hlabels
  rwa [labelled_chars] at hraw

lemma ofText_lines (l : Language) (t : Text) (ht : t ≠ []) :
    (Source.ofText l t).lines =
      (linesOf l (Source.normalize t)).mapIdx fun k line => .ofLabelled (k + 1) line := by
  cases t with
  | nil => exact absurd rfl ht
  | cons c r =>
    change Source.numberFrom 1 (linesOf l (Source.normalize (c :: r))) = _
    rw [numberFrom_eq_mapIdx]
    simp only [Nat.add_comm 1]

lemma ofText_language (l : Language) (t : Text) : (Source.ofText l t).language = l := by
  cases t <;> rfl

/-! ### Places -/

/-- What a part of a text consists of: its characters stand at these places, in their order. -/
def PickedFrom (whole : Text) (places : List Nat) (part : Text) : Prop :=
  places.Pairwise (· < ·) ∧ places.map (whole[·]?) = part.map some

/-- The places of a labelled line that have a label. -/
def placesOf (part : Part) (w : List (Char × Part)) : List Nat :=
  (List.range w.length).filter fun i => (w[i]?).any (·.2 = part)

lemma mem_placesOf (part : Part) (w : List (Char × Part)) (i : Nat) :
    i ∈ placesOf part w ↔ ∃ c, w[i]? = some (c, part) := by
  unfold placesOf
  rw [List.mem_filter, List.mem_range]
  constructor
  · rintro ⟨hi, h⟩
    rw [List.getElem?_eq_getElem hi] at h ⊢
    exact ⟨w[i].1, by simpa [Prod.ext_iff] using h⟩
  · rintro ⟨c, hc⟩
    exact ⟨(List.getElem?_eq_some_iff.mp hc).1, by simp [hc]⟩

lemma placesOf_picked (part : Part) (w : List (Char × Part)) :
    PickedFrom (w.map (·.1)) (placesOf part w) (charsOf part w) := by
  refine ⟨List.Pairwise.filter _ List.pairwise_lt_range, ?_⟩
  induction w with
  | nil => rfl
  | cons x w ih =>
    have hcons : placesOf part (x :: w) =
        (if x.2 = part then [0] else []) ++ (placesOf part w).map (· + 1) := by
      unfold placesOf
      rw [List.length_cons, List.range_succ_eq_map, List.filter_cons, List.filter_map]
      by_cases hx : x.2 = part
      · simp [hx, Function.comp_def]
      · simp [hx, Function.comp_def]
    rw [hcons, charsOf_cons, List.map_append, List.map_append, List.map_map, ← ih]
    by_cases hx : x.2 = part
    · simp [hx, Function.comp_def]
    · simp [hx, Function.comp_def]

/-! ### The lines of a text -/

/-- A line from its number and its texts, the blanks at their ends left out. -/
def lineOf (number : Nat) (raw code comment : Text) : SourceLine :=
  ⟨number, raw, Text.stripRight code, Text.strip comment, indentOf raw⟩

/-- A source unit has a line for each piece of its text between line feeds, once carriage returns
are unified and a line feed at the end is dropped. The scan collects as many texts of code and of
comments, so that none is left over when they are put together, and takes them from places of the
line that it does not use for both. -/
theorem ofText_lines_numbered (l : Language) (hl : l ∈ Language.table) (t : Text) (ht : t ≠ []) :
    let u := Text.replace "\r" "\n" (Text.replace "\r\n" "\n" t)
    let text := if u.getLast? = some '\n' then u.dropLast else u
    let raws := Text.splitOn '\n' text
    let codes := (collectLines l text).1
    let comments := (collectLines l text).2
    let lines := (Source.ofText l t).lines
    lines.map (·.raw) = raws ∧ lines.map (·.number) = List.range' 1 raws.length ∧
      codes.length = raws.length ∧ comments.length = raws.length ∧
      lines = (raws.zip (codes.zip comments)).mapIdx (fun k (raw, code, comment) =>
        lineOf (k + 1) raw code comment) ∧
      ∀ (k : Nat) (raw code comment : Text), raws[k]? = some raw → codes[k]? = some code →
        comments[k]? = some comment → ∃ codeAt commentAt : List Nat,
          PickedFrom raw codeAt code ∧ PickedFrom raw commentAt comment ∧
            codeAt.Disjoint commentAt := by
  intro u text raws codes comments lines
  have hmarked := table_wellMarked l hl
  have htext : Source.normalize t = text := normalize_eq t
  have hlines : lines = (linesOf l text).mapIdx fun k w => .ofLabelled (k + 1) w := by
    rw [← htext]
    exact ofText_lines l t ht
  have hraws : raws = (linesOf l text).map (·.map (·.1)) := (linesOf_raw hmarked text).symm
  have hcollect := collectLines_eq hmarked text
  have hcodes : codes = (linesOf l text).map (charsOf .code) := congrArg Prod.fst hcollect
  have hcomments : comments = (linesOf l text).map (charsOf .comment) := congrArg Prod.snd hcollect
  clear_value raws codes comments lines
  subst hlines hraws hcodes hcomments
  refine ⟨?_, ?_, by simp, by simp, ?_, ?_⟩
  · apply List.ext_getElem?
    intro k
    rw [List.getElem?_map, List.getElem?_mapIdx, List.getElem?_map, Option.map_map]
    rfl
  · apply List.ext_getElem?
    intro k
    rw [List.getElem?_map, List.getElem?_mapIdx, List.length_map]
    by_cases hk : k < (linesOf l text).length
    · rw [List.getElem?_eq_getElem hk, List.getElem?_range' hk]
      simp [SourceLine.ofLabelled, Nat.add_comm]
    · rw [List.getElem?_eq_none (by omega), List.getElem?_eq_none (by simpa using hk)]
      rfl
  · rw [List.zip_map', List.zip_map']
    apply List.ext_getElem?
    intro k
    rw [List.getElem?_mapIdx, List.getElem?_mapIdx, List.getElem?_map, Option.map_map]
    rfl
  · intro k raw code comment hraw hcode hcomment
    rw [List.getElem?_map, Option.map_eq_some_iff] at hraw hcode hcomment
    obtain ⟨w, hw, rfl⟩ := hraw
    obtain ⟨w', hw', rfl⟩ := hcode
    obtain ⟨w'', hw'', rfl⟩ := hcomment
    obtain rfl : w = w' := Option.some.inj (hw.symm.trans hw')
    obtain rfl : w = w'' := Option.some.inj (hw.symm.trans hw'')
    refine ⟨placesOf .code w, placesOf .comment w, placesOf_picked .code w,
      placesOf_picked .comment w, ?_⟩
    intro i hi hi'
    obtain ⟨c, hc⟩ := (mem_placesOf .code w i).mp hi
    obtain ⟨d, hd⟩ := (mem_placesOf .comment w i).mp hi'
    simp [hc] at hd

/-- A script with both kinds of line ends, a comment over two lines and a string that is not closed
has five lines. -/
theorem ofText_lines_numbered_script :
    Language.javascript ∈ Language.table ∧
      (Source.ofText Language.javascript
        "a = 'x\\'//y' // z\r\nb /* '\rc */ d\n\n\"e\r").lines.map (·.number) =
          [1, 2, 3, 4, 5] := by
  have hl : Language.javascript ∈ Language.table := by simp [Language.table]
  refine ⟨hl, ?_⟩
  have h := ofText_lines_numbered Language.javascript hl
    "a = 'x\\'//y' // z\r\nb /* '\rc */ d\n\n\"e\r" (by decide)
  exact h.2.1

end SourceGrade.Proofs
