import SourceGrade.Proofs.FirstWords
import SourceGrade.Proofs.FoundIssues

/-!
# The ends of functions and the blocks around them

A function up to `end` is closed by counting the blocks that are open in it, and its blocks are
kept as a stack. The count and the height of the stack change alike on a line unless a dollar sign
follows the line's first word, or the line goes on with a block and opens another one by `do`.
Where all lines of a function are read alike, it ends on the first later line that begins with
`end` and is shown with as many blocks as its first line.
-/

namespace SourceGrade

namespace Keywords

/-- The blocks that are shown with a line, innermost first. -/
def shown (keywords : List (Text × BlockKind)) (stack : List BlockKind) (stripped : Text) :
    List BlockKind :=
  if Indentation.firstWord stripped = ("end" : Text) then stack
  else opened keywords stack stripped

/-- The open blocks after a line, innermost first. -/
def after (keywords : List (Text × BlockKind)) (stack : List BlockKind) (stripped : Text) :
    List BlockKind :=
  if Indentation.firstWord stripped = ("end" : Text) then stack.tail
  else opened keywords stack stripped

end Keywords

namespace Extent

/-- The number of open blocks after a line. -/
def depthAfter (depth : Nat) (stripped : Text) : Nat :=
  let word := leadingWord stripped
  if word = ("end" : Text) then depth - 1
  else if openers.contains word && !Keywords.endsWithEnd.occursIn stripped then depth + 1
  else if Keywords.endsWithDo.occursIn stripped then depth + 1
  else depth

/-- A line whose blocks are counted as they are kept: if it begins with `end` or an opening word, no
dollar sign follows the word, unless the line would open one block in any case; and if it goes on
with a block, it opens no other. -/
structure ReadAlike (stripped : Text) : Prop where
  closing : Indentation.firstWord stripped = ("end" : Text) → leadingWord stripped = ("end" : Text)
  opening : Indentation.firstWord stripped ∈ openers →
    leadingWord stripped = Indentation.firstWord stripped ∨
      Keywords.endsWithEnd.occursIn stripped = true ∨ Keywords.endsWithDo.occursIn stripped = true
  continuing : Indentation.firstWord stripped ∈ Keywords.continuations →
    Keywords.endsWithDo.occursIn stripped = false

instance (stripped : Text) : Decidable (ReadAlike stripped) :=
  decidable_of_iff
    ((Indentation.firstWord stripped = ("end" : Text) → leadingWord stripped = ("end" : Text)) ∧
      (Indentation.firstWord stripped ∈ openers →
        leadingWord stripped = Indentation.firstWord stripped ∨
          Keywords.endsWithEnd.occursIn stripped = true ∨
            Keywords.endsWithDo.occursIn stripped = true) ∧
      (Indentation.firstWord stripped ∈ Keywords.continuations →
        Keywords.endsWithDo.occursIn stripped = false))
    ⟨fun h => ⟨h.1, h.2.1, h.2.2⟩, fun h => ⟨h.closing, h.opening, h.continuing⟩⟩

end Extent

namespace BlockMap

/-- Whether a line begins with `end` and is shown with so many blocks. -/
def endsAt (m : BlockMap) (height : Nat) (l : SourceLine) : Bool :=
  Indentation.firstWord l.stripped = ("end" : Text) && (m.kindsAt l.number).length == height

/-- The first of some lines that begins with `end` and is shown with as many blocks as the line
with a number. -/
def matchingEnd? (m : BlockMap) (first : Nat) (following : List SourceLine) : Option SourceLine :=
  following.find? (m.endsAt (m.kindsAt first).length)

end BlockMap

namespace Proofs

open Extent Keywords

open Indentation (firstWord)

/-! ### One line -/

lemma mem_openers_iff {w : Text} (hw : w ∉ continuations) :
    w ∈ openers ↔ (Language.ruby.blockKeywords.lookup w).isSome = true := by
  have hopeners : (Language.ruby.blockKeywords.map (·.1)).filter (!continuations.contains ·) =
      openers := by decide
  have hkept : (!continuations.contains w) = true := by simpa using hw
  rw [← hopeners, List.mem_filter, List.lookup_isSome_iff, List.mem_map]
  simp only [hkept, and_true, beq_iff_eq]
  exact exists_congr fun _ => and_congr_right' eq_comm

lemma not_mem_continuations {w : Text} (hw : w ∈ openers) : w ∉ continuations := by
  revert w
  decide

lemma depthAfter_nil (depth : Nat) : depthAfter depth [] = depth := rfl

lemma depthAfter_of_ne {t : Text} (hend : leadingWord t ≠ ("end" : Text)) (depth : Nat) :
    depthAfter depth t =
      if leadingWord t ∈ openers ∧ endsWithEnd.occursIn t = false ∨ endsWithDo.occursIn t = true
      then depth + 1 else depth := by
  rw [depthAfter, if_neg hend]
  by_cases hopen : (openers.contains (leadingWord t) && !endsWithEnd.occursIn t) = true
  · rw [if_pos hopen, if_pos (.inl (by simpa using hopen))]
  · rw [if_neg hopen]
    have hopen' : ¬(leadingWord t ∈ openers ∧ endsWithEnd.occursIn t = false) := by
      simpa using hopen
    simp only [hopen', false_or]

lemma depthAfter_pos {depth : Nat} {t : Text} (hdepth : 1 ≤ depth)
    (hopen : ¬(leadingWord t = ("end" : Text) ∧ depth ≤ 1)) : 1 ≤ depthAfter depth t := by
  by_cases hend : leadingWord t = ("end" : Text)
  · have hmany : ¬depth ≤ 1 := fun h => hopen ⟨hend, h⟩
    rw [depthAfter, if_pos hend]
    omega
  · rw [depthAfter_of_ne hend]
    split <;> omega

lemma length_opened {stack : List BlockKind} (hstack : stack ≠ []) (t : Text) :
    (opened Language.ruby.blockKeywords stack t).length =
      if firstWord t ∉ continuations ∧
        (firstWord t ∈ openers ∧ endsWithEnd.occursIn t = false ∨ endsWithDo.occursIn t = true)
      then stack.length + 1 else stack.length := by
  have hloop : (if endsWithDo.occursIn t then BlockKind.loop :: stack else stack).length =
      if endsWithDo.occursIn t = true then stack.length + 1 else stack.length := by
    split <;> rfl
  unfold opened
  dsimp only
  by_cases hcontinue : firstWord t ∈ continuations
  · obtain ⟨kind, rest, rfl⟩ := List.exists_cons_of_ne_nil hstack
    rw [if_pos (List.contains_iff_mem.mpr hcontinue)]
    simp only [hcontinue, not_true_eq_false, false_and, if_false]
    rfl
  · rw [if_neg (fun h => hcontinue (List.contains_iff_mem.mp h))]
    simp only [hcontinue, not_false_eq_true, true_and]
    cases hlookup : Language.ruby.blockKeywords.lookup (firstWord t) with
    | none =>
      have hopener : firstWord t ∉ openers := fun h => by
        simpa [hlookup] using (mem_openers_iff hcontinue).mp h
      simp only [hopener, false_and, false_or]
      exact hloop
    | some kind =>
      have hopener : firstWord t ∈ openers := (mem_openers_iff hcontinue).mpr (by rw [hlookup]; rfl)
      simp only [hopener, true_and]
      by_cases hend : endsWithEnd.occursIn t = true
      · simp only [hend, if_true, Bool.true_eq_false, false_or]
        exact hloop
      · simp [hend]

lemma stacksFrom_cons (keywords : List (Text × BlockKind)) (stack : List BlockKind)
    (l : SourceLine) (ls : List SourceLine) :
    Keywords.stacksFrom keywords stack (l :: ls) =
      (shown keywords stack l.stripped).reverse ::
        Keywords.stacksFrom keywords (after keywords stack l.stripped) ls := by
  rw [Keywords.stacksFrom, shown, after]
  by_cases hend : firstWord l.stripped = ("end" : Text)
  · rw [if_pos hend, if_pos hend, if_pos hend]
  · rw [if_neg hend, if_neg hend, if_neg hend]

lemma firstWord_of_opener {t : Text} (h : leadingWord t ∈ openers) :
    firstWord t = leadingWord t :=
  firstWord_of_leadingWord rfl ((by decide : ∀ w ∈ openers, '$' ∉ w) _ h)

lemma readAlike_iff_of_end {t : Text} (hend : firstWord t = ("end" : Text)) :
    ReadAlike t ↔ leadingWord t = ("end" : Text) := by
  refine ⟨fun h => h.closing hend, fun hlead => ⟨fun _ => hlead, fun h => ?_, fun h => ?_⟩⟩
  · rw [hend] at h
    exact absurd h (by decide)
  · rw [hend] at h
    exact absurd h (by decide)

lemma readAlike_iff_of_ne {t : Text} (hend : firstWord t ≠ ("end" : Text)) :
    ReadAlike t ↔
      ((firstWord t ∉ continuations ∧
          (firstWord t ∈ openers ∧ endsWithEnd.occursIn t = false ∨ endsWithDo.occursIn t = true)) ↔
        (leadingWord t ∈ openers ∧ endsWithEnd.occursIn t = false ∨
          endsWithDo.occursIn t = true)) := by
  have hread : ReadAlike t ↔
      (firstWord t ∈ openers → leadingWord t = firstWord t ∨ endsWithEnd.occursIn t = true ∨
        endsWithDo.occursIn t = true) ∧
      (firstWord t ∈ continuations → endsWithDo.occursIn t = false) :=
    ⟨fun h => ⟨h.opening, h.continuing⟩, fun h => ⟨fun h' => absurd h' hend, h.1, h.2⟩⟩
  have hopener : leadingWord t ∈ openers ↔ firstWord t ∈ openers ∧ leadingWord t = firstWord t :=
    ⟨fun h => ⟨firstWord_of_opener h ▸ h, (firstWord_of_opener h).symm⟩, fun h => h.2 ▸ h.1⟩
  rw [hread, hopener]
  by_cases hcontinue : firstWord t ∈ continuations
  · have hopen : firstWord t ∉ openers := fun h => not_mem_continuations h hcontinue
    simp [hcontinue, hopen]
  · cases endsWithEnd.occursIn t <;> cases endsWithDo.occursIn t <;> simp [hcontinue]

/-- The count and the stack change alike exactly on the lines that are read alike. -/
lemma length_after_iff {stack : List BlockKind} {base depth : Nat} (t : Text)
    (hlength : stack.length = base + depth) (hdepth : 1 ≤ depth) :
    (after Language.ruby.blockKeywords stack t).length = base + depthAfter depth t ↔
      ReadAlike t := by
  rw [after]
  by_cases hend : firstWord t = ("end" : Text)
  · rw [if_pos hend, List.length_tail, readAlike_iff_of_end hend]
    by_cases hlead : leadingWord t = ("end" : Text)
    · rw [depthAfter, if_pos hlead]
      exact iff_of_true (by omega) hlead
    · refine iff_of_false (fun h => ?_) hlead
      rw [depthAfter_of_ne hlead] at h
      split at h <;> omega
  · have hlead : leadingWord t ≠ ("end" : Text) := fun h =>
      hend (firstWord_of_leadingWord h (by decide))
    have hstack : stack ≠ [] := List.ne_nil_of_length_pos (by omega)
    rw [if_neg hend, length_opened hstack, depthAfter_of_ne hlead, readAlike_iff_of_ne hend]
    split
    · next hopens =>
      rw [iff_true_left hopens]
      split
      · next hcounts => exact iff_of_true (by omega) hcounts
      · next hcounts => exact iff_of_false (by omega) hcounts
    · next hopens =>
      rw [iff_false_left hopens]
      split
      · next hcounts => exact iff_of_false (by omega) (not_not_intro hcounts)
      · next hcounts => exact iff_of_true (by omega) hcounts

/-! ### The lines of a function -/

/-- Lines whose numbers go on from a number. -/
def NumberedAfter (last : Nat) (ls : List SourceLine) : Prop :=
  ∀ i l, ls[i]? = some l → l.number = last + 1 + i

lemma NumberedAfter.head {last : Nat} {l : SourceLine} {ls : List SourceLine}
    (h : NumberedAfter last (l :: ls)) : l.number = last + 1 := h 0 l rfl

lemma NumberedAfter.tail {last : Nat} {l : SourceLine} {ls : List SourceLine}
    (h : NumberedAfter last (l :: ls)) : NumberedAfter l.number ls := fun i l' hl' => by
  rw [h.head, h (i + 1) l' hl']
  omega

lemma NumberedAfter.of_append {last : Nat} {before ls : List SourceLine}
    (h : NumberedAfter last (before ++ ls)) : NumberedAfter (last + before.length) ls :=
  fun i l hl => by
    have hl' : (before ++ ls)[before.length + i]? = some l := by
      rw [List.getElem?_append_right (Nat.le_add_right _ _), Nat.add_sub_cancel_left]
      exact hl
    rw [h _ l hl']
    omega

lemma stripped_eq_nil {l : SourceLine} (h : l.hasCode = false) : l.stripped = [] := by
  have hblank : ∀ c ∈ l.code, Text.isBlank c = true := by
    simpa [SourceLine.hasCode, Text.allBlank] using h
  rw [SourceLine.stripped, Text.strip, Text.stripLeft, List.dropWhile_eq_nil_iff.mpr hblank]
  rfl

lemma keywordEnd_cons (depth last : Nat) (l : SourceLine) (ls : List SourceLine) :
    keywordEnd depth last (l :: ls) =
      if leadingWord l.stripped = ("end" : Text) ∧ depth ≤ 1 then l.number
      else keywordEnd (depthAfter depth l.stripped) l.number ls := by
  rw [keywordEnd]
  by_cases hcode : l.hasCode = true
  · rw [if_neg (by simp [hcode])]
    dsimp only
    by_cases hend : leadingWord l.stripped = ("end" : Text)
    · simp only [hend, if_true, true_and, depthAfter]
    · have hgoes : ¬(leadingWord l.stripped = ("end" : Text) ∧ depth ≤ 1) := fun h => hend h.1
      rw [if_neg hend, if_neg hgoes, depthAfter, if_neg hend]
      split
      · rfl
      · split <;> rfl
  · have hnil := stripped_eq_nil (Bool.eq_false_iff.mpr hcode)
    rw [if_pos (by simp [hcode]), hnil, depthAfter_nil, if_neg fun h => absurd h.1 (by decide)]

lemma le_keywordEnd {depth last : Nat} {ls : List SourceLine} (hls : NumberedAfter last ls) :
    last ≤ keywordEnd depth last ls := by
  induction ls generalizing depth last with
  | nil => exact le_rfl
  | cons l ls ih =>
    rw [keywordEnd_cons]
    have hhead := hls.head
    split
    · omega
    · exact (by omega : last ≤ l.number).trans (ih hls.tail)

lemma kindsAt_of_drop {m : BlockMap} {last n : Nat} {kinds : List BlockKind}
    {rest : List (List BlockKind)} (h : m.lineBlocks.drop last = kinds :: rest)
    (hn : n = last + 1) : m.kindsAt n = kinds ∧ m.lineBlocks.drop n = rest := by
  have hfirst : m.lineBlocks[last]? = some kinds := by
    have hhead := congrArg (·[0]?) h
    simpa using hhead
  have hcast : (n : Int) = (last : Int) + 1 := by omega
  constructor
  · rw [hcast, BlockMap.kindsAt_succ, hfirst, Option.getD_some]
  · rw [hn, ← List.tail_drop, h, List.tail_cons]

lemma keywordEnd_eq_find? {m : BlockMap} {stack : List BlockKind} {base depth last : Nat}
    {ls : List SourceLine} (hls : NumberedAfter last ls)
    (hblocks : m.lineBlocks.drop last = Keywords.stacksFrom Language.ruby.blockKeywords stack ls)
    (hlength : stack.length = base + depth) (hdepth : 1 ≤ depth)
    (halike : ∀ l ∈ ls, l.number ≤ keywordEnd depth last ls → ReadAlike l.stripped) :
    keywordEnd depth last ls =
      ((ls.find? (m.endsAt (base + 1))).map (·.number)).getD (last + ls.length) := by
  induction ls generalizing stack depth last with
  | nil => rfl
  | cons l ls ih =>
    rw [stacksFrom_cons] at hblocks
    have hnumber := hls.head
    obtain ⟨hkinds, hrest⟩ := kindsAt_of_drop hblocks hnumber
    have hshown : (m.kindsAt l.number).length =
        (shown Language.ruby.blockKeywords stack l.stripped).length := by
      rw [hkinds, List.length_reverse]
    rw [keywordEnd_cons] at halike ⊢
    by_cases hclose : leadingWord l.stripped = ("end" : Text) ∧ depth ≤ 1
    · have hfirst := firstWord_of_leadingWord hclose.1 (by decide)
      have hheight : stack.length = base + 1 := by omega
      rw [if_pos hclose, List.find?_cons_of_pos]
      · rfl
      · rw [shown, if_pos hfirst] at hshown
        simp [BlockMap.endsAt, hfirst, hshown, hheight]
    · rw [if_neg hclose] at halike ⊢
      have hl : ReadAlike l.stripped := halike l List.mem_cons_self (le_keywordEnd hls.tail)
      have hafter := (length_after_iff l.stripped hlength hdepth).mpr hl
      have hpassed : ¬m.endsAt (base + 1) l = true := by
        intro h
        rw [BlockMap.endsAt, Bool.and_eq_true, decide_eq_true_eq, beq_iff_eq] at h
        rw [hshown, shown, if_pos h.1] at h
        exact hclose ⟨hl.closing h.1, by omega⟩
      rw [List.find?_cons_of_neg hpassed, ih hls.tail hrest hafter
        (depthAfter_pos hdepth hclose) fun l' hl' => halike l' (List.mem_cons_of_mem l hl'),
        hnumber, List.length_cons]
      congr 1
      omega

/-! ### Functions -/

lemma eq_ruby_of_keywords {language : Language} (hl : language ∈ Language.table)
    (hstyle : language.blockStyle = .keywords) : language = Language.ruby := by
  simp only [Language.table, List.mem_cons, List.not_mem_nil, or_false] at hl
  obtain rfl | rfl | rfl | rfl | rfl | rfl | rfl | rfl := hl
  case inr.inr.inr.inr.inr.inr.inl => rfl
  all_goals cases hstyle

lemma stacksFrom_append (keywords : List (Text × BlockKind)) (stack : List BlockKind)
    (before ls : List SourceLine) :
    ∃ stack', Keywords.stacksFrom keywords stack (before ++ ls) =
      Keywords.stacksFrom keywords stack before ++ Keywords.stacksFrom keywords stack' ls := by
  induction before generalizing stack with
  | nil => exact ⟨stack, rfl⟩
  | cons l before ih =>
    obtain ⟨stack', hstack⟩ := ih (after keywords stack l.stripped)
    refine ⟨stack', ?_⟩
    rw [List.cons_append, stacksFrom_cons, hstack, stacksFrom_cons, List.cons_append]

lemma functionOf?_extent {language : Language} {d : SourceLine} {rest : List SourceLine}
    {shape : Pattern} {f : FunctionSpan}
    (h : Source.functionOf? language d rest shape = some f) :
    f.startLine = d.number ∧ ∃ m, shape.search d.code = some m ∧
      Extent.end? language.blockStyle m.start (d :: rest) = some f.endLine := by
  obtain ⟨m, last, hm, hlast, rfl⟩ := functionOf?_cases h
  exact ⟨rfl, m, hm, hlast⟩

lemma opened_declaration {t : Text} (hfirst : firstWord t = ("def" : Text))
    (hend : endsWithEnd.occursIn t = false) (stack : List BlockKind) :
    opened Language.ruby.blockKeywords stack t = .other :: stack := by
  have hlookup : Language.ruby.blockKeywords.lookup ("def" : Text) = some .other := by decide
  unfold opened
  dsimp only
  rw [hfirst, if_neg (by decide), hlookup]
  simp [hend]

lemma keywordEnd_eq_matchingEnd {before rest : List SourceLine} {d : SourceLine}
    (hls : NumberedAfter 0 (before ++ d :: rest)) (hfirst : firstWord d.stripped = ("def" : Text))
    (hend : endsWithEnd.occursIn d.stripped = false)
    (halike : ∀ l ∈ rest, l.number ≤ keywordEnd 1 d.number rest → ReadAlike l.stripped) :
    let m : BlockMap :=
      ⟨Keywords.stacksFrom Language.ruby.blockKeywords [] (before ++ d :: rest)⟩
    keywordEnd 1 d.number rest =
      ((m.matchingEnd? d.number rest).map (·.number)).getD (d.number + rest.length) := by
  intro m
  have hnumber : d.number = before.length + 1 := by
    rw [hls.of_append.head, Nat.zero_add]
  have hrest : NumberedAfter d.number rest := hls.of_append.tail
  obtain ⟨stack, hstack⟩ :=
    stacksFrom_append Language.ruby.blockKeywords [] before (d :: rest)
  -- the declaration itself is the lowest block that the function leaves open
  have hopened := opened_declaration hfirst hend stack
  have hne : ¬firstWord d.stripped = ("end" : Text) := by
    rw [hfirst]
    decide
  rw [stacksFrom_cons, shown, after, if_neg hne, if_neg hne, hopened] at hstack
  have hdrop : m.lineBlocks.drop before.length = (BlockKind.other :: stack).reverse ::
      Keywords.stacksFrom Language.ruby.blockKeywords (.other :: stack) rest := by
    rw [← keywords_stacks_length Language.ruby.blockKeywords [] before]
    exact (congrArg (List.drop _) hstack).trans List.drop_left
  obtain ⟨hkinds, hblocks⟩ := kindsAt_of_drop hdrop hnumber
  have hdepth : (BlockKind.other :: stack).length = stack.length + 1 := rfl
  rw [keywordEnd_eq_find? hrest hblocks hdepth le_rfl halike, BlockMap.matchingEnd?, hkinds,
    List.length_reverse, hdepth]

/-- Where blocks stand between words, a function whose first line does not end with `end`, and
whose other lines are read alike, ends on the first later line that begins with `end` and is shown
with as many blocks as its first line, or else on the last line. -/
theorem endLine_eq_matchingEnd {language : Language} (hl : language ∈ Language.table)
    (hstyle : language.blockStyle = .keywords) (text : Text) :
    let s := Source.ofText language text
    ∃ m, BlockMap.ofSource s = .ok m ∧ ∀ f ∈ s.functions, ∃ d, s.line? f.startLine = some d ∧
      (endsWithEnd.occursIn d.stripped = false →
        (∀ l ∈ s.lines, f.startLine < l.number → l.number ≤ f.endLine → ReadAlike l.stripped) →
        f.endLine = ((m.matchingEnd? f.startLine (s.lines.drop f.startLine)).map (·.number)).getD
          s.lineCount) := by
  intro s
  obtain rfl := eq_ruby_of_keywords hl hstyle
  have hlanguage : s.language = Language.ruby := ofText_language _ _
  have hm : BlockMap.ofSource s = .ok ⟨Keywords.lineBlocks s⟩ := by
    rw [BlockMap.ofSource, hlanguage]
    rfl
  refine ⟨_, hm, fun f hf => ?_⟩
  rw [Source.functions, hlanguage] at hf
  obtain ⟨before, d, rest, hlines, shape, hshape, hfunction⟩ := exists_functionOf? hf
  obtain ⟨hstart, found, hfound, hend⟩ := functionOf?_extent hfunction
  have hls : NumberedAfter 0 (before ++ d :: rest) := fun i l hl => by
    rw [← hlines] at hl
    rw [ofText_number _ _ hl]
    omega
  have hd : s.lines[before.length]? = some d := by simp [hlines]
  have hnumber : d.number = before.length + 1 := ofText_number _ _ hd
  refine ⟨d, by rw [hstart, hnumber]; exact hd, fun hone halike => ?_⟩
  have hlast : f.endLine = keywordEnd 1 d.number rest := by
    have hend' : some (if endsWithEnd.occursIn d.stripped then d.number
      else keywordEnd 1 d.number rest) = some f.endLine := hend
    rw [hone] at hend'
    exact (Option.some.inj hend').symm
  have hdrop : s.lines.drop f.startLine = rest := by
    rw [hlines, hstart, hnumber, ← List.drop_drop, List.drop_left]
    rfl
  have hcount : s.lineCount = d.number + rest.length := by
    rw [Source.lineCount, hlines, List.length_append, List.length_cons, hnumber]
    omega
  have hdeclared : firstWord d.stripped = ("def" : Text) := firstWord_declaration hshape hfound
  have hmain := keywordEnd_eq_matchingEnd hls hdeclared hone fun l hmem hle => by
    obtain ⟨i, hi⟩ := List.mem_iff_getElem?.mp hmem
    have hlt : d.number < l.number := by
      rw [hls.of_append.tail i l hi]
      omega
    refine halike l ?_ (hstart ▸ hlt) (hlast ▸ hle)
    rw [hlines]
    exact List.mem_append_right before (List.mem_cons_of_mem d hmem)
  rw [hdrop, hcount, hstart, hlast, Keywords.lineBlocks, hlanguage, hlines]
  exact hmain

/-- A function with two branches and a loop. -/
def nestedText : Text :=
  "def f(a)\n  if a\n    g\n  else\n    h\n  end\n  a.each do |x|\n    x\n  end\nend\ng"

theorem endLine_eq_matchingEnd_nested :
    let s := Source.ofText Language.ruby nestedText
    Language.ruby ∈ Language.table ∧ Language.ruby.blockStyle = .keywords ∧
      ∃ m, BlockMap.ofSource s = .ok m ∧ ∃ f ∈ s.functions, ∃ d, s.line? f.startLine = some d ∧
        endsWithEnd.occursIn d.stripped = false ∧
        (∀ l ∈ s.lines, f.startLine < l.number → l.number ≤ f.endLine → ReadAlike l.stripped) ∧
        f.endLine = 10 ∧
        f.endLine = ((m.matchingEnd? f.startLine (s.lines.drop f.startLine)).map (·.number)).getD
          s.lineCount := by
  intro s
  have htable : Language.ruby ∈ Language.table := by simp [Language.table]
  obtain ⟨m, hm, hfunctions⟩ := endLine_eq_matchingEnd htable rfl nestedText
  have hf : (⟨"f", 1, 10, ["a"], ["a"]⟩ : FunctionSpan) ∈ s.functions := by decide +kernel
  obtain ⟨d, hd, hend⟩ := hfunctions _ hf
  have hone : endsWithEnd.occursIn d.stripped = false := by
    have hcode : (s.line? 1).map (endsWithEnd.occursIn ·.stripped) = some false := by
      decide +kernel
    have hfirst : s.line? 1 = some d := hd
    rw [hfirst] at hcode
    exact Option.some.inj hcode
  have halike : ∀ l ∈ s.lines, 1 < l.number → l.number ≤ 10 → ReadAlike l.stripped := by
    decide +kernel
  exact ⟨htable, rfl, m, hm, _, hf, d, hd, hone, halike, rfl, hend hone halike⟩

/-- A dollar sign after an opening word parts the two: the function ends on the `end` of the
condition, its matching `end` is the last line. -/
theorem endLine_ne_matchingEnd :
    let s := Source.ofText Language.ruby "def f(a)\n  if$debug\n    1\n  end\n  2\nend"
    (s.line? 1).map (endsWithEnd.occursIn ·.stripped) = some false ∧
      ⟨"f", 1, 4, ["a"], ["a"]⟩ ∈ s.functions ∧ ∃ m, BlockMap.ofSource s = .ok m ∧
        (m.matchingEnd? 1 (s.lines.drop 1)).map (·.number) = some 6 := by
  intro s
  have hm : BlockMap.ofSource s = .ok ⟨[[.other], [.other, .conditional], [.other, .conditional],
      [.other, .conditional], [.other], [.other]]⟩ := by decide +kernel
  exact ⟨by decide +kernel, by decide +kernel, _, hm, by decide +kernel⟩

end Proofs

end SourceGrade
