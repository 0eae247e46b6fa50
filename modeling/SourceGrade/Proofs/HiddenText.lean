import SourceGrade.Blocks.OfSource
import SourceGrade.Measure.Complexity
import SourceGrade.Proofs.SourceLines

/-!
# Text that the code does not show

What stands inside a comment or a string has no influence on the code of any line. Two scanners that
agree on the code so far, and on what they are inside of, stay in agreement: while they remain
inside, whatever they read there, and afterwards, when they read the same.
-/

namespace SourceGrade.Proofs

namespace Scanner

/-- The scanner when it stands at a place of the text, unless it passes over that place. -/
def at? (l : Language) : Scanner → (skip : Nat) → Text → (place : Nat) → Option Scanner
  | a, 0, _, 0 => some a
  | _, _ + 1, _, 0 => none
  | _, _, [], _ + 1 => none
  | a, skip + 1, _ :: r, place + 1 => at? l a skip r place
  | a, 0, c :: r, place + 1 => at? l (a.move l c r).1 (a.move l c r).2 r place

/-- The scan stands at both ends of a range, and wherever it stands in between it is in a mode. -/
def StaysIn (l : Language) (mode : ScanMode) (t : Text) (first last : Nat) : Prop :=
  (at? l start 0 t last).isSome = true ∧
    ∀ k ≤ last, first ≤ k → ∀ a ∈ at? l start 0 t k, a.mode = mode

instance (l : Language) (mode : ScanMode) (t : Text) (first last : Nat) :
    Decidable (StaysIn l mode t first last) :=
  inferInstanceAs (Decidable (_ ∧ _))

/-- Two scanners agree on the code of all lines so far, and on what they are inside of. -/
structure CodeEq (a b : Scanner) : Prop where
  codeLines : a.codeLines = b.codeLines
  code : a.code = b.code
  mode : a.mode = b.mode

variable {l : Language}

/-! ### Standing at a place -/

lemma at?_zero (a : Scanner) (t : Text) : at? l a 0 t 0 = some a := by
  cases t <;> rfl

lemma at?_add {a b : Scanner} {skip : Nat} {t : Text} {i : Nat} (h : at? l a skip t i = some b)
    (j : Nat) : at? l a skip t (i + j) = at? l b 0 (t.drop i) j := by
  induction i generalizing a skip t with
  | zero =>
    cases skip with
    | zero =>
      rw [at?_zero] at h
      obtain rfl := Option.some.inj h
      rw [Nat.zero_add, List.drop_zero]
    | succ skip => simp [at?] at h
  | succ i ih =>
    rw [Nat.add_right_comm]
    cases t with
    | nil => simp [at?] at h
    | cons c r =>
      cases skip with
      | zero => exact ih h
      | succ skip => exact ih h

lemma run_of_at? {a b : Scanner} {skip : Nat} {t : Text} {i : Nat}
    (h : at? l a skip t i = some b) : run l a skip t = run l b 0 (t.drop i) := by
  induction i generalizing a skip t with
  | zero =>
    cases skip with
    | zero =>
      rw [at?_zero] at h
      obtain rfl := Option.some.inj h
      rw [List.drop_zero]
    | succ skip => simp [at?] at h
  | succ i ih =>
    cases t with
    | nil => simp [at?] at h
    | cons c r =>
      cases skip with
      | zero => exact ih h
      | succ skip => exact ih h

/-- A scan that stands at a place stood where its last move before ended. -/
lemma at?_landing {a b : Scanner} {skip : Nat} {t : Text} {i : Nat}
    (h : at? l a skip t i = some b) : skip ≤ i ∧ at? l a skip t skip = some a := by
  induction skip generalizing t i with
  | zero => exact ⟨Nat.zero_le i, at?_zero a t⟩
  | succ skip ih =>
    cases i with
    | zero => simp [at?] at h
    | succ i =>
      cases t with
      | nil => simp [at?] at h
      | cons c r =>
        obtain ⟨hle, hat⟩ := ih h
        exact ⟨Nat.succ_le_succ hle, hat⟩

/-! ### Inside a comment or a string -/

lemma move_hidden (a : Scanner) (c : Char) (r : Text) (hc : c ≠ '\n') (hmode : a.mode ≠ .code)
    (hstay : (a.move l c r).1.mode = a.mode) : CodeEq (a.move l c r).1 a := by
  have hmove := scanStep_move l a.state c r
  have hstep : a.move l c r = ({ a.put c (l.scanStep a.state c r).1 with
      mode := (l.scanStep a.state c r).2.2.mode }, (l.scanStep a.state c r).2.1) := rfl
  rw [hstep] at hstay ⊢
  generalize l.scanStep a.state c r = step at hmove hstay
  cases hmove with
  | lineEnd h => exact absurd h hc
  | closeString => exact absurd hstay.symm hmode
  | openBlock _ _ h => exact absurd h hmode
  | openLine _ _ h => exact absurd h hmode
  | openString _ h => exact absurd h hmode
  | code _ h => exact absurd h hmode
  | comment => exact ⟨rfl, rfl, rfl⟩
  | leaveBlock => exact ⟨rfl, rfl, hstay⟩
  | escape => exact ⟨rfl, rfl, rfl⟩
  | inString => exact ⟨rfl, rfl, rfl⟩

lemma at?_hidden {mode : ScanMode} (hmode : mode ≠ .code) (u s : Text) (hu : '\n' ∉ u)
    {a b : Scanner} {skip : Nat} (h : at? l a skip (u ++ s) u.length = some b)
    (hstay : ∀ k ≤ u.length, ∀ c ∈ at? l a skip (u ++ s) k, c.mode = mode) : CodeEq b a := by
  induction u generalizing a skip with
  | nil =>
    cases skip with
    | zero =>
      rw [List.length_nil, at?_zero] at h
      obtain rfl := Option.some.inj h
      exact ⟨rfl, rfl, rfl⟩
    | succ skip => simp [at?] at h
  | cons c u ih =>
    obtain ⟨hc, hu⟩ := not_or.mp (mt List.mem_cons.mpr hu)
    have hrest : ∀ k ≤ u.length, ∀ d ∈ at? l a skip (c :: (u ++ s)) (k + 1), d.mode = mode :=
      fun k hk => hstay (k + 1) (Nat.succ_le_succ hk)
    cases skip with
    | succ skip => exact ih hu h hrest
    | zero =>
      have hnext := ih hu h hrest
      -- The move before ends at a place of the range, hence in the same mode.
      obtain ⟨hle, hland⟩ := at?_landing (a := (a.move l c (u ++ s)).1) h
      have ha : a.mode = mode := hstay 0 (Nat.zero_le _) a (at?_zero a _)
      have ha' : (a.move l c (u ++ s)).1.mode = mode := hrest _ hle _ hland
      have hhidden := move_hidden a c (u ++ s) (Ne.symm hc) (ha ▸ hmode) (ha'.trans ha.symm)
      exact ⟨hnext.codeLines.trans hhidden.codeLines, hnext.code.trans hhidden.code,
        hnext.mode.trans hhidden.mode⟩

/-! ### Two scanners -/

namespace CodeEq

variable {a b : Scanner} (h : CodeEq a b)

include h in
lemma state_eq : a.state = b.state := by
  rw [state, state, h.code, h.mode]

include h in
lemma put (c : Char) (part : Part) (mode : ScanMode) :
    CodeEq { a.put c part with mode := mode } { b.put c part with mode := mode } := by
  cases part with
  | code => exact ⟨h.codeLines, congrArg (· ++ [c]) h.code, rfl⟩
  | comment => exact ⟨h.codeLines, h.code, rfl⟩
  | hidden => exact ⟨h.codeLines, h.code, rfl⟩
  | lineEnd =>
    refine ⟨?_, rfl, rfl⟩
    change a.codeLines ++ [a.code] = b.codeLines ++ [b.code]
    rw [h.codeLines, h.code]

include h in
lemma move (c : Char) (r : Text) :
    CodeEq (a.move l c r).1 (b.move l c r).1 ∧ (a.move l c r).2 = (b.move l c r).2 := by
  unfold Scanner.move
  rw [h.state_eq]
  exact ⟨h.put c _ _, rfl⟩

include h in
lemma run (skip : Nat) (t : Text) : CodeEq (a.run l skip t) (b.run l skip t) := by
  induction t generalizing a b skip with
  | nil => exact h
  | cons c r ih =>
    cases skip with
    | succ skip => exact ih h skip
    | zero =>
      obtain ⟨hmove, hskip⟩ := h.move (l := l) c r
      rw [Scanner.run, Scanner.run, hskip]
      exact ih hmove _

include h in
lemma allCode_eq : a.allCode = b.allCode := by
  rw [allCode, allCode, h.codeLines, h.code]

end CodeEq

/-- The scanner at the end agrees with the one that takes up the text after the middle part. -/
lemma run_hidden {mode : ScanMode} (hmode : mode ≠ .code) (p u s : Text) (hu : '\n' ∉ u)
    {a : Scanner} (ha : at? l start 0 (p ++ u ++ s) p.length = some a)
    (hstay : StaysIn l mode (p ++ u ++ s) p.length (p.length + u.length)) :
    CodeEq (run l start 0 (p ++ u ++ s)) (run l a 0 s) := by
  obtain ⟨hlast, hmodes⟩ := hstay
  obtain ⟨b, hb⟩ := Option.isSome_iff_exists.mp hlast
  have hdrop : (p ++ u ++ s).drop p.length = u ++ s := by simp
  have hmiddle : at? l a 0 (u ++ s) u.length = some b := by
    rw [← hb, at?_add ha, hdrop]
  have hinside : CodeEq b a := by
    refine at?_hidden hmode u s hu hmiddle fun k hk c hc => ?_
    refine hmodes (p.length + k) (Nat.add_le_add_left hk _) (Nat.le_add_right _ _) c ?_
    rwa [at?_add ha, hdrop]
  have hrest : (p ++ u ++ s).drop (p.length + u.length) = s := by
    rw [← List.length_append, List.drop_left]
  rw [run_of_at? hb, hrest]
  exact hinside.run 0 s

end Scanner

/-! ### What depends on the code alone -/

lemma ofText_codes {l : Language} (hl : WellMarked l) (t : Text) (ht : t ≠ []) :
    (Source.ofText l t).lines.map (·.code) =
      (Scanner.start.run l 0 (Source.normalize t)).allCode.map Text.stripRight := by
  have hcodes : (Scanner.start.run l 0 (Source.normalize t)).allCode =
      (linesOf l (Source.normalize t)).map (charsOf .code) :=
    congrArg Prod.fst (collectLines_eq hl (Source.normalize t))
  rw [ofText_lines l t ht, hcodes, List.map_map]
  apply List.ext_getElem?
  intro k
  rw [List.getElem?_map, List.getElem?_mapIdx, List.getElem?_map, Option.map_map]
  rfl

lemma decisionPoints_eq (decisions : List Pattern) (lines : List SourceLine) :
    Complexity.decisionPoints decisions lines =
      Listing.total ((lines.map (·.code)).map fun code =>
        if !Text.allBlank code then Complexity.decisionsOn decisions code else 0) := by
  rw [List.map_map]
  rfl

lemma keywordStacks_congr (keywords : List (Text × BlockKind)) (stack : List BlockKind)
    {xs ys : List SourceLine} (h : xs.map (·.code) = ys.map (·.code)) :
    Keywords.stacksFrom keywords stack xs = Keywords.stacksFrom keywords stack ys := by
  induction xs generalizing ys stack with
  | nil =>
    rw [List.map_nil, eq_comm, List.map_eq_nil_iff] at h
    rw [h]
  | cons x xs ih =>
    obtain ⟨y, ys, rfl, hxy, hxs⟩ := List.map_eq_cons_iff.mp (h.symm.trans (List.map_cons ..))
    have hstripped : x.stripped = y.stripped := by
      rw [SourceLine.stripped, SourceLine.stripped, hxy]
    simp only [Keywords.stacksFrom, hstripped, ih _ hxs.symm]

lemma blockMap_congr {x y : Source} (hlang : x.language = y.language)
    (hstyle : x.language.blockStyle ≠ .indentation)
    (h : x.lines.map (·.code) = y.lines.map (·.code)) :
    BlockMap.ofSource x = BlockMap.ofSource y := by
  unfold BlockMap.ofSource Braces.lineBlocks Keywords.lineBlocks
  rw [← hlang, h]
  cases hx : x.language.blockStyle with
  | braces => rfl
  | indentation => exact absurd hx hstyle
  | keywords =>
    dsimp only
    rw [keywordStacks_congr _ _ h]

/-- Two texts differ in a part that has no line ends. The scans of both stand at its beginning with
the same code so far and inside of the same comment or string, and stay inside up to its end. Then
all lines have the same code. So the complexity is the same, and so are the blocks around the lines
of a language whose blocks are not indented. -/
theorem ofText_code_hidden (l : Language) (hl : l ∈ Language.table) (p u v s : Text)
    (hpu : '\r' ∉ p ++ u ++ s) (hpv : '\r' ∉ p ++ v ++ s)
    (hpun : (p ++ u ++ s).getLast? ≠ some '\n') (hpvn : (p ++ v ++ s).getLast? ≠ some '\n')
    (hu : '\n' ∉ u) (hv : '\n' ∉ v) (a b : Scanner)
    (ha : Scanner.start.at? l 0 (p ++ u ++ s) p.length = some a)
    (hb : Scanner.start.at? l 0 (p ++ v ++ s) p.length = some b)
    (hab : a.CodeEq b) (hmode : a.mode ≠ .code)
    (hstay : Scanner.StaysIn l a.mode (p ++ u ++ s) p.length (p.length + u.length))
    (hstay' : Scanner.StaysIn l a.mode (p ++ v ++ s) p.length (p.length + v.length)) :
    let x := Source.ofText l (p ++ u ++ s)
    let y := Source.ofText l (p ++ v ++ s)
    x.lines.map (·.code) = y.lines.map (·.code) ∧
      (∀ fs gs : List FunctionSpan,
        (Complexity.ofSource x fs).total = (Complexity.ofSource y gs).total) ∧
      (l.blockStyle ≠ .indentation → BlockMap.ofSource x = BlockMap.ofSource y) := by
  intro x y
  have hmarked := table_wellMarked l hl
  -- A scan of the empty text is inside of nothing.
  have hne : ∀ (t : Text) (c : Scanner), Scanner.start.at? l 0 t p.length = some c →
      c.mode ≠ .code → t ≠ [] := by
    rintro t c hc hm rfl
    cases hp : p.length with
    | zero =>
      rw [hp, Scanner.at?_zero] at hc
      exact hm (congrArg Scanner.mode (Option.some.inj hc)).symm
    | succ n => simp [hp, Scanner.at?] at hc
  have hcodes : x.lines.map (·.code) = y.lines.map (·.code) := by
    have hx := Scanner.run_hidden hmode p u s hu ha hstay
    have hy := Scanner.run_hidden hmode p v s hv hb hstay'
    rw [ofText_codes hmarked _ (hne _ a ha hmode), normalize_eq_self _ hpu hpun,
      ofText_codes hmarked _ (hne _ b hb (hab.mode ▸ hmode)), normalize_eq_self _ hpv hpvn,
      hx.allCode_eq, hy.allCode_eq, (hab.run 0 s).allCode_eq]
  have hlang : x.language = y.language := (ofText_language l _).trans (ofText_language l _).symm
  refine ⟨hcodes, fun fs gs => ?_, fun hstyle => ?_⟩
  · simp only [Complexity.ofSource]
    rw [decisionPoints_eq, decisionPoints_eq, hcodes, hlang]
  · exact blockMap_congr hlang (by rwa [ofText_language]) hcodes

/-- Braces and marks of comments inside a string leave the blocks as they are. -/
theorem ofText_code_hidden_braces :
    Language.javascript ∈ Language.table ∧
      BlockMap.ofSource (Source.ofText Language.javascript
        "if (a) \x7b x = ' ';\ny(); // '") =
      BlockMap.ofSource (Source.ofText Language.javascript
        "if (a) \x7b x = '\x7d else \\'/*';\ny(); // '") := by
  have hl : Language.javascript ∈ Language.table := by simp [Language.table]
  refine ⟨hl, ?_⟩
  have h := ofText_code_hidden Language.javascript hl "if (a) \x7b x = '" " " "\x7d else \\'/*"
    "';\ny(); // '" (by decide) (by decide) (by decide) (by decide) (by decide) (by decide)
    ⟨[], [], "if (a) \x7b x = '", [], .string '\''⟩ ⟨[], [], "if (a) \x7b x = '", [], .string '\''⟩
    (by decide) (by decide) ⟨rfl, rfl, rfl⟩ (by decide) (by decide) (by decide)
  exact h.2.2 (by decide)

end SourceGrade.Proofs
