import Mathlib.Data.List.Forall2
import SourceGrade.Proofs.ForeignWords
import SourceGrade.Proofs.FoundIssues

/-!
# Open braces

An opening brace opens a block, and a closing brace closes the innermost one, if there is any. Of
the moments of a line the first at which most blocks are open decides what the line is shown with.
A block that is open throughout a line is therefore always shown, but a block that a line opens only
to the depth that another one had before on that line is not.
-/

namespace SourceGrade

namespace Braces

/-- The kind of the block that a token opens, if it does. -/
def openedBy (keywords : List (Text × BlockKind)) (s : State) (parens : Nat) (t : Token) :
    List BlockKind :=
  if t = .openBrace then (step keywords s parens t).1.stack.take 1 else []

/-- The kinds of the blocks that the braces of a line open, in order. -/
def openedOn (keywords : List (Text × BlockKind)) :
    State → (parens : Nat) → List Token → List BlockKind
  | _, _, [] => []
  | s, parens, t :: ts =>
    let (s', parens') := step keywords s parens t
    openedBy keywords s parens t ++ openedOn keywords s' parens' ts

/-- The kinds of the blocks that the braces of some lines open, from a state on. -/
def openedFrom (keywords : List (Text × BlockKind)) (s : State) :
    List Text → Except BlockError (List BlockKind)
  | [] => .ok []
  | code :: codes =>
    match tokens code with
    | .error e => .error e
    | .ok ts =>
      (openedFrom keywords (runLine keywords s.stack s 0 ts).2 codes).map
        (openedOn keywords s 0 ts ++ ·)

/-- The kinds of the blocks that the braces of a source open, in order. -/
def openedKinds (source : Source) : Except BlockError (List BlockKind) :=
  openedFrom source.language.blockKeywords ⟨[], none⟩ (source.lines.map (·.code))

end Braces

/-- The blocks of a text, counted from 0 in the order of their opening braces: how many were opened,
and which of them are open, the innermost first. -/
structure OpenBlocks where
  opened : Nat
  inside : List Nat
  deriving DecidableEq, Repr

namespace OpenBlocks

def start : OpenBlocks := ⟨0, []⟩

def read (b : OpenBlocks) (c : Char) : OpenBlocks :=
  if c = '{' then ⟨b.opened + 1, b.opened :: b.inside⟩
  else if c = '}' then { b with inside := b.inside.tail }
  else b

def readAll (b : OpenBlocks) (t : Text) : OpenBlocks := t.foldl read b

def depth (b : OpenBlocks) : Nat := b.inside.length

/-- Of the moments of a line, before which the blocks `b` are open, the first of largest depth. -/
structure EarliestDeepest (b : OpenBlocks) (line : Text) (i : Nat) : Prop where
  le : i ≤ line.length
  deepest : ∀ j ≤ line.length, (b.readAll (line.take j)).depth ≤ (b.readAll (line.take i)).depth
  earliest : ∀ j < i, (b.readAll (line.take j)).depth < (b.readAll (line.take i)).depth

/-- The blocks are open in the order of their numbers, all of which were given. -/
structure Counted (b : OpenBlocks) : Prop where
  order : b.inside.Pairwise (· > ·)
  below : ∀ n ∈ b.inside, n < b.opened

lemma read_of_not_brace (b : OpenBlocks) {c : Char} (h : c ≠ '{' ∧ c ≠ '}') : b.read c = b := by
  rw [read, if_neg h.1, if_neg h.2]

lemma readAll_append (b : OpenBlocks) (t u : Text) :
    b.readAll (t ++ u) = (b.readAll t).readAll u :=
  List.foldl_append

lemma Counted.read {b : OpenBlocks} (h : b.Counted) (c : Char) : (b.read c).Counted := by
  unfold OpenBlocks.read
  split
  · refine ⟨List.pairwise_cons.mpr ⟨h.below, h.order⟩, ?_⟩
    exact List.forall_mem_cons.mpr
      ⟨Nat.lt_succ_self _, fun n hn => Nat.lt_succ_of_lt (h.below n hn)⟩
  · split
    · exact ⟨h.order.tail, fun n hn => h.below n (List.mem_of_mem_tail hn)⟩
    · exact h

lemma Counted.readAll {b : OpenBlocks} (h : b.Counted) (t : Text) : (b.readAll t).Counted := by
  induction t generalizing b with
  | nil => exact h
  | cons c r ih => exact ih (h.read c)

lemma start_counted : start.Counted := ⟨List.Pairwise.nil, fun n hn => by cases hn⟩

lemma opened_le_read (b : OpenBlocks) (c : Char) : b.opened ≤ (b.read c).opened := by
  unfold read
  split
  · exact Nat.le_succ _
  · split <;> exact le_rfl

lemma opened_le_readAll (b : OpenBlocks) (t : Text) : b.opened ≤ (b.readAll t).opened := by
  induction t generalizing b with
  | nil => exact le_rfl
  | cons c r ih => exact (opened_le_read b c).trans (ih _)

lemma mem_of_readAll {b : OpenBlocks} {t : Text} {n : Nat} (h : n ∈ (b.readAll t).inside)
    (hn : n < b.opened) : n ∈ b.inside := by
  induction t generalizing b with
  | nil => exact h
  | cons c r ih =>
    have hread : n ∈ (b.read c).inside := ih h (hn.trans_le (opened_le_read b c))
    unfold read at hread
    split at hread
    · rcases List.mem_cons.mp hread with rfl | hread
      · exact absurd hn (Nat.lt_irrefl _)
      · exact hread
    · split at hread
      · exact List.mem_of_mem_tail hread
      · exact hread

/-! ### The deepest moment -/

/-- The blocks that are open at the first moment of a text that is deeper than `best` and than all
other moments, or else `best`. -/
def deepest (best : List Nat) (b : OpenBlocks) : Text → List Nat
  | [] => best
  | c :: r =>
    deepest (if best.length < (b.read c).depth then (b.read c).inside else best) (b.read c) r

lemma deepest_cons_of_le {best : List Nat} {b : OpenBlocks} {c : Char}
    (h : (b.read c).depth ≤ best.length) (r : Text) :
    deepest best b (c :: r) = deepest best (b.read c) r := by
  rw [deepest, if_neg (Nat.not_lt.mpr h)]

lemma EarliestDeepest.cons {b : OpenBlocks} {c : Char} {r : Text} {i : Nat}
    (h : (b.read c).EarliestDeepest r i)
    (hlt : b.depth < ((b.read c).readAll (r.take i)).depth) :
    b.EarliestDeepest (c :: r) (i + 1) := by
  refine ⟨Nat.succ_le_succ h.le, fun j hj => ?_, fun j hj => ?_⟩
  · cases j with
    | zero => exact hlt.le
    | succ j => exact h.deepest j (Nat.le_of_succ_le_succ hj)
  · cases j with
    | zero => exact hlt
    | succ j => exact h.earliest j (Nat.lt_of_succ_lt_succ hj)

lemma deepest_eq (t : Text) {best : List Nat} {b : OpenBlocks} (h : b.depth ≤ best.length) :
    (deepest best b t = best ∧ ∀ j ≤ t.length, (b.readAll (t.take j)).depth ≤ best.length) ∨
      ∃ i, b.EarliestDeepest t i ∧ best.length < (b.readAll (t.take i)).depth ∧
        deepest best b t = (b.readAll (t.take i)).inside := by
  induction t generalizing best b with
  | nil =>
    refine .inl ⟨rfl, fun j _ => ?_⟩
    rw [List.take_nil]
    exact h
  | cons c r ih =>
    rw [deepest]
    by_cases hlt : best.length < (b.read c).depth
    · rw [if_pos hlt]
      obtain ⟨heq, hle⟩ | ⟨i, hi, hdeep, heq⟩ := @ih (b.read c).inside (b.read c) le_rfl
      · have hzero : (b.read c).EarliestDeepest r 0 :=
          ⟨Nat.zero_le _, hle, fun j hj => absurd hj (Nat.not_lt_zero j)⟩
        exact .inr ⟨1, hzero.cons (h.trans_lt hlt), hlt, heq⟩
      · have hlt' := hlt.trans hdeep
        exact .inr ⟨i + 1, hi.cons (h.trans_lt hlt'), hlt', heq⟩
    · rw [if_neg hlt]
      obtain ⟨heq, hle⟩ | ⟨i, hi, hdeep, heq⟩ := ih (Nat.le_of_not_lt hlt)
      · refine .inl ⟨heq, fun j hj => ?_⟩
        cases j with
        | zero => exact h
        | succ j => exact hle j (Nat.le_of_succ_le_succ hj)
      · exact .inr ⟨i + 1, hi.cons (h.trans_lt hdeep), hdeep, heq⟩

lemma exists_earliestDeepest (b : OpenBlocks) (t : Text) :
    ∃ i, b.EarliestDeepest t i ∧ deepest b.inside b t = (b.readAll (t.take i)).inside := by
  obtain ⟨heq, hle⟩ | ⟨i, hi, -, heq⟩ := @deepest_eq t b.inside b le_rfl
  · exact ⟨0, ⟨Nat.zero_le _, hle, fun j hj => absurd hj (Nat.not_lt_zero j)⟩, heq⟩
  · exact ⟨i, hi, heq⟩

end OpenBlocks

namespace Proofs

open Braces

/-! ### The stack as numbers of blocks -/

/-- The kinds of some blocks, given the kinds of all blocks in the order of their numbers. -/
def Named (kinds : List BlockKind) (blocks : List Nat) (stack : List BlockKind) : Prop :=
  List.Forall₂ (fun n kind => kinds[n]? = some kind) blocks stack

variable {keywords : List (Text × BlockKind)} {kinds : List BlockKind} {b : OpenBlocks}
  {s : Braces.State} {parens : Nat}

lemma Named.append {blocks : List Nat} {stack : List BlockKind} (h : Named kinds blocks stack)
    (more : List BlockKind) : Named (kinds ++ more) blocks stack := by
  refine List.Forall₂.imp (fun n kind hn => ?_) h
  rw [List.getElem?_append_left (List.getElem?_eq_some_iff.mp hn).1]
  exact hn

lemma Named.tail {blocks : List Nat} {stack : List BlockKind} (h : Named kinds blocks stack) :
    Named kinds blocks.tail stack.tail := by
  cases h with
  | nil => exact .nil
  | cons _ h => exact h

/-- The open blocks of a state of the search are those of the text that it has read. -/
structure Tracks (kinds : List BlockKind) (b : OpenBlocks) (s : Braces.State) : Prop where
  stack : Named kinds b.inside s.stack
  opened : b.opened = kinds.length

lemma Tracks.depth_eq (h : Tracks kinds b s) : s.stack.length = b.depth := h.stack.length_eq.symm

lemma Tracks.congr (h : Tracks kinds b s) {s' : Braces.State} (hs : s'.stack = s.stack) :
    Tracks (kinds ++ []) b s' := by
  refine ⟨?_, ?_⟩
  · rw [List.append_nil, hs]
    exact h.stack
  · rw [List.append_nil]
    exact h.opened

lemma step_word_stack (w : Text) (afterDot : Bool) :
    (step keywords s parens (.word w afterDot)).1.stack = s.stack := by
  rw [step]
  split
  · split <;> rfl
  · rfl

lemma tokenOf?_eq_none {c : Char} (h : tokenOf? c = none) : c ≠ '{' ∧ c ≠ '}' := by
  constructor
  · rintro rfl
    cases h
  · rintro rfl
    cases h

lemma not_brace_of_isWordChar {c : Char} (h : Text.isWordChar c = true) : c ≠ '{' ∧ c ≠ '}' := by
  constructor
  · rintro rfl
    exact absurd h (by decide)
  · rintro rfl
    exact absurd h (by decide)

/-- A brace does to the stack what it does to the open blocks, and no other token changes it. -/
lemma Tracks.token (h : Tracks kinds b s) {c : Char} {t : Token} (hc : tokenOf? c = some t) :
    Tracks (kinds ++ openedBy keywords s parens t) (b.read c) (step keywords s parens t).1 := by
  unfold tokenOf? at hc
  split at hc
  case h_1 | h_2 =>
    obtain rfl := Option.some.inj hc
    exact h.congr rfl
  case h_3 =>
    obtain rfl := Option.some.inj hc
    refine h.congr ?_
    rw [step]
    split <;> rfl
  case h_4 =>
    obtain rfl := Option.some.inj hc
    have hkind : (kinds ++ [s.pending.getD .other])[b.opened]? = some (s.pending.getD .other) := by
      rw [h.opened, List.getElem?_concat_length]
    refine ⟨.cons hkind (h.stack.append _), ?_⟩
    change b.opened + 1 = (kinds ++ [s.pending.getD .other]).length
    rw [List.length_append, h.opened, List.length_singleton]
  case h_5 =>
    obtain rfl := Option.some.inj hc
    refine ⟨?_, ?_⟩
    · change Named (kinds ++ []) b.inside.tail s.stack.tail
      exact (h.stack.append _).tail
    · change b.opened = (kinds ++ []).length
      rw [List.append_nil, h.opened]
  case h_6 => cases hc

lemma isWordChar_of_mem_tail (r : Text) :
    ∀ d ∈ r.take (r.takeWhile Text.isWordChar).length, Text.isWordChar d = true := by
  intro d hd
  rw [← List.prefix_iff_eq_take.mp (List.takeWhile_prefix _)] at hd
  exact List.mem_takeWhile_imp hd

lemma runLine_cons (stack : List BlockKind) (t : Token) (ts : List Token) :
    runLine keywords stack s parens (t :: ts) =
      runLine keywords
        (if stack.length < (step keywords s parens t).1.stack.length then
          (step keywords s parens t).1.stack else stack)
        (step keywords s parens t).1 (step keywords s parens t).2 ts := rfl

/-- On a line the search finds the kinds of the blocks that are open at its deepest moment. The
characters that belong to a word before them are no braces. -/
lemma runLine_deepest {before : Option Char} {skip : Nat} {t : Text} {ts : List Token}
    (hts : tokensFrom before skip t = .ok ts) (hskip : ∀ c ∈ t.take skip, Text.isWordChar c = true)
    {best : List Nat} {stack : List BlockKind} (h : Tracks kinds b s)
    (hstack : Named kinds best stack) (hle : b.depth ≤ best.length) (parens : Nat) :
    Named (kinds ++ openedOn keywords s parens ts) (OpenBlocks.deepest best b t)
        (runLine keywords stack s parens ts).1 ∧
      Tracks (kinds ++ openedOn keywords s parens ts) (b.readAll t)
        (runLine keywords stack s parens ts).2 := by
  induction t generalizing before skip ts kinds b s parens best stack with
  | nil =>
    rw [tokensFrom] at hts
    obtain rfl := Except.ok.inj hts
    exact ⟨hstack.append [], h.congr rfl⟩
  | cons c r ih =>
    -- A character that no block depends on.
    have hpass : ∀ {skip ts}, c ≠ '{' ∧ c ≠ '}' → tokensFrom (some c) skip r = .ok ts →
        (∀ d ∈ r.take skip, Text.isWordChar d = true) →
        Named (kinds ++ openedOn keywords s parens ts) (OpenBlocks.deepest best b (c :: r))
            (runLine keywords stack s parens ts).1 ∧
          Tracks (kinds ++ openedOn keywords s parens ts) (b.readAll (c :: r))
            (runLine keywords stack s parens ts).2 := by
      intro skip ts hc hts hskip
      have hread : b.read c = b := b.read_of_not_brace hc
      have hfirst : b.readAll (c :: r) = b.readAll r := congrArg (·.readAll r) hread
      rw [OpenBlocks.deepest_cons_of_le (hread.symm ▸ hle), hread, hfirst]
      exact ih hts hskip h hstack hle parens
    -- A character at which a token begins.
    have htoken : ∀ {skip t ts}, tokensFrom (some c) skip r = .ok ts →
        (∀ d ∈ r.take skip, Text.isWordChar d = true) →
        Tracks (kinds ++ openedBy keywords s parens t) (b.read c) (step keywords s parens t).1 →
        Named (kinds ++ openedOn keywords s parens (t :: ts)) (OpenBlocks.deepest best b (c :: r))
            (runLine keywords stack s parens (t :: ts)).1 ∧
          Tracks (kinds ++ openedOn keywords s parens (t :: ts)) (b.readAll (c :: r))
            (runLine keywords stack s parens (t :: ts)).2 := by
      intro skip t ts hts hskip h'
      rw [openedOn, ← List.append_assoc, OpenBlocks.deepest, runLine_cons, h'.depth_eq,
        ← hstack.length_eq]
      split
      · exact ih hts hskip h' h'.stack le_rfl _
      · next hlt => exact ih hts hskip h' (hstack.append _) (Nat.le_of_not_lt hlt) _
    cases skip with
    | succ skip =>
      rw [List.take_succ_cons, List.forall_mem_cons] at hskip
      exact hpass (not_brace_of_isWordChar hskip.1) hts hskip.2
    | zero =>
      rw [tokensFrom] at hts
      split at hts
      · next hname =>
        obtain ⟨rest, hrest, rfl⟩ := except_map_eq_ok hts
        refine htoken hrest (isWordChar_of_mem_tail r) ?_
        · rw [b.read_of_not_brace (not_brace_of_isWordChar (isWordChar_of_isNameStart hname))]
          exact h.congr (step_word_stack _ _)
      · split at hts
        · cases hts
        · obtain ⟨rest, hrest, rfl⟩ := except_map_eq_ok hts
          cases hc : tokenOf? c with
          | none => exact hpass (tokenOf?_eq_none hc) hrest (by simp)
          | some t => exact htoken hrest (by simp) (h.token hc)

lemma stacksFrom_deepest {codes : List Text} {found : List (List BlockKind)}
    (hfound : stacksFrom keywords s codes = .ok found) (h : Tracks kinds b s) :
    ∃ more, openedFrom keywords s codes = .ok more ∧
      (b.readAll codes.flatten).opened = (kinds ++ more).length ∧
      ∀ (k : Nat) (code : Text), codes[k]? = some code → ∃ stack, found[k]? = some stack ∧
        let before := b.readAll (codes.take k).flatten
        Named (kinds ++ more) (OpenBlocks.deepest before.inside before code) stack.reverse := by
  induction codes generalizing s kinds b found with
  | nil => exact ⟨[], rfl, by rw [List.append_nil]; exact h.opened, fun k code hk => by simp at hk⟩
  | cons code codes ih =>
    rw [stacksFrom] at hfound
    cases hts : tokens code with
    | error e =>
      rw [hts] at hfound
      cases hfound
    | ok ts =>
      rw [hts] at hfound
      obtain ⟨rest, hrest, rfl⟩ := except_map_eq_ok hfound
      obtain ⟨hline, hafter⟩ := runLine_deepest hts (by simp) h h.stack le_rfl 0
      obtain ⟨more, hmore, hopened, hlines⟩ := ih hrest hafter
      refine ⟨openedOn keywords s 0 ts ++ more, ?_, ?_, ?_⟩
      · rw [openedFrom, hts]
        dsimp only
        rw [hmore]
        rfl
      · rw [List.flatten_cons, OpenBlocks.readAll_append, hopened, List.append_assoc]
      · intro k found hk
        cases k with
        | zero =>
          obtain rfl := Option.some.inj hk
          refine ⟨_, rfl, ?_⟩
          rw [List.reverse_reverse, ← List.append_assoc]
          exact hline.append more
        | succ k =>
          obtain ⟨stack, hstack, hnamed⟩ := hlines k found hk
          refine ⟨stack, hstack, ?_⟩
          rw [List.take_succ_cons, List.flatten_cons, OpenBlocks.readAll_append,
            ← List.append_assoc]
          exact hnamed

/-- In a source with braces each line is shown with the kinds of the blocks that are open at the
first of its deepest moments, the outermost first. Of the blocks that are open at the end of the
line these are the ones that were opened by then, and so all that are open throughout the line. -/
theorem braceBlocks_deepest (s : Source) (hs : s.language.blockStyle = .braces) {m : BlockMap}
    (hm : BlockMap.ofSource s = .ok m) :
    ∃ kinds, openedKinds s = .ok kinds ∧
      kinds.length = (OpenBlocks.start.readAll (s.lines.map (·.code)).flatten).opened ∧
      m.lineBlocks.length = s.lines.length ∧
      ∀ (k : Nat) (line : SourceLine), s.lines[k]? = some line →
        let before := OpenBlocks.start.readAll ((s.lines.map (·.code)).take k).flatten
        let after := before.readAll line.code
        ∃ i, before.EarliestDeepest line.code i ∧
          let shown := before.readAll (line.code.take i)
          List.Forall₂ (fun n kind => kinds[n]? = some kind) shown.inside.reverse
            (m.kindsAt (k + 1)) ∧
          shown.inside.reverse.Pairwise (· < ·) ∧
          (∀ n ∈ after.inside, n ∈ shown.inside ↔ n < shown.opened) ∧
          ∀ n ∈ after.inside, n < before.opened → n ∈ shown.inside := by
  have hlength := blockMap_length hm
  unfold BlockMap.ofSource at hm
  rw [hs] at hm
  obtain ⟨found, hfound, rfl⟩ := except_map_eq_ok hm
  have hstart : Tracks [] .start ⟨[], none⟩ := ⟨.nil, rfl⟩
  obtain ⟨kinds, hkinds, hopened, hlines⟩ := stacksFrom_deepest hfound hstart
  refine ⟨kinds, hkinds, hopened.symm, hlength, ?_⟩
  intro k line hk before after
  obtain ⟨stack, hstack, hnamed⟩ := hlines k line.code (by rw [List.getElem?_map, hk]; rfl)
  obtain ⟨i, hi, heq⟩ := before.exists_earliestDeepest line.code
  refine ⟨i, hi, ?_⟩
  intro shown
  have hcounted : shown.Counted := (OpenBlocks.start_counted.readAll _).readAll _
  have hafter : after = shown.readAll (line.code.drop i) := by
    rw [← OpenBlocks.readAll_append, List.take_append_drop]
  have hopen : ∀ n ∈ after.inside, n < shown.opened → n ∈ shown.inside := by
    intro n hn hlt
    rw [hafter] at hn
    exact OpenBlocks.mem_of_readAll hn hlt
  refine ⟨?_, ?_, fun n hn => ⟨hcounted.below n, hopen n hn⟩, ?_⟩
  · rw [BlockMap.kindsAt_succ, hstack, Option.getD_some, ← List.reverse_reverse stack]
    exact List.rel_reverse (heq ▸ hnamed)
  · exact List.pairwise_reverse.mpr hcounted.order
  · intro n hn hlt
    exact hopen n hn (hlt.trans_le (before.opened_le_readAll _))

/-- Two branches, the second of which begins on the line that ends the first. -/
def branchesText : Text := "if (a) \x7b\n  b();\n\x7d else \x7b\n  c();\n\x7d"

/-- The line between two branches is shown with the block that was open at its beginning. -/
theorem braceBlocks_deepest_branches :
    let s := Source.ofText Language.javascript branchesText
    let between : Text := "\x7d else \x7b"
    s.language.blockStyle = .braces ∧ ∃ m, BlockMap.ofSource s = .ok m ∧
      ∃ kinds, openedKinds s = .ok kinds ∧ kinds.length = 2 ∧
        ∃ i, (OpenBlocks.mk 1 [0]).EarliestDeepest between i ∧
          List.Forall₂ (fun n kind => kinds[n]? = some kind)
            ((OpenBlocks.mk 1 [0]).readAll (between.take i)).inside.reverse (m.kindsAt 3) := by
  intro s between
  have hs : s.language.blockStyle = .braces := rfl
  have hm : BlockMap.ofSource s = .ok ⟨[[.conditional], [.conditional], [.conditional],
      [.alternative], [.alternative]]⟩ := by decide +kernel
  obtain ⟨kinds, hkinds, hlength, -, hlines⟩ := braceBlocks_deepest s hs hm
  obtain ⟨i, hi, hshown, -⟩ := hlines 2 ⟨3, between, between, [], 0⟩ (by decide +kernel)
  have hbefore : OpenBlocks.start.readAll ((s.lines.map (·.code)).take 2).flatten = ⟨1, [0]⟩ := by
    decide +kernel
  rw [hbefore] at hi hshown
  exact ⟨hs, _, hm, kinds, hkinds, hlength.trans (by decide +kernel), i, hi, hshown⟩

/-- A block that a line opens and leaves open need not be shown there: the second branch is not
shown on the line on which it begins. -/
theorem braceBlocks_hidden_header :
    let s := Source.ofText Language.javascript branchesText
    let between : Text := "\x7d else \x7b"
    let before := OpenBlocks.start.readAll ((s.lines.map (·.code)).take 2).flatten
    openedKinds s = .ok [.conditional, .alternative] ∧ (s.lines[2]?).map (·.code) = some between ∧
      before.opened = 1 ∧ (before.readAll between).inside = [1] ∧
      ∃ m, BlockMap.ofSource s = .ok m ∧ .alternative ∉ m.kindsAt 3 := by
  intro s between before
  have hm : BlockMap.ofSource s = .ok ⟨[[.conditional], [.conditional], [.conditional],
      [.alternative], [.alternative]]⟩ := by decide +kernel
  exact ⟨by decide +kernel, by decide +kernel, by decide +kernel, by decide +kernel, _, hm,
    by decide⟩

end Proofs

end SourceGrade
