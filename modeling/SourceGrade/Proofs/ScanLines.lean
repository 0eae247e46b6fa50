import Mathlib.Data.List.Basic
import SourceGrade.Proofs.ScanMarks
import SourceGrade.Source.Basic

/-!
# The lines that a scan collects

`Scanner` moves through a text and collects its code and its comments line by line. It ends with as
many lines of each as the text has, and they are the characters that the labels of the scan single
out on each line.
-/

namespace SourceGrade.Proofs

/-- The scanner between two moves: the finished lines of code and of comments, what it has of the
current line, and what it is inside of. -/
structure Scanner where
  codeLines : List Text
  commentLines : List Text
  code : Text
  comment : Text
  mode : ScanMode
  deriving DecidableEq, Repr

namespace Scanner

def start : Scanner := ⟨[], [], [], [], .code⟩

/-- Takes in a character as what it is for. -/
def put (a : Scanner) (c : Char) : Part → Scanner
  | .code => { a with code := a.code ++ [c] }
  | .comment => { a with comment := a.comment ++ [c] }
  | .hidden => a
  | .lineEnd => ⟨a.codeLines ++ [a.code], a.commentLines ++ [a.comment], [], [], a.mode⟩

def state (a : Scanner) : ScanState := ⟨a.mode, !Text.allBlank a.code⟩

/-- One move before a character and the rest of the text: the scanner after it, and how many
characters are passed over besides the first. -/
def move (l : Language) (a : Scanner) (c : Char) (r : Text) : Scanner × Nat :=
  let (part, skip, s) := l.scanStep a.state c r
  ({ a.put c part with mode := s.mode }, skip)

/-- The scanner at the end of a text whose first `skip` characters it has passed over. -/
def run (l : Language) : Scanner → (skip : Nat) → Text → Scanner
  | a, _, [] => a
  | a, skip + 1, _ :: r => run l a skip r
  | a, 0, c :: r => run l (a.move l c r).1 (a.move l c r).2 r

/-- The code of each line. -/
def allCode (a : Scanner) : List Text := a.codeLines ++ [a.code]

/-- The comments of each line. -/
def allComments (a : Scanner) : List Text := a.commentLines ++ [a.comment]

lemma state_put {l : Language} (hl : WellMarked l) (a : Scanner) (hm : ModeOf l a.mode) {c : Char}
    {r : Text} {part : Part} {skip : Nat} {s : ScanState}
    (h : Move l a.state c r (part, skip, s)) : { a.put c part with mode := s.mode }.state = s := by
  have hvisible : l.isStringDelimiter c = true → Text.allBlank (a.code ++ [c]) = false := by
    intro hd
    simp [Text.allBlank, hl.isBlank_delimiter hd]
  cases h with
  | closeString _ hmode =>
    have hd : l.isStringDelimiter c = true := by
      rw [show a.mode = .string c from hmode] at hm
      exact hm
    simp [put, state, hvisible hd]
  | openString _ _ hd => simp [put, state, hvisible hd]
  | code =>
    simp only [put, state, Text.allBlank, List.all_append, List.all_cons, List.all_nil]
    cases a.code.all Text.isBlank <;> simp
  | _ => rfl

variable {l : Language} (hl : WellMarked l)

include hl in
lemma move_state (a : Scanner) (hm : ModeOf l a.mode) (c : Char) (r : Text) :
    (a.move l c r).1.state = (l.scanStep a.state c r).2.2 :=
  state_put hl a hm (scanStep_move l a.state c r)

lemma move_modeOf (a : Scanner) (hm : ModeOf l a.mode) (c : Char) (r : Text) :
    ModeOf l (a.move l c r).1.mode :=
  (scanStep_move l a.state c r).modeOf hm

end Scanner

/-! ### Labelled lines -/

lemma labelledLines_ne_nil (w : List (Char × Part)) : labelledLines w ≠ [] := by
  cases w with
  | nil => simp [labelledLines]
  | cons x w =>
    obtain ⟨c, part⟩ := x
    simp only [labelledLines]
    split
    · simp
    · split <;> simp

lemma labelledLines_lineEnd (c : Char) (w : List (Char × Part)) :
    labelledLines ((c, .lineEnd) :: w) = [] :: labelledLines w := by
  simp [labelledLines]

lemma labelledLines_cons (c : Char) {part : Part} (h : part ≠ .lineEnd) (w : List (Char × Part)) :
    labelledLines ((c, part) :: w) = (labelledLines w).modifyHead ((c, part) :: ·) := by
  rw [labelledLines, if_neg h]
  obtain ⟨x, xs, hx⟩ := List.exists_cons_of_ne_nil (labelledLines_ne_nil w)
  rw [hx]
  rfl

lemma splitOn_ne_nil (sep : Char) (t : Text) : Text.splitOn sep t ≠ [] := by
  cases t with
  | nil => simp [Text.splitOn]
  | cons c r =>
    simp only [Text.splitOn]
    split
    · simp
    · split <;> simp

lemma splitOn_cons {sep c : Char} (h : c ≠ sep) (t : Text) :
    Text.splitOn sep (c :: t) = (Text.splitOn sep t).modifyHead (c :: ·) := by
  rw [Text.splitOn, if_neg h]
  obtain ⟨p, ps, hp⟩ := List.exists_cons_of_ne_nil (splitOn_ne_nil sep t)
  rw [hp]
  rfl

/-- Labels that mark the line feeds as line ends cut a text where its line feeds do. -/
lemma labelledLines_raw (w : List (Char × Part))
    (h : ∀ x ∈ w, x.2 = .lineEnd ↔ x.1 = '\n') :
    (labelledLines w).map (·.map (·.1)) = Text.splitOn '\n' (w.map (·.1)) := by
  induction w with
  | nil => rfl
  | cons x w ih =>
    obtain ⟨c, part⟩ := x
    have hx : part = .lineEnd ↔ c = '\n' := h (c, part) List.mem_cons_self
    have ih := ih fun y hy => h y (List.mem_cons_of_mem _ hy)
    by_cases hp : part = .lineEnd
    · rw [hp, labelledLines_lineEnd, List.map_cons, ih, List.map_cons, hx.mp hp]
      simp [Text.splitOn]
    · rw [labelledLines_cons c hp, List.map_cons, splitOn_cons (mt hx.mpr hp), ← ih]
      cases labelledLines w <;> rfl

/-! ### The scan as labels -/

lemma length_scanFrom (l : Language) (s : ScanState) (skip : Nat) (t : Text) :
    (l.scanFrom s skip t).length = t.length := by
  induction t generalizing s skip with
  | nil => simp [Language.scanFrom]
  | cons c r ih =>
    cases skip with
    | zero => simp [Language.scanFrom, ih]
    | succ skip => simp [Language.scanFrom, ih]

/-- The characters of a text with their labels. -/
def labelled (l : Language) (s : ScanState) (skip : Nat) (t : Text) : List (Char × Part) :=
  t.zip (l.scanFrom s skip t)

lemma labelled_chars (l : Language) (s : ScanState) (skip : Nat) (t : Text) :
    (labelled l s skip t).map (·.1) = t :=
  List.map_fst_zip (Nat.le_of_eq (length_scanFrom l s skip t).symm)

lemma labelled_skip (l : Language) (s : ScanState) (skip : Nat) (c : Char) (r : Text) :
    labelled l s (skip + 1) (c :: r) = (c, .hidden) :: labelled l s skip r := rfl

lemma labelled_step (l : Language) (s : ScanState) (c : Char) (r : Text) :
    labelled l s 0 (c :: r) =
      (c, (l.scanStep s c r).1) :: labelled l (l.scanStep s c r).2.2 (l.scanStep s c r).2.1 r := rfl

section WellMarked

variable {l : Language} (hl : WellMarked l)

include hl in
lemma labelled_lineEnd (s : ScanState) (hm : ModeOf l s.mode) (skip : Nat) (t : Text)
    (hskip : '\n' ∉ t.take skip) :
    ∀ x ∈ labelled l s skip t, x.2 = .lineEnd ↔ x.1 = '\n' := by
  induction t generalizing s skip with
  | nil => simp [labelled]
  | cons c r ih =>
    cases skip with
    | succ skip =>
      rw [List.take_succ_cons, List.mem_cons, not_or] at hskip
      rw [labelled_skip]
      intro x hx
      rcases List.mem_cons.mp hx with rfl | hx
      · simp [Ne.symm hskip.1]
      · exact ih s hm skip hskip.2 x hx
    | zero =>
      have hmove := scanStep_move l s c r
      rw [labelled_step]
      intro x hx
      rcases List.mem_cons.mp hx with rfl | hx
      · exact hmove.part_eq_lineEnd
      · exact ih _ (hmove.modeOf hm) _ (hmove.lineEnd_not_mem_take hl hm) x hx

end WellMarked

lemma charsOf_cons (part : Part) (x : Char × Part) (w : List (Char × Part)) :
    charsOf part (x :: w) = (if x.2 = part then [x.1] else []) ++ charsOf part w := by
  unfold charsOf
  by_cases h : x.2 = part
  · simp [h]
  · simp [h]

lemma charsOf_labelledLines_cons (part : Part) (c : Char) {q : Part} (hq : q ≠ .lineEnd)
    (w : List (Char × Part)) :
    (labelledLines ((c, q) :: w)).map (charsOf part) =
      ((labelledLines w).map (charsOf part)).modifyHead
        ((if q = part then [c] else []) ++ ·) := by
  rw [labelledLines_cons c hq]
  obtain ⟨x, xs, hx⟩ := List.exists_cons_of_ne_nil (labelledLines_ne_nil w)
  rw [hx]
  simp [charsOf_cons]

namespace Scanner

variable {l : Language} (hl : WellMarked l)

/-- What the scanner has at the end: the lines it had, and what it had of a line before the lines to
come. -/
def ending (lines : List Text) (current : Text) (rest : List Text) : List Text :=
  lines ++ rest.modifyHead (current ++ ·)

lemma ending_lineEnd (lines : List Text) (current : Text) (rest : List Text) (h : rest ≠ []) :
    ending lines current ([] :: rest) = ending (lines ++ [current]) [] rest := by
  obtain ⟨x, xs, rfl⟩ := List.exists_cons_of_ne_nil h
  simp [ending]

lemma ending_cons (lines : List Text) (current y : Text) (rest : List Text) :
    ending lines current (rest.modifyHead (y ++ ·)) = ending lines (current ++ y) rest := by
  cases rest <;> simp [ending]

include hl in
/-- The scanner collects what the labels of the scan single out on each line. -/
lemma run_eq_labelled (a : Scanner) (hm : ModeOf l a.mode) (skip : Nat) (t : Text) :
    (run l a skip t).allCode =
        ending a.codeLines a.code
          ((labelledLines (labelled l a.state skip t)).map (charsOf .code)) ∧
      (run l a skip t).allComments =
        ending a.commentLines a.comment
          ((labelledLines (labelled l a.state skip t)).map (charsOf .comment)) := by
  induction t generalizing a skip with
  | nil => simp [run, allCode, allComments, ending, labelled, labelledLines, charsOf]
  | cons c r ih =>
    cases skip with
    | succ skip =>
      rw [run, labelled_skip, charsOf_labelledLines_cons _ c (by decide),
        charsOf_labelledLines_cons _ c (by decide), ending_cons, ending_cons]
      simpa using ih a hm skip
    | zero =>
      have ih := ih (a.move l c r).1 (move_modeOf a hm c r) (a.move l c r).2
      rw [move_state hl a hm] at ih
      rw [run, labelled_step]
      have hmove : a.move l c r = ({ a.put c (l.scanStep a.state c r).1 with
          mode := (l.scanStep a.state c r).2.2.mode }, (l.scanStep a.state c r).2.1) := rfl
      rw [hmove] at ih ⊢
      refine ⟨ih.1.trans ?_, ih.2.trans ?_⟩
      all_goals
        cases (l.scanStep a.state c r).1 with
        | lineEnd =>
          rw [labelledLines_lineEnd, List.map_cons]
          exact (ending_lineEnd _ _ _ (by simp [labelledLines_ne_nil])).symm
        | code | comment | hidden =>
          rw [charsOf_labelledLines_cons _ c (by decide), ending_cons]
          simp [put]

end Scanner

end SourceGrade.Proofs
