import SourceGrade.Proofs.FunctionLines
import SourceGrade.Proofs.NearestDoubles
import SourceGrade.Proofs.StrippedTexts

/-!
# The counts of lines

What stands in the code or in the comment of a line stands on the line, so that lines with code and
lines with a comment are not blank. The share of lines with a comment is therefore a share, and no
function is longer than the source unit.
-/

namespace SourceGrade.Proofs

/-! ### Blank lines -/

lemma mem_raw_of_mem_charsOf {part : Part} {w : List (Char × Part)} {c : Char}
    (hc : c ∈ charsOf part w) : c ∈ w.map (·.1) := by
  obtain ⟨x, hx, rfl⟩ := List.mem_map.mp hc
  exact List.mem_map_of_mem (List.mem_of_mem_filter hx)

lemma not_isBlank_of_mem {l : SourceLine} {c : Char} (hc : c ∈ l.raw)
    (hblank : Text.isBlank c = false) : l.isBlank = false := by
  rw [SourceLine.isBlank, Text.allBlank, List.all_eq_false]
  exact ⟨c, hc, by simp [hblank]⟩

lemma ofLabelled_not_blank_of_code {n : Nat} {w : List (Char × Part)}
    (h : (SourceLine.ofLabelled n w).hasCode = true) :
    (SourceLine.ofLabelled n w).isBlank = false := by
  rw [SourceLine.hasCode, Text.allBlank, Bool.not_eq_true', List.all_eq_false] at h
  obtain ⟨c, hc, hblank⟩ := h
  apply not_isBlank_of_mem (mem_raw_of_mem_charsOf (mem_of_mem_stripRight hc))
  simpa using hblank

lemma ofLabelled_not_blank_of_comment {n : Nat} {w : List (Char × Part)}
    (h : (SourceLine.ofLabelled n w).hasComment = true) :
    (SourceLine.ofLabelled n w).isBlank = false := by
  have hne : Text.strip (charsOf .comment w) ≠ [] := by
    simpa [SourceLine.hasComment, SourceLine.ofLabelled] using h
  obtain ⟨c, hc, hblank⟩ := exists_of_strip_ne_nil hne
  exact not_isBlank_of_mem (mem_raw_of_mem_charsOf hc) hblank

lemma ofText_line (l : Language) (t : Text) {line : SourceLine}
    (h : line ∈ (Source.ofText l t).lines) : ∃ n w, line = SourceLine.ofLabelled n w := by
  cases t with
  | nil => cases h
  | cons c r =>
    rw [ofText_lines l (c :: r) (by simp)] at h
    obtain ⟨k, hk, rfl⟩ := List.mem_mapIdx.mp h
    exact ⟨_, _, rfl⟩

lemma ofText_not_blank (l : Language) (t : Text) {line : SourceLine}
    (h : line ∈ (Source.ofText l t).lines)
    (hshown : line.hasCode = true ∨ line.hasComment = true) : line.isBlank = false := by
  obtain ⟨n, w, rfl⟩ := ofText_line l t h
  rcases hshown with hcode | hcomment
  · exact ofLabelled_not_blank_of_code hcode
  · exact ofLabelled_not_blank_of_comment hcomment

/-! ### Sizes -/

lemma countP_le_nonBlank (l : Language) (t : Text) {p : SourceLine → Bool}
    (hp : ∀ line, p line = true → line.hasCode = true ∨ line.hasComment = true) :
    (Source.ofText l t).lines.countP p ≤ (Source.ofText l t).lines.countP (!·.isBlank) := by
  apply List.countP_mono_left
  intro line hline hshown
  rw [ofText_not_blank l t hline (hp line hshown)]
  rfl

lemma foldl_max_le {β : Type} {g : β → Nat} {n : Nat} {xs : List β} (hxs : ∀ x ∈ xs, g x ≤ n)
    {first : Nat} (hfirst : first ≤ n) :
    xs.foldl (fun longest x => max longest (g x)) first ≤ n := by
  induction xs generalizing first with
  | nil => exact hfirst
  | cons x xs ih =>
    obtain ⟨hx, hxs⟩ := List.forall_mem_cons.mp hxs
    exact ih hxs (Nat.max_le.mpr ⟨hfirst, hx⟩)

lemma maxFunctionLength_le {size : Size} {n : Nat} (hcode : size.linesOfCode ≤ n)
    (hfunctions : ∀ f ∈ size.functions, f.length ≤ n) : size.maxFunctionLength ≤ n := by
  unfold Size.maxFunctionLength
  cases hf : size.functions with
  | nil => exact hcode
  | cons f fs =>
    rw [hf] at hfunctions
    obtain ⟨hfirst, hrest⟩ := List.forall_mem_cons.mp hfunctions
    exact foldl_max_le hrest hfirst

lemma commentRatio_isShare {size : Size} (h : size.commentLines ≤ size.nonBlankLines) :
    Scalar.IsShare (size.commentRatio : Amount) := by
  unfold Size.commentRatio
  by_cases hblank : size.nonBlankLines = 0
  · rw [if_pos hblank]
    exact isShare_ofRatio Nat.one_pos (Nat.zero_le 1)
  · rw [if_neg hblank]
    exact isShare_ofRatio (Nat.pos_of_ne_zero hblank) h

/-- The functions of a text begin on different lines of code, in order, and end on that line or on
a later one. Lines with code and lines with a comment are not blank, the share of lines with a
comment lies between 0 and 1, and no function is longer than the text. -/
theorem ofText_functions_and_sizes (l : Language) (t : Text) :
    let s := Source.ofText l t
    let size := Size.ofSource s
    s.functions.Pairwise (·.startLine < ·.startLine) ∧
      (∀ f ∈ s.functions, 1 ≤ f.startLine ∧ f.startLine ≤ f.endLine ∧ f.endLine ≤ s.lineCount ∧
        ∃ d, s.line? f.startLine = some d ∧ d.hasCode = true) ∧
      size.linesOfCode ≤ size.nonBlankLines ∧ size.nonBlankLines ≤ size.totalLines ∧
      size.commentLines ≤ size.nonBlankLines ∧ Scalar.IsShare (size.commentRatio : Amount) ∧
      size.maxFunctionLength ≤ size.totalLines := by
  intro s size
  have hfunctions : ∀ f ∈ s.functions, 1 ≤ f.startLine ∧ f.startLine ≤ f.endLine ∧
      f.endLine ≤ s.lineCount ∧ ∃ d, s.line? f.startLine = some d ∧ d.hasCode = true :=
    fun f hf => ofText_function_bounds l t hf
  have hcode : size.linesOfCode ≤ size.nonBlankLines :=
    countP_le_nonBlank l t fun line => .inl
  have hnonBlank : size.nonBlankLines ≤ size.totalLines := List.countP_le_length
  have hcomment : size.commentLines ≤ size.nonBlankLines :=
    countP_le_nonBlank l t fun line => .inr
  have hlength : ∀ f ∈ size.functions, f.length ≤ size.totalLines := by
    intro f hf
    obtain ⟨hpos, -, hlast, -⟩ := hfunctions f hf
    change f.endLine + 1 - f.startLine ≤ s.lineCount
    omega
  exact ⟨functionsFrom_pairwise s.language (ofText_pairwise l t), hfunctions, hcode, hnonBlank,
    hcomment, commentRatio_isShare hcomment, maxFunctionLength_le (hcode.trans hnonBlank) hlength⟩

end SourceGrade.Proofs
