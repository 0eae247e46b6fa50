import SourceGrade.Analysis.Basic
import SourceGrade.Proofs.HazardLines
import SourceGrade.Proofs.SmellLines

/-!
# The issues of a source unit

Whatever the thresholds are, every issue of a text is made on one of its lines, and the number of
issues is at most quadratic in the length of the text.
-/

namespace SourceGrade.Proofs

open Inspection (Found)

/-! ### Block maps -/

lemma braces_stacks_length {keywords : List (Text × BlockKind)} {s : Braces.State}
    {codes : List Text} {found : List (List BlockKind)}
    (h : Braces.stacksFrom keywords s codes = .ok found) : found.length = codes.length := by
  induction codes generalizing s found with
  | nil =>
    obtain rfl := Except.ok.inj h
    rfl
  | cons code codes ih =>
    rw [Braces.stacksFrom] at h
    split at h
    · cases h
    · obtain ⟨rest, hrest, rfl⟩ := except_map_eq_ok h
      exact congrArg (· + 1) (ih hrest)

lemma indentation_stacks_length (keywords : List (Text × BlockKind))
    (around : List (Nat × BlockKind)) (ls : List SourceLine) :
    (Indentation.stacksFrom keywords around ls).length = ls.length := by
  induction ls generalizing around with
  | nil => rfl
  | cons l ls ih => exact congrArg (· + 1) (ih _)

lemma keywords_stacks_length (keywords : List (Text × BlockKind)) (stack : List BlockKind)
    (ls : List SourceLine) : (Keywords.stacksFrom keywords stack ls).length = ls.length := by
  induction ls generalizing stack with
  | nil => rfl
  | cons l ls ih =>
    rw [Keywords.stacksFrom]
    split <;> exact congrArg (· + 1) (ih _)

lemma blockMap_length {s : Source} {blocks : BlockMap} (h : BlockMap.ofSource s = .ok blocks) :
    blocks.lineBlocks.length = s.lines.length := by
  unfold BlockMap.ofSource at h
  split at h
  · obtain ⟨found, hfound, rfl⟩ := except_map_eq_ok h
    exact (braces_stacks_length hfound).trans (List.length_map _)
  · obtain rfl := Except.ok.inj h
    exact indentation_stacks_length _ _ _
  · obtain rfl := Except.ok.inj h
    exact keywords_stacks_length _ _ _

/-! ### Inspected texts -/

variable (l : Language) (text : Text)

lemma ofText_number {k : Nat} {line : SourceLine}
    (h : (Source.ofText l text).lines[k]? = some line) : line.number = k + 1 := by
  cases text with
  | nil => cases h
  | cons c r =>
    rw [ofText_lines l (c :: r) (by simp), List.getElem?_mapIdx] at h
    obtain ⟨w, -, rfl⟩ := Option.map_eq_some_iff.mp h
    rfl

/-- A source unit with its block map and its functions. -/
def inspection (s : Source) (blocks : BlockMap) : Inspection := ⟨s, blocks, s.functions⟩

variable {blocks : BlockMap}

lemma ofText_regular (h : BlockMap.ofSource (Source.ofText l text) = .ok blocks) :
    (inspection (Source.ofText l text) blocks).Regular where
  number_eq _ _ := ofText_number l text
  blocks_length := blockMap_length h
  startLine_pos f hf := by
    obtain ⟨⟨line, hline, hstart⟩, -⟩ := mem_functionsFrom hf
    obtain ⟨k, hk⟩ := List.mem_iff_getElem?.mp hline
    rw [hstart, ofText_number l text hk]
    exact Nat.succ_pos k

lemma ofText_within : (inspection (Source.ofText l text) blocks).Within (text.length + 1) where
  extent_le := extent_ofText l text
  functions_le := by
    have hlength := functionsFrom_length_le (Source.ofText l text).language
      (Source.ofText l text).lines
    exact hlength.trans ((length_le_extent _).trans (extent_ofText l text))
  parameters_le f hf := (mem_functionsFrom hf).2.trans (extent_ofText l text)
  pos := Nat.succ_pos _

variable {ι α : Type} [Limit ι] (t : Thresholds ι α)

lemma duplication_blocks_le (s : Source) :
    (match Duplication.ofWindow t.duplicationWindow t.duplicationMinChars s with
      | .ok found => found
      | .error _ => Duplication.nothing).blocks.length ≤ s.lines.length := by
  cases hfound : Duplication.ofWindow t.duplicationWindow t.duplicationMinChars s with
  | error e => exact Nat.zero_le _
  | ok found =>
    unfold Duplication.ofWindow at hfound
    split at hfound
    · obtain rfl := Except.ok.inj hfound
      exact ofSource_blocks_length_le _ _ s
    · dsimp only at hfound
      split at hfound
      · obtain rfl := Except.ok.inj hfound
        exact Nat.zero_le _
      · cases hfound
      · cases hfound

lemma findings_issuesOf [Scalar α] {i : Inspection} {n : Nat} (hi : i.Regular) (hn : i.Within n)
    {m : Measurements} (hdocumentation : m.documentation.undocumented.length ≤ 2 * n)
    (hduplication : m.duplication.blocks.length ≤ n) :
    Found i (17 * (n * (3 * n)))
      (Findings.issuesOf t i (.ofBlocks i.blocks i.functions) m) := by
  have hsmells := detectSmells_found hn hdocumentation hduplication t
  have hsum : 8 * (n * (3 * n)) + 9 * (n * (3 * n)) = 17 * (n * (3 * n)) := by omega
  unfold Findings.issuesOf
  rw [← hsum]
  split
  · next found hfound => exact (scanHazards_found hi hn hfound).append hsmells
  · exact (Found.nil _).append hsmells

/-- Every issue of a text is made on one of its lines, and the number of issues is at most quadratic
in the length of the text. -/
theorem ofSource_issues_found [Scalar α]
    (h : BlockMap.ofSource (Source.ofText l text) = .ok blocks) :
    Found (inspection (Source.ofText l text) blocks)
      (17 * ((text.length + 1) * (3 * (text.length + 1))))
      (Findings.ofSource t (Source.ofText l text) blocks).issues := by
  have hextent := (length_le_extent _).trans (extent_ofText l text)
  have hfunctions := functionsFrom_length_le (Source.ofText l text).language
    (Source.ofText l text).lines
  have hclasses := classes_length_le (Source.ofText l text)
  have hdocumentation := undocumented_length_le (Source.ofText l text)
    (Source.ofText l text).functions (Source.ofText l text).classes t.documentationLookback
  have hduplication := duplication_blocks_le t (Source.ofText l text)
  refine findings_issuesOf t (ofText_regular l text h) (ofText_within l text) ?_
    (hduplication.trans hextent)
  refine hdocumentation.trans ?_
  change (Source.ofText l text).functions.length ≤ _ at hfunctions
  omega

end SourceGrade.Proofs
