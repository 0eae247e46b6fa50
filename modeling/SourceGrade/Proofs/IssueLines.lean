import SourceGrade.Hazard.Evidence
import SourceGrade.Proofs.SourceExtent

/-!
# Issues on lines

The checks report issues on lines of the inspected unit. How many they report is bounded by what
they look at, since each of their steps leaves out items or makes one issue of each.
-/

namespace SourceGrade

/-- Where an issue is and what it says. -/
def Issue.report (x : Issue) : Option Int × Text := (x.line?, x.description)

namespace Inspection

/-- An issue that is made on a line of the unit. -/
def Reports (i : Inspection) (issue : Issue) : Prop :=
  ∃ category severity description rule, ∃ l ∈ i.source.lines,
    issue = i.issueAt category severity description l rule

/-- Issues on lines of the unit, at most `n` of them. -/
structure Found (i : Inspection) (n : Nat) (issues : List Issue) : Prop where
  length_le : issues.length ≤ n
  reports : ∀ issue ∈ issues, i.Reports issue

/-- The lines of a regular unit are numbered from 1, its block map has an entry for each of them,
and its functions begin on them. -/
structure Regular (i : Inspection) : Prop where
  number_eq : ∀ k l, i.source.lines[k]? = some l → l.number = k + 1
  blocks_length : i.blocks.lineBlocks.length = i.source.lines.length
  startLine_pos : ∀ f ∈ i.functions, 0 < f.startLine

/-- A unit with no more than `n` characters of code, functions, and parameters of a function. -/
structure Within (i : Inspection) (n : Nat) : Prop where
  extent_le : Proofs.extent i.source.lines ≤ n
  functions_le : i.functions.length ≤ n
  parameters_le : ∀ f ∈ i.functions, f.nullableParameters.length ≤ n
  pos : 0 < n

/-! ### Lists of issues -/

namespace Found

variable {i : Inspection}

lemma nil (n : Nat) : Found i n [] := ⟨Nat.zero_le n, by simp⟩

lemma mono {m n : Nat} {issues : List Issue} (h : Found i m issues) (hmn : m ≤ n) :
    Found i n issues :=
  ⟨h.length_le.trans hmn, h.reports⟩

lemma append {m n : Nat} {issues issues' : List Issue} (h : Found i m issues)
    (h' : Found i n issues') : Found i (m + n) (issues ++ issues') := by
  constructor
  · rw [List.length_append]
    exact Nat.add_le_add h.length_le h'.length_le
  · exact List.forall_mem_append.mpr ⟨h.reports, h'.reports⟩

lemma singleton {issue : Issue} (h : i.Reports issue) : Found i 1 [issue] :=
  ⟨le_rfl, List.forall_mem_singleton.mpr h⟩

lemma cons {n : Nat} {issues issues' : List Issue} (h : Found i 1 issues)
    (h' : Found i n issues') : Found i (n + 1) (issues ++ issues') :=
  (h.append h').mono (Nat.add_comm 1 n).le

variable {β : Type} {bs : List β}

lemma filterMap {f : β → Option Issue} (h : ∀ b ∈ bs, ∀ issue, f b = some issue → i.Reports issue) :
    Found i bs.length (bs.filterMap f) := by
  refine ⟨List.length_filterMap_le f bs, fun issue hissue => ?_⟩
  obtain ⟨b, hb, hf⟩ := List.mem_filterMap.mp hissue
  exact h b hb issue hf

lemma map {f : β → Issue} (h : ∀ b ∈ bs, i.Reports (f b)) : Found i bs.length (bs.map f) :=
  ⟨(List.length_map f).le, List.forall_mem_map.mpr h⟩

lemma toList {o : Option Issue} (h : ∀ issue, o = some issue → i.Reports issue) :
    Found i 1 o.toList :=
  ⟨Option.length_toList_le, fun issue hissue => h issue (Option.mem_toList.mp hissue)⟩

lemma flatMap {n : Nat} {f : β → List Issue} (h : ∀ b ∈ bs, Found i n (f b)) :
    Found i (bs.length * n) (bs.flatMap f) := by
  induction bs with
  | nil => exact nil _
  | cons b bs ih =>
    obtain ⟨hb, hbs⟩ := List.forall_mem_cons.mp h
    rw [List.flatMap_cons, List.length_cons, Nat.succ_mul, Nat.add_comm]
    exact hb.append (ih hbs)

end Found

end Inspection

namespace Proofs

variable {i : Inspection}

/-! ### What is kept -/

lemma except_map_eq_ok {ε β γ : Type} {x : Except ε β} {f : β → γ} {c : γ}
    (h : x.map f = .ok c) : ∃ b, x = .ok b ∧ f b = c := by
  cases x with
  | error e => cases h
  | ok b => exact ⟨b, rfl, Except.ok.inj h⟩

lemma codeLines_sublist (i : Inspection) : i.codeLines.Sublist i.source.lines :=
  List.filter_sublist

lemma statements_sublist (i : Inspection) : i.statements.Sublist i.source.lines :=
  List.filter_sublist.trans (codeLines_sublist i)

lemma mem_lines_of_line? {s : Source} {k : Nat} {l : SourceLine} (h : s.line? k = some l) :
    l ∈ s.lines := by
  cases k with
  | zero => cases h
  | succ k => exact List.mem_of_getElem? h

lemma firstOfKey_sublist {κ β : Type} [BEq κ] (key : β → κ) (seen : List κ) (xs : List β) :
    (firstOfKey key seen xs).Sublist xs := by
  induction xs generalizing seen with
  | nil => exact List.Sublist.refl []
  | cons x xs ih =>
    rw [firstOfKey]
    split
    · exact (ih seen).cons x
    · exact (ih _).cons_cons x

lemma flatMap_length_le {β : Type} {f : SourceLine → List β} (ls : List SourceLine)
    (h : ∀ l, (f l).length ≤ l.code.length + 1) : (ls.flatMap f).length ≤ extent ls := by
  induction ls with
  | nil => exact le_rfl
  | cons l ls ih =>
    rw [List.flatMap_cons, List.length_append, extent_cons]
    exact Nat.add_le_add (h l) ih

lemma reports_issueAt {l : SourceLine} (hl : l ∈ i.source.lines) (category : Category)
    (severity : Severity) (description rule : Text) :
    i.Reports (i.issueAt category severity description l rule) :=
  ⟨category, severity, description, rule, l, hl, rfl⟩

lemma reports_line (hi : i.Regular) {line : Nat} (hpos : 0 < line)
    (hline : line ≤ i.source.lines.length) (category : Category) (severity : Severity)
    (description rule : Text) :
    i.Reports (.make category severity description (some line) rule (i.tags line)
      (((i.source.line? line).map (·.raw)).getD [])) := by
  cases line with
  | zero => exact absurd hpos (Nat.lt_irrefl 0)
  | succ k =>
    have hget : i.source.lines[k]? = some i.source.lines[k] := List.getElem?_eq_getElem hline
    have hraw : i.source.line? (k + 1) = some i.source.lines[k] := hget
    refine ⟨category, severity, description, rule, i.source.lines[k], List.getElem_mem hline, ?_⟩
    rw [Inspection.issueAt, hi.number_eq k _ hget, hraw]
    rfl

/-! ### Remediation -/

lemma remediation_le (category : Category) (severity : Severity) :
    remediation category severity ≤ 60 := by
  cases category <;> cases severity <;> decide

lemma remediationMinutes_le {issue : Issue} (h : i.Reports issue) :
    0 ≤ issue.remediationMinutes ∧ issue.remediationMinutes ≤ 60 := by
  obtain ⟨category, severity, description, rule, l, -, rfl⟩ := h
  exact ⟨Int.natCast_nonneg _, Int.ofNat_le.mpr (remediation_le category severity)⟩

end Proofs

end SourceGrade
