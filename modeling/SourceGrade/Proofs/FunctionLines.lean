import SourceGrade.Measure.Size
import SourceGrade.Proofs.MatchingEnds

/-!
# The lines of functions

A function is declared on a line of code by the first shape that fits there, and it ends on that
line or on a later one. The functions of a source unit begin on different lines, in order.
-/

namespace SourceGrade

/-- A function of a source unit with the line that declares it, the lines after that line, and the
match of its header. -/
structure Source.Declares (s : Source) (f : FunctionSpan) (d : SourceLine)
    (following : List SourceLine) (m : Match) : Prop where
  lines : ∃ before, s.lines = before ++ d :: following
  hasCode : d.hasCode = true
  header : ∃ earlier shape later, s.language.functions = earlier ++ shape :: later ∧
    (∀ p ∈ earlier, Source.functionOf? s.language d following p = none) ∧
    Source.functionOf? s.language d following shape = some f ∧ shape.search d.code = some m

namespace Proofs

open Extent

/-! ### The last line of a function -/

lemma bracedFrom_mem {b : Body} {index last e : Nat} {ls : List (Nat × Text)}
    (h : bracedFrom b index last ls = some e) : e = last ∨ ∃ x ∈ ls, x.1 = e := by
  induction ls generalizing b index last with
  | nil =>
    rw [bracedFrom] at h
    split at h
    · exact .inl (Option.some.inj h).symm
    · cases h
  | cons x ls ih =>
    obtain ⟨number, code⟩ := x
    have hnext : ∀ b', bracedFrom b' (index + 1) number ls = some e →
        e = last ∨ ∃ x ∈ (number, code) :: ls, x.1 = e := by
      intro b' h
      rcases ih h with rfl | ⟨x, hx, rfl⟩
      · exact .inr ⟨_, List.mem_cons_self, rfl⟩
      · exact .inr ⟨x, List.mem_cons_of_mem _ hx, rfl⟩
    rw [bracedFrom] at h
    split at h
    · cases h
    · exact .inr ⟨_, List.mem_cons_self, Option.some.inj h⟩
    · split at h
      · cases h
      · exact hnext _ h

lemma braced?_mem {offset e : Nat} {d : SourceLine} {rest : List SourceLine}
    (h : braced? offset (d :: rest) = some e) : ∃ l ∈ d :: rest, l.number = e := by
  rcases bracedFrom_mem h with rfl | ⟨x, hx, rfl⟩
  · exact ⟨d, List.mem_cons_self, rfl⟩
  · rcases List.mem_cons.mp hx with rfl | hx
    · exact ⟨d, List.mem_cons_self, rfl⟩
    · obtain ⟨l, hl, rfl⟩ := List.mem_map.mp hx
      exact ⟨l, List.mem_cons_of_mem d hl, rfl⟩

lemma signature_mem (balance : Int) (d : SourceLine) (ls : List SourceLine) :
    ((signature balance d ls).1 = d ∨ (signature balance d ls).1 ∈ ls) ∧
      (signature balance d ls).2 ⊆ ls := by
  induction ls generalizing balance d with
  | nil => simp [signature]
  | cons l ls ih =>
    rw [signature]
    split
    · simp
    · obtain ⟨hheader, hbody⟩ := ih (balance + l.code.count '(' - l.code.count ')') l
      constructor
      · rcases hheader with heq | hmem
        · simp [heq]
        · simp [hmem]
      · exact fun x hx => List.mem_cons_of_mem l (hbody hx)

lemma indentedEnd_mem (indent last : Nat) (ls : List SourceLine) :
    indentedEnd indent last ls = last ∨ ∃ l ∈ ls, l.number = indentedEnd indent last ls := by
  induction ls generalizing last with
  | nil => exact .inl rfl
  | cons l ls ih =>
    rw [indentedEnd]
    split
    · simpa using (ih last).imp_right .inr
    · split
      · exact .inl rfl
      · right
        rcases ih l.number with heq | ⟨l', hl', heq⟩
        · exact ⟨l, List.mem_cons_self, heq.symm⟩
        · exact ⟨l', List.mem_cons_of_mem l hl', heq⟩

lemma indented?_mem {e : Nat} {d : SourceLine} {rest : List SourceLine}
    (h : indented? (d :: rest) = some e) : ∃ l ∈ d :: rest, l.number = e := by
  obtain ⟨hheader, hbody⟩ := signature_mem 0 d (d :: rest)
  have hmem : (signature 0 d (d :: rest)).1 ∈ d :: rest :=
    hheader.elim (fun heq => List.mem_cons.mpr (.inl heq)) id
  have hend := Option.some.inj h
  dsimp only at hend
  split at hend
  · rcases indentedEnd_mem d.indent (signature 0 d (d :: rest)).1.number
      (signature 0 d (d :: rest)).2 with heq | ⟨l, hl, heq⟩
    · exact ⟨_, hmem, heq.symm.trans hend⟩
    · exact ⟨l, hbody hl, heq.trans hend⟩
  · exact ⟨_, hmem, hend⟩

lemma keywordEnd_mem (depth last : Nat) (ls : List SourceLine) :
    keywordEnd depth last ls = last ∨ ∃ l ∈ ls, l.number = keywordEnd depth last ls := by
  induction ls generalizing depth last with
  | nil => exact .inl rfl
  | cons l ls ih =>
    right
    rw [keywordEnd_cons]
    split
    · exact ⟨l, List.mem_cons_self, rfl⟩
    · rcases ih (depthAfter depth l.stripped) l.number with heq | ⟨l', hl', heq⟩
      · exact ⟨l, List.mem_cons_self, heq.symm⟩
      · exact ⟨l', List.mem_cons_of_mem l hl', heq⟩

lemma keyword?_mem {e : Nat} {d : SourceLine} {rest : List SourceLine}
    (h : keyword? (d :: rest) = some e) : ∃ l ∈ d :: rest, l.number = e := by
  have hend := Option.some.inj h
  split at hend
  · exact ⟨d, List.mem_cons_self, hend⟩
  · rcases keywordEnd_mem 1 d.number rest with heq | ⟨l, hl, heq⟩
    · exact ⟨d, List.mem_cons_self, heq.symm.trans hend⟩
    · exact ⟨l, List.mem_cons_of_mem d hl, heq.trans hend⟩

lemma end?_mem {style : BlockStyle} {offset e : Nat} {d : SourceLine} {rest : List SourceLine}
    (h : end? style offset (d :: rest) = some e) : ∃ l ∈ d :: rest, l.number = e := by
  cases style with
  | braces => exact braced?_mem h
  | indentation => exact indented?_mem h
  | keywords => exact keyword?_mem h

/-! ### Declarations -/

lemma exists_declares {s : Source} {f : FunctionSpan} (hf : f ∈ s.functions) :
    ∃ d following m, s.Declares f d following m := by
  obtain ⟨before, d, rest, hlines, hcode, earlier, shape, later, hshapes, hearlier, hfunction⟩ :=
    exists_declaration hf
  obtain ⟨m, -, hm, -⟩ := functionOf?_cases hfunction
  exact ⟨d, rest, m, ⟨before, hlines⟩, hcode, earlier, shape, later, hshapes, hearlier, hfunction,
    hm⟩

variable {s : Source} {f : FunctionSpan} {d : SourceLine} {following : List SourceLine} {m : Match}

lemma declares_first {shape : Pattern} (hd : d ∈ s.lines.head?) (hcode : d.hasCode = true)
    (hshape : shape ∈ s.language.functions.head?) (hm : m ∈ shape.search d.code)
    (hfunction : Source.functionOf? s.language d s.lines.tail shape = some f) :
    s.Declares f d s.lines.tail m :=
  ⟨⟨[], (List.cons_head?_tail hd).symm⟩, hcode, [], shape, _,
    (List.cons_head?_tail hshape).symm, List.forall_mem_nil _, hfunction, hm⟩

lemma declares_eq (h : s.Declares f d following m) :
    ∃ last, Extent.end? s.language.blockStyle m.start (d :: following) = some last ∧
      f = ⟨m.textOf .name, d.number, last,
        Parameters.names s.language (parameterText d.code m following),
        Parameters.nullable s.language (parameterText d.code m following)⟩ := by
  obtain ⟨earlier, shape, later, -, -, hfunction, hm⟩ := h.header
  obtain ⟨m', last, hm', hlast, hf⟩ := functionOf?_cases hfunction
  obtain rfl := Option.some.inj (hm.symm.trans hm')
  exact ⟨last, hlast, hf⟩

lemma functionsFrom_pairwise (language : Language) {ls : List SourceLine}
    (hls : ls.Pairwise (·.number < ·.number)) :
    (Source.functionsFrom language ls).Pairwise (·.startLine < ·.startLine) := by
  induction ls with
  | nil => exact .nil
  | cons l ls ih =>
    obtain ⟨hfirst, hrest⟩ := List.pairwise_cons.mp hls
    rw [Source.functionsFrom, List.pairwise_append]
    refine ⟨?_, ih hrest, ?_⟩
    · split
      · cases language.functions.findSome? (Source.functionOf? language l ls) <;> simp
      · exact .nil
    · intro f hf g hg
      split at hf
      · rw [Option.mem_toList] at hf
        obtain ⟨shape, -, hfunction⟩ := List.exists_of_findSome?_eq_some hf
        obtain ⟨⟨l', hl', hstart⟩, -⟩ := mem_functionsFrom hg
        rw [(functionOf?_eq_some hfunction).1, hstart]
        exact hfirst l' hl'
      · cases hf

lemma ofText_pairwise (l : Language) (t : Text) :
    (Source.ofText l t).lines.Pairwise (·.number < ·.number) := by
  rw [List.pairwise_iff_getElem]
  intro i j hi hj hij
  rw [ofText_number l t (List.getElem?_eq_getElem hi),
    ofText_number l t (List.getElem?_eq_getElem hj)]
  omega

lemma ofText_function_bounds (l : Language) (t : Text) {f : FunctionSpan}
    (hf : f ∈ (Source.ofText l t).functions) :
    1 ≤ f.startLine ∧ f.startLine ≤ f.endLine ∧ f.endLine ≤ (Source.ofText l t).lineCount ∧
      ∃ d, (Source.ofText l t).line? f.startLine = some d ∧ d.hasCode = true := by
  obtain ⟨d, following, m, hdeclares⟩ := exists_declares hf
  obtain ⟨before, hlines⟩ := hdeclares.lines
  obtain ⟨last, hend, hf⟩ := declares_eq hdeclares
  have hstart : f.startLine = d.number := by rw [hf]
  have hlast : f.endLine = last := by rw [hf]
  have hnumber : ∀ i line, (d :: following)[i]? = some line →
      line.number = before.length + i + 1 := by
    intro i line hline
    apply ofText_number l t
    rw [hlines, List.getElem?_append_right (Nat.le_add_right _ _), Nat.add_sub_cancel_left]
    exact hline
  have hd : d.number = before.length + 1 := hnumber 0 d rfl
  have hcount : (Source.ofText l t).lineCount = before.length + following.length + 1 := by
    simp [Source.lineCount, hlines, Nat.add_assoc]
  obtain ⟨e, he, hnum⟩ := end?_mem hend
  obtain ⟨i, hi⟩ := List.mem_iff_getElem?.mp he
  have hlt : i < following.length + 1 := (List.getElem?_eq_some_iff.mp hi).1
  have hi := hnumber i e hi
  refine ⟨by omega, by omega, by omega, d, ?_, hdeclares.hasCode⟩
  rw [hstart, hd, Source.line?, hlines]
  simp

end Proofs

end SourceGrade
