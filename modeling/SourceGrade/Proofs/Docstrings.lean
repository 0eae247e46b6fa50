import SourceGrade.Measure.Documentation
import SourceGrade.Proofs.LineCounts

/-!
# Texts at the head of bodies

The text that documents a function follows the line that ends its signature, with blank lines
between. Lines with code are not blank, so this text stands before a later function exactly if the
signature does.
-/

namespace SourceGrade

namespace Documentation

/-- The parentheses that some lines open less those that they close. -/
def parenBalance (ls : List SourceLine) : Int :=
  (ls.map fun l => (l.code.count '(' : Int) - l.code.count ')').sum

/-- Some lines end a signature: no parentheses are open after them, `balance` being open before
them, and a colon ends the last one. -/
def EndsSignature (balance : Int) (header : List SourceLine) : Prop :=
  balance + parenBalance header ≤ 0 ∧
    ∃ l ∈ header.getLast?, Text.endsWith ":" l.stripped = true

/-- Some lines are a signature: they end it, and no lines before do. -/
structure Signature (balance : Int) (header : List SourceLine) : Prop where
  ends : EndsSignature balance header
  first : ∀ u, u <+: header → EndsSignature balance u → u = header

/-- Whether a line is a comment that opens a text. -/
def opensText (l : SourceLine) : Bool :=
  l.isCommentOnly && docstringMarks.any fun mark => Text.startsWith mark (Text.stripLeft l.raw)

end Documentation

open Documentation in
/-- The text at the head of the body of a declaration is on the line `d`, after the signature that
the line `closing` ends and some blank lines. -/
structure Source.Docstring (s : Source) (line : Nat) (opened : List SourceLine)
    (closing : SourceLine) (blanks : List SourceLine) (d : SourceLine) : Prop where
  lines : opened ++ closing :: (blanks ++ [d]) <+: s.span line (line + docstringReach : Nat)
  signature : Signature 0 (opened ++ [closing])
  blank : ∀ l ∈ blanks, l.isBlank = true
  opens : opensText d = true

/-- The line on which the parentheses of a declaration are closed, as its extent reads it. -/
def Source.headerEnd? (s : Source) (line : Nat) : Option SourceLine :=
  match s.lines.drop (line - 1) with
  | [] => none
  | d :: following => some (Extent.signature 0 d (d :: following)).1

namespace Proofs

open Documentation

/-! ### Signatures -/

lemma parenBalance_cons (l : SourceLine) (ls : List SourceLine) :
    parenBalance (l :: ls) = (l.code.count '(' : Int) - l.code.count ')' + parenBalance ls := by
  rw [parenBalance, List.map_cons, List.sum_cons]
  rfl

lemma parenBalance_singleton (l : SourceLine) :
    parenBalance [l] = (l.code.count '(' : Int) - l.code.count ')' := by
  rw [parenBalance_cons]
  exact add_zero _

variable {balance : Int} {l d : SourceLine} {ls header blanks : List SourceLine}

lemma not_endsSignature_nil : ¬EndsSignature balance [] := by
  rintro ⟨-, l, hl, -⟩
  cases hl

lemma endsSignature_singleton : EndsSignature balance [l] ↔
    balance + l.code.count '(' - l.code.count ')' ≤ 0 ∧ Text.endsWith ":" l.stripped = true := by
  rw [EndsSignature, parenBalance_singleton, ← add_sub_assoc]
  simp

lemma endsSignature_cons (hne : ls ≠ []) : EndsSignature balance (l :: ls) ↔
    EndsSignature (balance + l.code.count '(' - l.code.count ')') ls := by
  obtain ⟨x, xs, rfl⟩ := List.exists_cons_of_ne_nil hne
  rw [EndsSignature, EndsSignature, parenBalance_cons, List.getLast?_cons_cons,
    ← add_assoc, ← add_sub_assoc]

lemma signature_cons : Signature balance (l :: ls) ↔
    EndsSignature balance [l] ∧ ls = [] ∨ ¬EndsSignature balance [l] ∧
      Signature (balance + l.code.count '(' - l.code.count ')') ls := by
  constructor
  · intro h
    by_cases hl : EndsSignature balance [l]
    · exact .inl ⟨hl, (List.cons.inj (h.first [l] (by simp) hl)).2.symm⟩
    · have hne : ls ≠ [] := by
        rintro rfl
        exact hl h.ends
      refine .inr ⟨hl, (endsSignature_cons hne).mp h.ends, fun u hu hends => ?_⟩
      have hu' : u ≠ [] := by
        rintro rfl
        exact not_endsSignature_nil hends
      have heq := h.first (l :: u) ((List.prefix_cons_inj l).mpr hu)
        ((endsSignature_cons hu').mpr hends)
      exact (List.cons.inj heq).2
  · rintro (⟨hl, rfl⟩ | ⟨hl, h⟩)
    · refine ⟨hl, fun u hu hends => ?_⟩
      rcases List.prefix_cons_iff.mp hu with rfl | ⟨v, rfl, hv⟩
      · exact absurd hends not_endsSignature_nil
      · rw [List.prefix_nil.mp hv]
    · have hne : ls ≠ [] := by
        rintro rfl
        exact not_endsSignature_nil h.ends
      refine ⟨(endsSignature_cons hne).mpr h.ends, fun u hu hends => ?_⟩
      rcases List.prefix_cons_iff.mp hu with rfl | ⟨v, rfl, hv⟩
      · exact absurd hends not_endsSignature_nil
      · by_cases hv' : v = []
        · rw [hv'] at hends
          exact absurd hends hl
        · rw [h.first v hv ((endsSignature_cons hv').mp hends)]

/-! ### The search for a text -/

lemma not_isBlank_of_opensText (h : opensText d = true) : d.isBlank = false := by
  rw [opensText, Bool.and_eq_true] at h
  obtain ⟨mark, hmark, hstarts⟩ := List.any_eq_true.mp h.2
  have hne : Text.stripLeft d.raw ≠ [] := by
    intro hnil
    rw [hnil] at hstarts
    revert mark
    decide
  rw [Text.stripLeft, ne_eq, List.dropWhile_eq_nil_iff] at hne
  rw [SourceLine.isBlank, Text.allBlank, List.all_eq_false]
  simpa using hne

lemma opensDocstring_body : opensDocstring true balance ls = true ↔
    ∃ blanks d, blanks ++ [d] <+: ls ∧ (∀ l ∈ blanks, l.isBlank = true) ∧ opensText d = true := by
  induction ls with
  | nil => simp [opensDocstring]
  | cons l ls ih =>
    rw [opensDocstring]
    by_cases hblank : l.isBlank = true
    · rw [if_pos hblank, ih]
      constructor
      · rintro ⟨blanks, d, hls, hblanks, hd⟩
        exact ⟨l :: blanks, d, (List.prefix_cons_inj l).mpr hls,
          List.forall_mem_cons.mpr ⟨hblank, hblanks⟩, hd⟩
      · rintro ⟨blanks, d, hls, hblanks, hd⟩
        cases blanks with
        | nil =>
          obtain ⟨rfl, -⟩ := List.cons_prefix_cons.mp hls
          rw [not_isBlank_of_opensText hd] at hblank
          cases hblank
        | cons x blanks =>
          exact ⟨blanks, d, (List.cons_prefix_cons.mp hls).2,
            (List.forall_mem_cons.mp hblanks).2, hd⟩
    · rw [if_neg hblank]
      change opensText l = true ↔ _
      constructor
      · intro hl
        exact ⟨[], l, by simp, List.forall_mem_nil _, hl⟩
      · rintro ⟨blanks, d, hls, hblanks, hd⟩
        cases blanks with
        | nil =>
          obtain ⟨rfl, -⟩ := List.cons_prefix_cons.mp hls
          exact hd
        | cons x blanks =>
          obtain ⟨rfl, -⟩ := List.cons_prefix_cons.mp hls
          exact absurd (hblanks x List.mem_cons_self) hblank

lemma opensDocstring_signature : opensDocstring false balance ls = true ↔
    ∃ header rest, ls = header ++ rest ∧ Signature balance header ∧
      opensDocstring true 0 rest = true := by
  induction ls generalizing balance with
  | nil =>
    refine iff_of_false Bool.false_ne_true ?_
    rintro ⟨header, rest, hnil, hsignature, -⟩
    rw [(List.append_eq_nil_iff.mp hnil.symm).1] at hsignature
    exact not_endsSignature_nil hsignature.ends
  | cons l ls ih =>
    rw [opensDocstring]
    by_cases hl : EndsSignature balance [l]
    · obtain ⟨hle, hcolon⟩ := endsSignature_singleton.mp hl
      rw [decide_eq_true hle, hcolon, Bool.and_self]
      constructor
      · intro hopens
        exact ⟨[l], ls, rfl, signature_cons.mpr (.inl ⟨hl, rfl⟩),
          opensDocstring_body.mpr (opensDocstring_body.mp hopens)⟩
      · rintro ⟨header, rest, hls, hsignature, hopens⟩
        cases header with
        | nil => exact absurd hsignature.ends not_endsSignature_nil
        | cons x header =>
          obtain ⟨rfl, rfl⟩ := List.cons.inj hls
          obtain ⟨-, rfl⟩ | ⟨hnot, -⟩ := signature_cons.mp hsignature
          · exact opensDocstring_body.mpr (opensDocstring_body.mp hopens)
          · exact absurd hl hnot
    · have hgoes : (decide (balance + l.code.count '(' - l.code.count ')' ≤ 0) &&
          Text.endsWith ":" l.stripped) = false := by
        rw [endsSignature_singleton] at hl
        simpa using hl
      rw [hgoes, ih]
      constructor
      · rintro ⟨header, rest, rfl, hsignature, hopens⟩
        exact ⟨l :: header, rest, rfl, signature_cons.mpr (.inr ⟨hl, hsignature⟩), hopens⟩
      · rintro ⟨header, rest, hls, hsignature, hopens⟩
        cases header with
        | nil => exact absurd hsignature.ends not_endsSignature_nil
        | cons x header =>
          obtain ⟨rfl, rfl⟩ := List.cons.inj hls
          obtain ⟨hends, -⟩ | ⟨-, hsignature⟩ := signature_cons.mp hsignature
          · exact absurd hends hl
          · exact ⟨header, rest, rfl, hsignature, hopens⟩

/-- The search finds exactly the texts at the heads of bodies. -/
lemma hasDocstring_iff {s : Source} {line : Nat} : hasDocstring s line = true ↔
    ∃ opened closing blanks d, s.Docstring line opened closing blanks d := by
  rw [hasDocstring, opensDocstring_signature]
  constructor
  · rintro ⟨header, rest, hspan, hsignature, hopens⟩
    obtain ⟨blanks, d, hrest, hblanks, hd⟩ := opensDocstring_body.mp hopens
    rcases List.eq_nil_or_concat header with rfl | ⟨opened, closing, rfl⟩
    · exact absurd hsignature.ends not_endsSignature_nil
    · rw [List.concat_eq_append] at hspan hsignature
      refine ⟨opened, closing, blanks, d, ?_, hsignature, hblanks, hd⟩
      rw [hspan, ← List.singleton_append, ← List.append_assoc]
      exact (List.prefix_append_right_inj _).mpr hrest
  · rintro ⟨opened, closing, blanks, d, ⟨rest, hspan⟩, hsignature, hblanks, hd⟩
    refine ⟨opened ++ [closing], blanks ++ [d] ++ rest, ?_, hsignature, ?_⟩
    · rw [← hspan]
      simp
    · exact opensDocstring_body.mpr ⟨blanks, d, List.prefix_append _ _, hblanks, hd⟩

/-! ### Lines of a text -/

section

variable {s : Source} {line : Nat} {opened : List SourceLine} {closing : SourceLine}

lemma docstring_starts (h : s.Docstring line opened closing blanks d) :
    opened ++ closing :: (blanks ++ [d]) <+: s.lines.drop (line - 1) := by
  have hspan : s.span line (line + docstringReach : Nat) =
      (s.lines.take (line + docstringReach)).drop (line - 1) := by
    rw [Source.span, Int.toNat_natCast]
    congr 1
    omega
  have hlines := h.lines
  rw [hspan, List.drop_take] at hlines
  exact hlines.trans (List.take_prefix _ _)

lemma docstring_getElem? (h : s.Docstring line opened closing blanks d) {k : Nat}
    (hk : k < opened.length + 1 + (blanks ++ [d]).length) :
    (opened ++ closing :: (blanks ++ [d]))[k]? = s.lines[line - 1 + k]? := by
  obtain ⟨rest, hrest⟩ := docstring_starts h
  have hlt : k < (opened ++ closing :: (blanks ++ [d])).length := by
    rw [List.length_append, List.length_cons]
    omega
  rw [← List.getElem?_drop, ← hrest, List.getElem?_append_left hlt]

end

variable {lang : Language} {text : Text} {line : Nat} {opened : List SourceLine}
  {closing : SourceLine}

lemma docstring_numbers (hpos : 0 < line)
    (h : (Source.ofText lang text).Docstring line opened closing blanks d) :
    closing.number = line + opened.length ∧ d.number = closing.number + blanks.length + 1 := by
  have hclosing := docstring_getElem? h (k := opened.length) (by omega)
  have hd := docstring_getElem? h (k := opened.length + 1 + blanks.length) (by simp)
  rw [List.getElem?_append_right le_rfl, Nat.sub_self, List.getElem?_cons_zero] at hclosing
  rw [List.getElem?_append_right (by omega)] at hd
  have hindex : opened.length + 1 + blanks.length - opened.length = blanks.length + 1 := by omega
  rw [hindex, List.getElem?_cons_succ, List.getElem?_append_right le_rfl, Nat.sub_self,
    List.getElem?_cons_zero] at hd
  have hclosing := ofText_number lang text hclosing.symm
  have hd := ofText_number lang text hd.symm
  omega

lemma docstring_before_code (hpos : 0 < line)
    (h : (Source.ofText lang text).Docstring line opened closing blanks d) {m : Nat}
    {x : SourceLine} (hx : (Source.ofText lang text).lines[m]? = some x) (hcode : x.hasCode = true)
    (hclosing : closing.number ≤ m) : d.number ≤ m := by
  obtain ⟨hopened, hd⟩ := docstring_numbers hpos h
  by_contra hle
  have hmem : x ∈ blanks ++ [d] := by
    have hlt : m + 1 - line < opened.length + 1 + (blanks ++ [d]).length := by
      rw [List.length_append, List.length_singleton]
      omega
    have hline := docstring_getElem? h hlt
    have hindex : line - 1 + (m + 1 - line) = m := by omega
    have hsucc : m + 1 - line - opened.length = (m - line - opened.length) + 1 := by omega
    rw [hindex, List.getElem?_append_right (by omega), hsucc, List.getElem?_cons_succ] at hline
    exact List.mem_of_getElem? (hline.trans hx)
  rcases List.mem_append.mp hmem with hblank | hd
  · have hshown := ofText_not_blank lang text (List.mem_of_getElem? hx) (.inl hcode)
    rw [h.blank x hblank] at hshown
    cases hshown
  · obtain rfl := List.mem_singleton.mp hd
    have hopens := h.opens
    rw [opensText, SourceLine.isCommentOnly, hcode] at hopens
    cases hopens

/-! ### Headers of functions -/

/-- The extent of a function reads its header up to the first line after which no parentheses are
open. -/
lemma signature_split (balance : Int) (decl : SourceLine) {ls : List SourceLine} (hls : ls ≠ []) :
    ∃ u v, ls = u ++ (Extent.signature balance decl ls).1 :: v ∧
      (∀ w, w <+: u → w ≠ [] → 0 < balance + parenBalance w) ∧
      (v = [] ∨ balance + parenBalance (u ++ [(Extent.signature balance decl ls).1]) ≤ 0) := by
  induction ls generalizing balance decl with
  | nil => exact absurd rfl hls
  | cons l ls ih =>
    have hnil : ∀ w : List SourceLine, w <+: [] → w ≠ [] → 0 < balance + parenBalance w :=
      fun w hw hne => absurd (List.prefix_nil.mp hw) hne
    rw [Extent.signature]
    split
    · next hle =>
      refine ⟨[], ls, rfl, hnil, .inr ?_⟩
      change balance + parenBalance [l] ≤ 0
      rw [parenBalance_singleton]
      omega
    · next hgt =>
      by_cases hne : ls = []
      · subst hne
        exact ⟨[], [], rfl, hnil, .inl rfl⟩
      · obtain ⟨u, v, heq, hopen, hend⟩ :=
          ih (balance + l.code.count '(' - l.code.count ')') l hne
        generalize (Extent.signature _ l ls).1 = own at heq hend ⊢
        refine ⟨l :: u, v, by rw [heq]; rfl, fun w hw hw' => ?_, hend.imp_right fun hle => ?_⟩
        · obtain rfl | ⟨x, rfl, hx⟩ := List.prefix_cons_iff.mp hw
          · exact absurd rfl hw'
          · by_cases hx' : x = []
            · rw [hx', parenBalance_singleton]
              omega
            · have := hopen x hx hx'
              rw [parenBalance_cons]
              omega
        · rw [List.cons_append, parenBalance_cons]
          omega

lemma closing_eq_of_colon {s : Source} (h : s.Docstring line opened closing blanks d)
    {own : SourceLine} (hown : s.headerEnd? line = some own)
    (hcolon : Text.endsWith ":" own.stripped = true) : closing = own := by
  have hprefix : opened ++ [closing] <+: s.lines.drop (line - 1) :=
    List.IsPrefix.trans ⟨blanks ++ [d], by simp⟩ (docstring_starts h)
  rw [Source.headerEnd?] at hown
  generalize s.lines.drop (line - 1) = ls at hprefix hown
  cases ls with
  | nil => cases hown
  | cons decl following =>
    obtain ⟨u, v, heq, hopen, hend⟩ := signature_split 0 decl (List.cons_ne_nil decl following)
    obtain rfl := Option.some.inj hown
    generalize (Extent.signature 0 decl (decl :: following)).1 = own at heq hcolon hend
    rw [heq] at hprefix
    have hbalance := h.signature.ends.1
    -- within `u` parentheses are open, so the signature reaches the end of the header at least
    have hnot : ¬opened ++ [closing] <+: u := by
      intro hu
      have := hopen _ hu (by simp)
      omega
    have hown : u ++ [own] <+: opened ++ [closing] := by
      have hcut : u ++ [own] <+: u ++ own :: v := ⟨v, by simp⟩
      rcases List.prefix_or_prefix_of_prefix hcut hprefix with hle | hle
      · exact hle
      · rcases List.prefix_concat_iff.mp hle with heq | hu
        · exact heq ▸ List.prefix_rfl
        · exact absurd hu hnot
    -- and with its colon the end of the header is a signature already
    have hends : EndsSignature 0 (u ++ [own]) := by
      refine ⟨?_, own, by simp, hcolon⟩
      rcases hend with rfl | hle
      · rw [hown.eq_of_length_le hprefix.length_le]
        exact hbalance
      · exact hle
    obtain ⟨-, hlast⟩ := List.append_inj' (h.signature.first _ hown hends) rfl
    exact (List.singleton_inj.mp hlast).symm

/-- The text that documents a function stands before a later function exactly if the line that ends
its signature does. This line is the end of its header whenever the header ends with a colon. -/
theorem ofText_docstring_before (lang : Language) (text : Text) :
    let s := Source.ofText lang text
    ∀ f ∈ s.functions, ∀ g ∈ s.functions, f.startLine < g.startLine →
      (hasDocstring s f.startLine = true ↔
        ∃ opened closing blanks d, s.Docstring f.startLine opened closing blanks d) ∧
      ∀ opened closing blanks d, s.Docstring f.startLine opened closing blanks d →
        (d.number < g.startLine ↔ closing.number < g.startLine) ∧
          ∀ own, s.headerEnd? f.startLine = some own → Text.endsWith ":" own.stripped = true →
            closing = own := by
  intro s f hf g hg hlt
  refine ⟨hasDocstring_iff, fun opened closing blanks d h => ⟨?_, fun own => ?_⟩⟩
  · obtain ⟨hpos, -⟩ := ofText_function_bounds lang text hf
    obtain ⟨-, -, -, x, hx, hcode⟩ := ofText_function_bounds lang text hg
    obtain ⟨-, hd⟩ := docstring_numbers hpos h
    obtain ⟨m, hm⟩ : ∃ m, g.startLine = m + 1 := ⟨g.startLine - 1, by omega⟩
    rw [hm] at hx ⊢
    constructor
    · omega
    · intro hclosing
      have := docstring_before_code hpos h hx hcode (by omega)
      omega
  · exact closing_eq_of_colon h

/-- A function with a header of two lines and a text, and a function after it. -/
def documentedText : Text :=
  "def f(a,\n      b):\n\n    \"\"\"Adds.\"\"\"\n    return a + b\n\ndef g():\n    pass"

theorem ofText_docstring_before_twoLines :
    let s := Source.ofText Language.python documentedText
    ∃ f ∈ s.functions, ∃ g ∈ s.functions, f.startLine < g.startLine ∧
      ∃ opened closing blanks d, s.Docstring f.startLine opened closing blanks d ∧
        closing.number < g.startLine ∧ d.number < g.startLine := by
  intro s
  have hf : (⟨"f", 1, 5, ["a", "b"], []⟩ : FunctionSpan) ∈ s.functions := by decide +kernel
  have hg : (⟨"g", 7, 8, [], []⟩ : FunctionSpan) ∈ s.functions := by decide +kernel
  obtain ⟨hfound, hbefore⟩ :=
    ofText_docstring_before Language.python documentedText _ hf _ hg (by decide)
  obtain ⟨opened, closing, blanks, d, h⟩ := hfound.mp (by decide +kernel)
  obtain ⟨hiff, hown⟩ := hbefore opened closing blanks d h
  have hheader : ∃ own ∈ s.headerEnd? 1, Text.endsWith ":" own.stripped = true ∧
      own.number < 7 := by decide +kernel
  obtain ⟨own, hend, hcolon, hlt⟩ := hheader
  obtain rfl := hown own hend hcolon
  exact ⟨_, hf, _, hg, by decide, opened, closing, blanks, d, h, hlt, hiff.mpr hlt⟩

/-- A function with its body on the line of its header, and a documented one below. -/
def oneLineText : Text := "def f(x): return x\ndef g(y):\n    \"\"\"Doc.\"\"\"\n    return y"

/-- A function on one line is documented by the text of the next one. -/
theorem docstring_of_next :
    let s := Source.ofText Language.python oneLineText
    ¬∀ f ∈ s.functions, ∀ g ∈ s.functions, f.startLine < g.startLine →
      ∀ opened closing blanks d, s.Docstring f.startLine opened closing blanks d →
        d.number < g.startLine := by
  intro s hbefore
  have hf : (⟨"f", 1, 1, ["x"], []⟩ : FunctionSpan) ∈ s.functions := by decide +kernel
  have hg : (⟨"g", 2, 4, ["y"], []⟩ : FunctionSpan) ∈ s.functions := by decide +kernel
  have hfound : hasDocstring s 1 = true := by decide +kernel
  obtain ⟨opened, closing, blanks, d, h⟩ := hasDocstring_iff.mp hfound
  have hlt : d.number < 2 := hbefore _ hf _ hg (by decide) opened closing blanks d h
  obtain ⟨hclosing, hd⟩ := docstring_numbers Nat.one_pos h
  omega

end Proofs

end SourceGrade
