import SourceGrade.Declaration.Find
import SourceGrade.Language.Table
import SourceGrade.Proofs.BraceTokens
import SourceGrade.Proofs.MatchExtent

/-!
# The first words of lines

The first word of a line stops before a dollar sign, its leading word goes on over it. The two are
the same word when the leading word holds no dollar sign. A line that declares a function up to
`end` begins with `def`.
-/

namespace SourceGrade.Proofs

open Indentation Extent Pattern

/-! ### First words -/

lemma leadingWord_cons (c : Char) (r : Text) :
    leadingWord (c :: r) =
      if isIdentifierStart c then c :: r.takeWhile isIdentifierChar else [] := by
  have hrun : identifier.run (.ofText (c :: r)) some =
      if isIdentifierStart c then
        (Pattern.many (.one isIdentifierChar)).run ⟨[c], r, 1, []⟩ some
      else none := rfl
  rw [leadingWord, matchStart, matchAt, hrun, run_many_one_greedy (Option.isSome_some)]
  by_cases hc : isIdentifierStart c = true
  · rw [if_pos hc, if_pos hc]
    have hall : ((r.takeWhile isIdentifierChar).reverse ++ [c]).length ≤
        1 + (r.takeWhile isIdentifierChar).length := by
      rw [List.length_append, List.length_reverse, List.length_singleton, Nat.add_comm]
    simp [Place.ofText, Place.pass, List.take_of_length_le hall]
  · rw [if_neg hc, if_neg hc]
    rfl

lemma takeWhile_isIdentifierChar {t : Text} (h : '$' ∉ t.takeWhile isIdentifierChar) :
    t.takeWhile isIdentifierChar = t.takeWhile Text.isWordChar := by
  induction t with
  | nil => rfl
  | cons c r ih =>
    rw [List.takeWhile_cons, List.takeWhile_cons]
    rw [List.takeWhile_cons] at h
    by_cases hc : isIdentifierChar c = true
    · rw [if_pos hc, List.mem_cons, not_or] at h
      have hword : Text.isWordChar c = true := by
        simpa [isIdentifierChar, Ne.symm h.1] using hc
      rw [if_pos hc, if_pos hword, ih h.2]
    · have hword : ¬Text.isWordChar c = true := fun hword => hc (by simp [isIdentifierChar, hword])
      rw [if_neg hc, if_neg hword]

lemma firstWord_of_leadingWord {t w : Text} (h : leadingWord t = w) (hw : '$' ∉ w) :
    firstWord t = w := by
  cases t with
  | nil => exact h
  | cons c r =>
    rw [leadingWord_cons] at h
    subst h
    rw [firstWord]
    by_cases hc : isIdentifierStart c = true
    · rw [if_pos hc, List.mem_cons, not_or] at hw
      have hname : isNameStart c = true := by
        simpa [isIdentifierStart, Ne.symm hw.1] using hc
      rw [if_pos hc, if_pos hname, takeWhile_isIdentifierChar hw.2]
    · have hname : ¬isNameStart c = true := fun hname => hc (by simp [isIdentifierStart, hname])
      rw [if_neg hc, if_neg hname]

lemma firstWord_cons {c : Char} (hc : isNameStart c = true) (r : Text) :
    firstWord (c :: r) = c :: r.takeWhile Text.isWordChar := if_pos hc

lemma firstWord_append_blanks (t : Text) {w : Text} (hw : ∀ c ∈ w, Text.isBlank c = true) :
    firstWord (t ++ w) = firstWord t := by
  cases w with
  | nil => rw [List.append_nil]
  | cons d w =>
    have hd := isWordChar_of_isBlank (hw d List.mem_cons_self)
    cases t with
    | nil =>
      have hname : ¬Pattern.isNameStart d = true := fun h => by
        rw [isWordChar_of_isNameStart h] at hd
        cases hd
      exact if_neg hname
    | cons c r =>
      rw [List.cons_append, firstWord, firstWord, takeWhile_append_cons hd]

lemma firstWord_stripRight (t : Text) : firstWord (Text.stripRight t) = firstWord t := by
  obtain ⟨w, ht, hw⟩ := stripRight_append_blanks t
  calc firstWord (Text.stripRight t) = firstWord (Text.stripRight t ++ w) :=
        (firstWord_append_blanks _ hw).symm
    _ = firstWord t := by rw [← ht]

lemma firstWord_declaration {shape : Pattern} (hshape : shape ∈ Language.ruby.functions)
    {code : Text} {m : Match} (hm : shape.search code = some m) :
    firstWord (Text.strip code) = ("def" : Text) := by
  obtain rfl := List.mem_singleton.mp hshape
  obtain ⟨s, hs, -, hmatch⟩ := exists_matchAt_of_search _ hm
  obtain ⟨e, he, -⟩ := Option.map_eq_some_iff.mp hmatch
  simp only [run_append, blanks1, many1] at he
  rw [Pattern.run] at he
  split at he
  case isFalse => cases he
  case isTrue hstart =>
    obtain ⟨u, r₁, hu, hblanks, he⟩ := run_many_one he
    obtain ⟨r₂, hdef, he⟩ := run_literal he
    obtain ⟨c, r₃, hc, hblank, -⟩ := run_one he
    obtain rfl : r₁ = ("def" : Text) ++ r₂ := hdef
    obtain rfl : r₂ = c :: r₃ := hc
    have hbefore : s.before = [] := List.length_eq_zero_iff.mp (hs.index_eq.symm.trans hstart)
    have hcode : code = u ++ (("def" : Text) ++ c :: r₃) := by
      rw [← hs.text_eq, hbefore, hu]
      rfl
    have hstrip : Text.stripLeft code = ("def" : Text) ++ c :: r₃ := by
      rw [hcode, Text.stripLeft, List.dropWhile_append_of_pos hblanks]
      exact List.dropWhile_cons_of_neg (by decide)
    rw [Text.strip, firstWord_stripRight, hstrip]
    have hword : ("ef" : Text).takeWhile Text.isWordChar = "ef" := by decide
    calc firstWord (("def" : Text) ++ c :: r₃)
        = 'd' :: (("ef" : Text) ++ c :: r₃).takeWhile Text.isWordChar :=
          firstWord_cons (by decide) _
      _ = "def" := by rw [takeWhile_append_cons (isWordChar_of_isBlank hblank), hword]; rfl

end SourceGrade.Proofs
