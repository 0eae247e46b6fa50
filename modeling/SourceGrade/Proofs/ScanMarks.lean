import Mathlib.Tactic.Common
import SourceGrade.Language.Table
import SourceGrade.Source.Scan

/-!
# Marks of comments and strings

No mark of a language of the table holds a line feed, and no delimiter of strings is blank. `Move`
lists what one step of the scanner can do, and its lemmas say what every move keeps: the label of a
line end is that of no other character, and a step never passes over a line end.
-/

namespace SourceGrade.Proofs

lemma dropPrefix?_eq_some (start t rest : Text) :
    Text.dropPrefix? start t = some rest ↔ t = start ++ rest := by
  induction start generalizing t with
  | nil => simp [Text.dropPrefix?]
  | cons p ps ih =>
    cases t with
    | nil => simp [Text.dropPrefix?]
    | cons c r =>
      by_cases h : p = c
      · subst h
        simp [Text.dropPrefix?, ih]
      · simp [Text.dropPrefix?, h, Ne.symm h]

lemma startsWith_iff (start t : Text) : Text.startsWith start t = true ↔ start <+: t := by
  unfold Text.startsWith
  rw [Option.isSome_iff_exists]
  constructor
  · rintro ⟨rest, h⟩
    exact ⟨rest, ((dropPrefix?_eq_some start t rest).mp h).symm⟩
  · rintro ⟨rest, h⟩
    exact ⟨rest, (dropPrefix?_eq_some start t rest).mpr h.symm⟩

lemma prefix_append_lineEnd (mark x y : Text) (h : '\n' ∉ mark) :
    mark <+: x ++ '\n' :: y ↔ mark <+: x := by
  induction mark generalizing x with
  | nil => simp
  | cons p ps ih =>
    obtain ⟨hp, hps⟩ := not_or.mp (mt List.mem_cons.mpr h)
    cases x with
    | nil => simp [List.cons_prefix_cons, Ne.symm hp]
    | cons c r =>
      rw [List.cons_append, List.cons_prefix_cons, List.cons_prefix_cons, ih r hps]

lemma startsWith_append_lineEnd (mark x y : Text) (h : '\n' ∉ mark) :
    Text.startsWith mark (x ++ '\n' :: y) = Text.startsWith mark x := by
  rw [Bool.eq_iff_iff, startsWith_iff, startsWith_iff, prefix_append_lineEnd mark x y h]

/-- The marks and delimiters of a language stay within a line and can be seen. -/
structure WellMarked (l : Language) : Prop where
  blocks : ∀ b ∈ l.blockComments, '\n' ∉ b.1 ∧ '\n' ∉ b.2
  lines : ∀ m ∈ l.lineComments, '\n' ∉ m
  directive : '\n' ∉ l.directiveMark
  delimiters : ∀ c ∈ l.stringDelimiters ++ l.multilineDelimiters, Text.isBlank c = false

instance (l : Language) : Decidable (WellMarked l) :=
  -- only the delimiters are tried, not all characters
  haveI : Decidable (∀ c ∈ l.stringDelimiters ++ l.multilineDelimiters, Text.isBlank c = false) :=
    List.decidableBAll _ _
  decidable_of_iff ((∀ b ∈ l.blockComments, '\n' ∉ b.1 ∧ '\n' ∉ b.2) ∧
    (∀ m ∈ l.lineComments, '\n' ∉ m) ∧ '\n' ∉ l.directiveMark ∧
    ∀ c ∈ l.stringDelimiters ++ l.multilineDelimiters, Text.isBlank c = false)
    ⟨fun h => ⟨h.1, h.2.1, h.2.2.1, h.2.2.2⟩,
      fun h => ⟨h.blocks, h.lines, h.directive, h.delimiters⟩⟩

lemma table_wellMarked : ∀ l ∈ Language.table, WellMarked l := by decide

lemma WellMarked.isBlank_delimiter {l : Language} (hl : WellMarked l) {c : Char}
    (h : l.isStringDelimiter c = true) : Text.isBlank c = false := by
  apply hl.delimiters
  simpa [Language.isStringDelimiter] using h

/-- A mode that the scanner of a language can be in. -/
def ModeOf (l : Language) : ScanMode → Prop
  | .code | .lineComment => True
  | .blockComment ending => ∃ b ∈ l.blockComments, b.2 = ending
  | .string d => l.isStringDelimiter d = true

/-- The moves of the scanner: what a step can do in a state before a character and the rest of the
text. -/
inductive Move (l : Language) (s : ScanState) (c : Char) (r : Text) :
    Part × Nat × ScanState → Prop where
  | lineEnd (hc : c = '\n') : Move l s c r (.lineEnd, 0, ⟨l.modeAfterLine s.mode, false⟩)
  | comment (hc : c ≠ '\n')
      (hm : s.mode = .lineComment ∨ ∃ ending, s.mode = .blockComment ending) :
      Move l s c r (.comment, 0, s)
  | leaveBlock (ending : Text) (hc : c ≠ '\n') (hm : s.mode = .blockComment ending)
      (hs : Text.startsWith ending (c :: r) = true) :
      Move l s c r (.hidden, ending.length - 1, { s with mode := .code })
  | escape (d : Char) (hc : c ≠ '\n') (hm : s.mode = .string d)
      (hr : r.head?.any (· != '\n') = true) : Move l s c r (.hidden, 1, s)
  | closeString (hc : c ≠ '\n') (hm : s.mode = .string c) : Move l s c r (.code, 0, ⟨.code, true⟩)
  | inString (d : Char) (hc : c ≠ '\n') (hm : s.mode = .string d) : Move l s c r (.hidden, 0, s)
  | openBlock (b : Text × Text) (hc : c ≠ '\n') (hm : s.mode = .code) (hb : b ∈ l.blockComments)
      (hs : Text.startsWith b.1 (c :: r) = true) :
      Move l s c r (.hidden, b.1.length - 1, { s with mode := .blockComment b.2 })
  | openLine (mark : Text) (hc : c ≠ '\n') (hm : s.mode = .code) (hk : mark ∈ l.lineComments)
      (hs : Text.startsWith mark (c :: r) = true) :
      Move l s c r (.hidden, mark.length - 1, { s with mode := .lineComment })
  | openString (hc : c ≠ '\n') (hm : s.mode = .code) (hd : l.isStringDelimiter c = true) :
      Move l s c r (.code, 0, ⟨.string c, true⟩)
  | code (hc : c ≠ '\n') (hm : s.mode = .code) :
      Move l s c r (.code, 0, { s with lineHasCode := s.lineHasCode || !Text.isBlank c })

lemma blockCommentAt?_eq_some {l : Language} {t : Text} {n : Nat} {ending : Text}
    (h : l.blockCommentAt? t = some (n, ending)) :
    ∃ b ∈ l.blockComments, Text.startsWith b.1 t = true ∧ b.1.length = n ∧ b.2 = ending := by
  obtain ⟨⟨opening, e⟩, hb, hf⟩ := List.exists_of_findSome?_eq_some h
  dsimp only at hf
  split at hf
  · next hs =>
    obtain ⟨hn, he⟩ := Prod.mk.inj (Option.some.inj hf)
    exact ⟨(opening, e), hb, hs, hn, he⟩
  · cases hf

lemma lineCommentAt?_eq_some {l : Language} {flag : Bool} {t : Text} {n : Nat}
    (h : l.lineCommentAt? flag t = some n) :
    ∃ mark ∈ l.lineComments, Text.startsWith mark t = true ∧ mark.length = n := by
  obtain ⟨mark, hk, hf⟩ := List.exists_of_findSome?_eq_some h
  split at hf
  · next hs =>
    rw [Bool.and_eq_true] at hs
    exact ⟨mark, hk, hs.1, Option.some.inj hf⟩
  · cases hf

lemma scanStep_move (l : Language) (s : ScanState) (c : Char) (r : Text) :
    Move l s c r (l.scanStep s c r) := by
  unfold Language.scanStep
  by_cases hc : c = '\n'
  · rw [if_pos hc]
    exact .lineEnd hc
  rw [if_neg hc]
  obtain ⟨mode, flag⟩ := s
  cases mode with
  | lineComment => exact .comment hc (.inl rfl)
  | blockComment ending =>
    by_cases hs : Text.startsWith ending (c :: r) = true
    · simp only [hs, if_true]
      exact .leaveBlock ending hc rfl hs
    · simp only [hs, Bool.false_eq_true, if_false]
      exact .comment hc (.inr ⟨ending, rfl⟩)
  | string d =>
    dsimp only
    split
    · next h => exact .escape d hc rfl (Bool.and_eq_true_iff.mp h).2
    · split
      · next h =>
        subst h
        exact .closeString hc rfl
      · exact .inString d hc rfl
  | code =>
    dsimp only
    split
    · next hb =>
      obtain ⟨b, hm, hs, rfl, rfl⟩ := blockCommentAt?_eq_some hb
      exact .openBlock b hc rfl hm hs
    · split
      · next hk =>
        obtain ⟨mark, hm, hs, rfl⟩ := lineCommentAt?_eq_some hk
        exact .openLine mark hc rfl hm hs
      · split
        · next hd => exact .openString hc rfl hd
        · exact .code hc rfl

lemma not_mem_take_of_startsWith {mark : Text} {c : Char} {r : Text} (h : '\n' ∉ mark)
    (hs : Text.startsWith mark (c :: r) = true) : '\n' ∉ r.take (mark.length - 1) := by
  obtain ⟨rest, hrest⟩ := (startsWith_iff mark (c :: r)).mp hs
  cases mark with
  | nil => simp
  | cons p ps =>
    rw [List.cons_append] at hrest
    obtain ⟨-, rfl⟩ := List.cons.inj hrest
    have htake : (ps ++ rest).take ((p :: ps).length - 1) = ps := by simp
    rw [htake]
    exact fun hmem => h (List.mem_cons_of_mem p hmem)

namespace Move

variable {l : Language} {s : ScanState} {c : Char} {r : Text} {part : Part} {skip : Nat}
  {s' : ScanState}

lemma part_eq_lineEnd (h : Move l s c r (part, skip, s')) : part = .lineEnd ↔ c = '\n' := by
  cases h <;> simp_all

lemma lineEnd_not_mem_take (hl : WellMarked l) (hm : ModeOf l s.mode)
    (h : Move l s c r (part, skip, s')) : '\n' ∉ r.take skip := by
  cases h with
  | leaveBlock ending _ hmode hs =>
    rw [hmode] at hm
    obtain ⟨b, hb, rfl⟩ := hm
    exact not_mem_take_of_startsWith (hl.blocks b hb).2 hs
  | escape d _ _ hr =>
    cases r with
    | nil => simp
    | cons d r => simpa using Ne.symm (by simpa using hr : d ≠ '\n')
  | openBlock b _ _ hb hs => exact not_mem_take_of_startsWith (hl.blocks b hb).1 hs
  | openLine mark _ _ hk hs => exact not_mem_take_of_startsWith (hl.lines mark hk) hs
  | _ => simp

lemma modeOf (h : Move l s c r (part, skip, s')) (hm : ModeOf l s.mode) : ModeOf l s'.mode := by
  cases h with
  | lineEnd =>
    obtain ⟨mode, flag⟩ := s
    cases mode with
    | string d =>
      simp only [Language.modeAfterLine]
      split
      · exact hm
      · trivial
    | _ => exact hm
  | openBlock b _ _ hb => exact ⟨b, hb, rfl⟩
  | openString _ _ hd => exact hd
  | leaveBlock => trivial
  | openLine => trivial
  | closeString => trivial
  | code => exact hm
  | comment => exact hm
  | escape => exact hm
  | inString => exact hm

end Move

end SourceGrade.Proofs
