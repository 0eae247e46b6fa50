import Mathlib.Data.List.Basic
import Mathlib.Data.List.TakeWhile
import SourceGrade.Blocks.OfSource

/-!
# Words that no name begins like

The search for blocks in braces reads code word by word, and it can read a word only when its first
letter, or the underscore before it, may begin a name. So it stops at code with a maximal run of
word characters whose first letter is of another script, and at no other code.
-/

namespace SourceGrade.Proofs

/-- A run of word characters in a code, with what is before and after it, that cannot be extended
on either side. -/
structure MaximalRun (code before run after : Text) : Prop where
  eq : code = before ++ (run ++ after)
  word : ∀ c ∈ run, Text.isWordChar c = true
  left : ∀ c ∈ before.getLast?, Text.isWordChar c = false
  right : ∀ c ∈ after.head?, Text.isWordChar c = false

/-- The first character of a run that is a letter or an underscore. -/
def firstLetter? (run : Text) : Option Char := run.find? fun c => Text.isLetter c || c == '_'

/-- Some maximal run of word characters has a first letter that may not begin a name. -/
def ForeignRun (code : Text) : Prop :=
  ∃ before run after, MaximalRun code before run after ∧
    ∃ c ∈ firstLetter? run, Pattern.isNameStart c = false

/-! ### Letters -/

lemma val_lt_of_isAsciiLetter {c : Char} (h : Text.isAsciiLetter c = true) : c.val < 128 := by
  simp only [Text.isAsciiLetter, Bool.or_eq_true, Bool.and_eq_true, decide_eq_true_eq,
    Char.le_def, UInt32.le_iff_toNat_le] at h
  rw [UInt32.lt_iff_toNat_lt]
  have hz : ('z' : Char).val.toNat = 122 := rfl
  have hZ : ('Z' : Char).val.toNat = 90 := rfl
  have h128 : (128 : UInt32).toNat = 128 := rfl
  omega

lemma isWordChar_of_isAsciiLetter {c : Char} (h : Text.isAsciiLetter c = true) :
    Text.isWordChar c = true := by
  simp [Text.isWordChar, val_lt_of_isAsciiLetter h, h]

lemma isWordChar_of_isLetter {c : Char} (h : Text.isLetter c = true) :
    Text.isWordChar c = true := by
  unfold Text.isLetter at h
  split at h
  · exact isWordChar_of_isAsciiLetter h
  · next hval => simp [Text.isWordChar, hval, h]

lemma isWordChar_of_isNameStart {c : Char} (h : Pattern.isNameStart c = true) :
    Text.isWordChar c = true := by
  rcases Bool.or_eq_true_iff.mp h with h | h
  · exact isWordChar_of_isAsciiLetter h
  · obtain rfl : c = '_' := by simpa using h
    decide

lemma isLetter_of_isNameStart {c : Char} (h : Pattern.isNameStart c = true) :
    (Text.isLetter c || c == '_') = true := by
  rcases Bool.or_eq_true_iff.mp h with h | h
  · simp [Text.isLetter, val_lt_of_isAsciiLetter h, h]
  · simp [h]

/-! ### Runs from character to character -/

lemma run_ne_nil {run : Text} {c : Char} (h : c ∈ firstLetter? run) : run ≠ [] := by
  rintro rfl
  simp [firstLetter?] at h

lemma foreignRun_nil : ¬ForeignRun [] := by
  rintro ⟨before, run, after, h, c, hc, -⟩
  exact run_ne_nil hc (List.append_eq_nil_iff.mp (List.append_eq_nil_iff.mp h.eq.symm).2).1

lemma mem_getLast?_cons {c d : Char} {t : Text} (h : d ∈ (c :: t).getLast?) :
    t = [] ∧ d = c ∨ d ∈ t.getLast? := by
  cases t with
  | nil => exact .inl ⟨rfl, by simpa [eq_comm] using h⟩
  | cons e t => exact .inr (by rwa [List.getLast?_cons_cons] at h)

lemma foreignRun_cons {c : Char} (hc : (Text.isLetter c || c == '_') = false) (r : Text) :
    ForeignRun (c :: r) ↔ ForeignRun r := by
  constructor
  · rintro ⟨before, run, after, h, x, hx, hname⟩
    cases before with
    | nil =>
      obtain ⟨d, run, rfl⟩ := List.exists_cons_of_ne_nil (run_ne_nil hx)
      obtain ⟨rfl, hr⟩ := List.cons.inj h.eq
      refine ⟨[], run, after, ⟨hr, fun e he => h.word e (List.mem_cons_of_mem c he), by simp,
        h.right⟩, x, ?_, hname⟩
      rwa [firstLetter?, List.find?_cons_of_neg (by simp [hc])] at hx
    | cons d before =>
      obtain ⟨rfl, hr⟩ := List.cons.inj h.eq
      refine ⟨before, run, after, ⟨hr, h.word, fun e he => h.left e ?_, h.right⟩, x, hx, hname⟩
      cases before with
      | nil => simp at he
      | cons f before => rwa [List.getLast?_cons_cons]
  · rintro ⟨before, run, after, h, x, hx, hname⟩
    by_cases hstart : before = [] ∧ Text.isWordChar c = true
    · -- The character extends the run to the left.
      obtain ⟨rfl, hword⟩ := hstart
      refine ⟨[], c :: run, after, ⟨congrArg (c :: ·) h.eq, ?_, by simp, h.right⟩, x, ?_, hname⟩
      · exact List.forall_mem_cons.mpr ⟨hword, h.word⟩
      · rwa [firstLetter?, List.find?_cons_of_neg (by simp [hc])]
    · refine ⟨c :: before, run, after, ⟨congrArg (c :: ·) h.eq, h.word, fun e he => ?_, h.right⟩,
        x, hx, hname⟩
      rcases mem_getLast?_cons he with ⟨hbefore, rfl⟩ | he
      · simpa [hbefore] using hstart
      · exact h.left e he

lemma dropWhile_getLast? {p : Char → Bool} {t : Text} (ht : t ≠ [])
    (h : ∀ c ∈ t.getLast?, p c = false) :
    t.dropWhile p ≠ [] ∧ (t.dropWhile p).getLast? = t.getLast? := by
  induction t with
  | nil => exact absurd rfl ht
  | cons c t ih =>
    by_cases hc : p c = true
    · have hne : t ≠ [] := by
        rintro rfl
        have hlast := h c (by simp)
        rw [hc] at hlast
        cases hlast
      obtain ⟨d, t', rfl⟩ := List.exists_cons_of_ne_nil hne
      rw [List.dropWhile_cons_of_pos hc, List.getLast?_cons_cons]
      exact ih hne (by rwa [List.getLast?_cons_cons] at h)
    · rw [List.dropWhile_cons_of_neg hc]
      exact ⟨ht, rfl⟩

lemma mem_head?_dropWhile {p : Char → Bool} {t : Text} {c : Char}
    (h : c ∈ (t.dropWhile p).head?) : p c = false := by
  have hnot := List.head?_dropWhile_not p t
  rw [Option.mem_def.mp h] at hnot
  exact hnot

lemma drop_length_takeWhile (p : Char → Bool) (t : Text) :
    t.drop (t.takeWhile p).length = t.dropWhile p := by
  induction t with
  | nil => rfl
  | cons c t ih =>
    by_cases hc : p c = true
    · rw [List.takeWhile_cons_of_pos hc, List.dropWhile_cons_of_pos hc, ← ih]
      rfl
    · rw [List.takeWhile_cons_of_neg hc, List.dropWhile_cons_of_neg hc]
      rfl

lemma foreignRun_name {c : Char} (hc : Pattern.isNameStart c = true) (r : Text) :
    ForeignRun (c :: r) ↔ ForeignRun (r.dropWhile Text.isWordChar) := by
  have hword := isWordChar_of_isNameStart hc
  constructor
  · rintro ⟨before, run, after, h, x, hx, hname⟩
    cases before with
    | nil =>
      -- The run would begin like a name.
      obtain ⟨d, run, rfl⟩ := List.exists_cons_of_ne_nil (run_ne_nil hx)
      obtain ⟨rfl, -⟩ := List.cons.inj h.eq
      have hfirst : firstLetter? (c :: run) = some c :=
        List.find?_cons_of_pos (isLetter_of_isNameStart hc)
      obtain rfl : c = x := Option.some.inj (hfirst.symm.trans hx)
      rw [hc] at hname
      cases hname
    | cons d before =>
      obtain ⟨rfl, rfl⟩ := List.cons.inj h.eq
      have hne : before ≠ [] := by
        rintro rfl
        have hlast := h.left c (by simp)
        rw [hword] at hlast
        cases hlast
      have hleft : ∀ e ∈ before.getLast?, Text.isWordChar e = false := by
        intro e he
        obtain ⟨f, before', rfl⟩ := List.exists_cons_of_ne_nil hne
        exact h.left e (by rwa [List.getLast?_cons_cons])
      obtain ⟨hdrop, hlast⟩ := dropWhile_getLast? hne hleft
      refine ⟨before.dropWhile Text.isWordChar, run, after, ⟨?_, h.word, ?_, h.right⟩, x, hx,
        hname⟩
      · change (before ++ (run ++ after)).dropWhile Text.isWordChar = _
        rw [List.dropWhile_append, if_neg (by simpa using hdrop)]
      · rwa [hlast]
  · rintro ⟨before, run, after, h, x, hx, hname⟩
    have hne : before ≠ [] := by
      rintro rfl
      obtain ⟨d, run, rfl⟩ := List.exists_cons_of_ne_nil (run_ne_nil hx)
      have hd : Text.isWordChar d = false := mem_head?_dropWhile (by rw [h.eq]; rfl)
      rw [h.word d List.mem_cons_self] at hd
      cases hd
    refine ⟨c :: (r.takeWhile Text.isWordChar ++ before), run, after, ⟨?_, h.word, ?_, h.right⟩, x,
      hx, hname⟩
    · rw [List.cons_append, List.append_assoc, ← h.eq, List.takeWhile_append_dropWhile]
    · intro d hd
      rw [← List.cons_append, List.getLast?_append_of_ne_nil _ hne] at hd
      exact h.left d hd

lemma foreignRun_letter {c : Char} (hc : Text.isLetter c = true)
    (hname : Pattern.isNameStart c = false) (r : Text) : ForeignRun (c :: r) := by
  refine ⟨[], c :: r.takeWhile Text.isWordChar, r.dropWhile Text.isWordChar, ⟨?_, ?_, by simp, ?_⟩,
    c, ?_, hname⟩
  · simp
  · exact List.forall_mem_cons.mpr
      ⟨isWordChar_of_isLetter hc, fun d hd => List.mem_takeWhile_imp hd⟩
  · exact fun d hd => mem_head?_dropWhile hd
  · rw [firstLetter?, List.find?_cons_of_pos (by simp [hc])]
    rfl

/-! ### The search for blocks -/

lemma tokensFrom_error (before : Option Char) (skip : Nat) (t : Text) :
    Braces.tokensFrom before skip t = .error .foreignWord ↔ ForeignRun (t.drop skip) := by
  have hmap : ∀ (x : Except BlockError (List Braces.Token))
      (f : List Braces.Token → List Braces.Token),
      x.map f = .error .foreignWord ↔ x = .error .foreignWord := by
    intro x f
    cases x <;> simp [Except.map]
  induction t generalizing before skip with
  | nil => simp [Braces.tokensFrom, foreignRun_nil]
  | cons c r ih =>
    cases skip with
    | succ skip => exact ih (some c) skip
    | zero =>
      have hr : ∀ skip, Braces.tokensFrom (some c) skip r = .error .foreignWord ↔
          ForeignRun (r.drop skip) := ih (some c)
      rw [Braces.tokensFrom, List.drop_zero]
      by_cases hname : Pattern.isNameStart c = true
      · rw [if_pos hname, hmap, hr, foreignRun_name hname, drop_length_takeWhile]
      · rw [if_neg hname]
        by_cases hletter : Text.isLetter c = true
        · rw [if_pos hletter]
          exact iff_of_true rfl (foreignRun_letter hletter (by simpa using hname) r)
        · have hc : (Text.isLetter c || c == '_') = false := by
            have hunderscore : c ≠ '_' := by
              rintro rfl
              exact hname (by decide)
            simpa [hunderscore] using hletter
          rw [if_neg hletter, hmap, hr, foreignRun_cons hc, List.drop_zero]

lemma stacksFrom_error (keywords : List (Text × BlockKind)) (s : Braces.State)
    (codes : List Text) :
    Braces.stacksFrom keywords s codes = .error .foreignWord ↔ ∃ code ∈ codes, ForeignRun code := by
  induction codes generalizing s with
  | nil => simp [Braces.stacksFrom]
  | cons code codes ih =>
    have hcode : Braces.tokens code = .error .foreignWord ↔ ForeignRun code :=
      tokensFrom_error none 0 code
    rw [Braces.stacksFrom, List.exists_mem_cons_iff, ← hcode]
    cases Braces.tokens code with
    | error e => simp [show e = .foreignWord from rfl]
    | ok ts =>
      dsimp only
      rw [← ih (Braces.runLine keywords s.stack s 0 ts).2]
      cases Braces.stacksFrom keywords (Braces.runLine keywords s.stack s 0 ts).2 codes with
      | error e => simp [Except.map]
      | ok found => simp [Except.map]

/-- A block map cannot be made exactly of a source in braces with a foreign word in its code. -/
theorem blockMap_error (s : Source) :
    BlockMap.ofSource s = .error .foreignWord ↔
      s.language.blockStyle = .braces ∧ ∃ line ∈ s.lines, ForeignRun line.code := by
  unfold BlockMap.ofSource
  cases s.language.blockStyle with
  | braces =>
    have hlines := stacksFrom_error s.language.blockKeywords ⟨[], none⟩ (s.lines.map (·.code))
    have hmem : (∃ code ∈ s.lines.map (·.code), ForeignRun code) ↔
        ∃ line ∈ s.lines, ForeignRun line.code := by simp
    rw [hmem] at hlines
    rw [← hlines]
    unfold Braces.lineBlocks
    cases Braces.stacksFrom s.language.blockKeywords ⟨[], none⟩ (s.lines.map (·.code)) with
    | error e => simp [Except.map]
    | ok found => simp [Except.map]
  | indentation => simp
  | keywords => simp

end SourceGrade.Proofs
