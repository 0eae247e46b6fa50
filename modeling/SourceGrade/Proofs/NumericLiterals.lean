import SourceGrade.Hazard.Literal
import SourceGrade.Proofs.NearestDoubles
import SourceGrade.Proofs.PatternPasses
import SourceGrade.Proofs.ScanMarks

/-!
# Numeric literals

A divisor is too large to be judged exactly if, its enclosing parentheses dropped, it is a literal
in base two, eight or sixteen with a value that no finite double is near.
-/

namespace SourceGrade

namespace LiteralValue

/-- The letters that name a base after a zero. -/
def baseMarks : List (Char × Nat) :=
  [('x', 16), ('X', 16), ('b', 2), ('B', 2), ('o', 8), ('O', 8)]

/-- The letters that may stand at the end of a literal in a base. -/
def suffixLetters : Text := "uUlL"

/-- A literal that names its base and writes a whole number with digits below it. Underscores may
stand among the digits. -/
def Writes (literal : Text) (n : Nat) : Prop :=
  ∃ mark base body suffix digits, literal = '0' :: mark :: (body ++ suffix) ∧
    (mark, base) ∈ baseMarks ∧ (∀ c ∈ suffix, c ∈ suffixLetters) ∧
    (body.filter (· != '_')).map digitOf? = digits.map some ∧ digits ≠ [] ∧
    (∀ d ∈ digits, d < base) ∧ n = Nat.ofDigits base digits.reverse

/-- A divisor that writes, in any number of parentheses, a whole number beyond all doubles. -/
def IsHuge (divisor : Text) : Prop :=
  ∃ k literal n, divisor = List.replicate k '(' ++ literal ++ List.replicate k ')' ∧
    Writes literal n ∧ (Binary.nearest n 1).isFinite = false

end LiteralValue

namespace Proofs

open LiteralValue Pattern

/-! ### Enclosing parentheses -/

lemma enclosed_iff (t : Text) :
    (Text.startsWith "(" t && Text.endsWith ")" t) = true ↔
      ∃ inner, t = '(' :: (inner ++ [')']) := by
  rw [Bool.and_eq_true, Text.endsWith, startsWith_iff, startsWith_iff]
  constructor
  · rintro ⟨⟨u, rfl⟩, v, hv⟩
    have hu : (")" : Text) ++ v = u.reverse ++ ['('] := by simpa using hv
    cases hlast : u.reverse with
    | nil =>
      rw [hlast] at hu
      exact absurd (List.cons.inj hu).1 (by decide)
    | cons c w =>
      rw [hlast] at hu
      obtain rfl : ')' = c := (List.cons.inj hu).1
      have hu : u = w.reverse ++ [')'] := by
        rw [← List.reverse_reverse u, hlast, List.reverse_cons]
      exact ⟨w.reverse, congrArg ('(' :: ·) hu⟩
  · rintro ⟨inner, rfl⟩
    exact ⟨⟨inner ++ [')'], rfl⟩, '(' :: inner |>.reverse, by simp⟩

lemma dropParens_eq (fuel : Nat) (t : Text) :
    ∃ k, t = List.replicate k '(' ++ dropParens fuel t ++ List.replicate k ')' := by
  induction fuel generalizing t with
  | zero => exact ⟨0, by simp [dropParens]⟩
  | succ fuel ih =>
    rw [dropParens]
    split
    · next henclosed =>
      obtain ⟨inner, rfl⟩ := (enclosed_iff t).mp henclosed
      obtain ⟨k, hk⟩ := ih inner
      refine ⟨k + 1, ?_⟩
      have hinner : (('(' :: (inner ++ [')'])).drop 1).dropLast = inner := by simp
      rw [hinner, List.replicate_succ, List.replicate_succ']
      conv_lhs => rw [hk]
      simp
    · exact ⟨0, by simp⟩

lemma dropParens_replicate {t : Text} (ht : ¬∃ inner, t = '(' :: (inner ++ [')'])) {k fuel : Nat}
    (hk : k ≤ fuel) :
    dropParens fuel (List.replicate k '(' ++ t ++ List.replicate k ')') = t := by
  induction fuel generalizing k with
  | zero =>
    obtain rfl := Nat.le_zero.mp hk
    simp [dropParens]
  | succ fuel ih =>
    rw [dropParens]
    cases k with
    | zero =>
      rw [if_neg (by rw [enclosed_iff]; simpa using ht)]
      simp
    | succ k =>
      have henclosed : List.replicate (k + 1) '(' ++ t ++ List.replicate (k + 1) ')' =
          '(' :: ((List.replicate k '(' ++ t ++ List.replicate k ')') ++ [')']) := by
        rw [List.replicate_succ, List.replicate_succ']
        simp
      rw [if_pos ((enclosed_iff _).mpr ⟨_, henclosed⟩), henclosed]
      have hinner := ih (Nat.le_of_succ_le_succ hk)
      simpa using hinner

/-! ### Digits -/

lemma foldl_eq_ofDigits (base : Nat) (digits : List Nat) :
    digits.foldl (fun n d => n * base + d) 0 = Nat.ofDigits base digits.reverse := by
  rw [Nat.ofDigits_eq_foldr, List.foldr_reverse]
  congr 1
  funext n d
  simp [Nat.add_comm, Nat.mul_comm]

/-- The number of the digits read so far, with one more digit. -/
def addDigit? (base : Nat) (n? : Option Nat) (c : Char) : Option Nat := do
  let n ← n?
  let d ← digitOf? c
  if d < base then some (n * base + d) else none

lemma foldl_addDigit?_none (base : Nat) (t : Text) : t.foldl (addDigit? base) none = none := by
  induction t with
  | nil => rfl
  | cons c t ih => exact ih

lemma foldl_addDigit? {base a n : Nat} {t : Text} :
    t.foldl (addDigit? base) (some a) = some n ↔ ∃ digits : List Nat,
      t.map digitOf? = digits.map some ∧ (∀ d ∈ digits, d < base) ∧
        n = digits.foldl (fun n d => n * base + d) a := by
  induction t generalizing a with
  | nil =>
    constructor
    · intro h
      exact ⟨[], rfl, List.forall_mem_nil _, (Option.some.inj h).symm⟩
    · rintro ⟨digits, hdigits, -, rfl⟩
      obtain rfl : digits = [] := by simpa using hdigits.symm
      rfl
  | cons c t ih =>
    rw [List.foldl_cons]
    cases hc : digitOf? c with
    | none =>
      have hstep : addDigit? base (some a) c = none := by simp [addDigit?, hc]
      rw [hstep, foldl_addDigit?_none]
      refine iff_of_false (by simp) ?_
      rintro ⟨digits, hdigits, -⟩
      cases digits <;> simp [hc] at hdigits
    | some d =>
      by_cases hd : d < base
      · have hstep : addDigit? base (some a) c = some (a * base + d) := by simp [addDigit?, hc, hd]
        rw [hstep, ih]
        constructor
        · rintro ⟨digits, hdigits, hlt, rfl⟩
          exact ⟨d :: digits, by simp [hc, hdigits], List.forall_mem_cons.mpr ⟨hd, hlt⟩, rfl⟩
        · rintro ⟨digits, hdigits, hlt, rfl⟩
          cases digits with
          | nil => cases hdigits
          | cons d' digits =>
            obtain ⟨hfirst, hrest⟩ := List.cons.inj hdigits
            obtain rfl := Option.some.inj (hc.symm.trans hfirst)
            exact ⟨digits, hrest, (List.forall_mem_cons.mp hlt).2, rfl⟩
      · have hstep : addDigit? base (some a) c = none := by simp [addDigit?, hc, hd]
        rw [hstep, foldl_addDigit?_none]
        refine iff_of_false (by simp) ?_
        rintro ⟨digits, hdigits, hlt, -⟩
        cases digits with
        | nil => cases hdigits
        | cons d' digits =>
          obtain rfl := Option.some.inj (hc.symm.trans (List.cons.inj hdigits).1)
          exact hd (List.forall_mem_cons.mp hlt).1

lemma inBase?_eq_some {base n : Nat} {t : Text} :
    inBase? base t = some n ↔ ∃ digits : List Nat, t.map digitOf? = digits.map some ∧ digits ≠ [] ∧
      (∀ d ∈ digits, d < base) ∧ n = Nat.ofDigits base digits.reverse := by
  cases t with
  | nil =>
    refine iff_of_false (by simp [inBase?]) ?_
    rintro ⟨digits, hdigits, hne, -⟩
    exact hne (by simpa using hdigits.symm)
  | cons c t =>
    have hfold : inBase? base (c :: t) = (c :: t).foldl (addDigit? base) (some 0) := rfl
    rw [hfold, foldl_addDigit?]
    apply exists_congr
    intro digits
    rw [foldl_eq_ofDigits]
    refine and_congr_right fun hdigits => ?_
    have hne : digits ≠ [] := by
      rintro rfl
      cases hdigits
    simp [hne]

lemma base?_eq_some {t r : Text} {base : Nat} :
    base? t = some (base, r) ↔ ∃ mark, t = '0' :: mark :: r ∧ (mark, base) ∈ baseMarks := by
  constructor
  · intro h
    unfold base? at h
    split at h
    · next c r' =>
      refine ⟨c, ?_⟩
      split at h
      · next hc =>
        obtain ⟨rfl, rfl⟩ := Prod.mk.inj (Option.some.inj h)
        rcases hc with rfl | rfl <;> exact ⟨rfl, by decide⟩
      · split at h
        · next hc =>
          obtain ⟨rfl, rfl⟩ := Prod.mk.inj (Option.some.inj h)
          rcases hc with rfl | rfl <;> exact ⟨rfl, by decide⟩
        · split at h
          · next hc =>
            obtain ⟨rfl, rfl⟩ := Prod.mk.inj (Option.some.inj h)
            rcases hc with rfl | rfl <;> exact ⟨rfl, by decide⟩
          · cases h
    · cases h
  · rintro ⟨mark, rfl, hmark⟩
    simp only [baseMarks, List.mem_cons, List.not_mem_nil, or_false, Prod.mk.injEq] at hmark
    rcases hmark with ⟨rfl, rfl⟩ | ⟨rfl, rfl⟩ | ⟨rfl, rfl⟩ | ⟨rfl, rfl⟩ | ⟨rfl, rfl⟩ | ⟨rfl, rfl⟩
    all_goals rfl

lemma dropSuffix_append {letters : String} {u v : Text} (hu : ∀ c ∈ u, c ∉ letters.toList)
    (hv : ∀ c ∈ v, c ∈ letters.toList) : dropSuffix letters (u ++ v) = u := by
  have hkept : u.reverse.dropWhile letters.toList.contains = u.reverse := by
    rw [List.dropWhile_eq_self_iff]
    intro hpos
    simpa using hu _ (List.mem_reverse.mp (List.getElem_mem hpos))
  rw [dropSuffix, List.reverse_append, List.dropWhile_append_of_pos (by simpa using hv), hkept,
    List.reverse_reverse]

/-! ### Literals -/

/-- A character among the digits of a literal that names its base. -/
def isBasedChar (c : Char) : Bool :=
  Text.isDigit c || ('a' ≤ c && c ≤ 'f') || ('A' ≤ c && c ≤ 'F') || c == '_'

lemma isBasedChar_of_digitOf? {c : Char} {d : Nat} (h : digitOf? c = some d) :
    isBasedChar c = true := by
  unfold digitOf? at h
  split at h
  · next hdigit => simp [isBasedChar, Text.isDigit, hdigit]
  · split at h
    · next hlower => simp [isBasedChar, hlower.1, hlower.2]
    · split at h
      · next hupper => simp [isBasedChar, hupper.1, hupper.2]
      · cases h

lemma not_mem_suffixLetters {c : Char} (h : isBasedChar c = true) : c ∉ suffixLetters := by
  have hletters : suffixLetters.any isBasedChar = false := by decide
  intro hmem
  exact List.any_eq_false.mp hletters c hmem h

lemma exists_based_of_matchWhole {t : Text} (h : (numberLiteral.matchWhole t).isSome = true)
    {base : Nat} {r : Text} (hbase : base? (t.filter (· != '_')) = some (base, r)) :
    ∃ mark body suffix, t = '0' :: mark :: (body ++ suffix) ∧ (mark, base) ∈ baseMarks ∧
      (∀ c ∈ body, isBasedChar c = true) ∧ (∀ c ∈ suffix, c ∈ suffixLetters) := by
  rw [matchWhole, Option.isSome_map] at h
  obtain ⟨e, he⟩ := Option.isSome_iff_exists.mp h
  obtain ⟨mark, hmark, hbaseMark⟩ := base?_eq_some.mp hbase
  have hmem : mark ∈ t := List.mem_of_mem_filter (hmark ▸ List.mem_cons_of_mem _ List.mem_cons_self)
  rcases run_alt he with he | he
  · simp only [run_append, many1] at he
    obtain ⟨r₁, hr₁, he⟩ := run_literal he
    obtain ⟨mark', r₂, hr₂, hmark', he⟩ := run_one he
    obtain ⟨c, r₃, hr₃, hc, he⟩ := run_one he
    obtain ⟨u, r₄, hr₄, hu, he⟩ := run_many_one he
    obtain ⟨v, r₅, hr₅, hv, he⟩ := run_many_one he
    obtain rfl : r₁ = mark' :: r₂ := hr₂
    obtain rfl : r₂ = c :: r₃ := hr₃
    obtain rfl : r₃ = u ++ r₄ := hr₄
    obtain rfl : r₄ = v ++ r₅ := hr₅
    obtain rfl : t = '0' :: mark' :: c :: (u ++ (v ++ r₅)) := hr₁
    obtain rfl : r₅ = [] := by
      split at he
      · next hempty => exact List.isEmpty_iff.mp hempty
      · cases he
    have hplain : mark' ≠ '_' := by
      rintro rfl
      exact absurd hmark' (by decide)
    obtain rfl : mark' = mark := by
      rw [List.filter_cons_of_pos (by decide),
        List.filter_cons_of_pos (by simpa using hplain)] at hmark
      exact (List.cons.inj (List.cons.inj hmark).2).1
    refine ⟨mark', c :: u, v, by simp, hbaseMark, List.forall_mem_cons.mpr ⟨hc, hu⟩, ?_⟩
    intro d hd
    exact List.contains_iff_mem.mp (hv d hd)
  · -- no letter of a base stands in a decimal literal
    obtain ⟨u, s', hu, hreads, he⟩ := run_reads he
    obtain rfl : t = u := by
      split at he
      · next hempty => rw [← List.append_nil u, ← List.isEmpty_iff.mp hempty]; exact hu
      · cases he
    have hread := hreads mark hmem
    simp only [baseMarks, List.mem_cons, List.not_mem_nil, or_false, Prod.mk.injEq] at hbaseMark
    rcases hbaseMark with ⟨rfl, -⟩ | ⟨rfl, -⟩ | ⟨rfl, -⟩ | ⟨rfl, -⟩ | ⟨rfl, -⟩ | ⟨rfl, -⟩
    all_goals exact absurd hread (by decide)

lemma matchWhole_based {mark c : Char} {base : Nat} {u suffix : Text}
    (hmark : (mark, base) ∈ baseMarks) (hbody : ∀ d ∈ c :: u, isBasedChar d = true)
    (hsuffix : ∀ d ∈ suffix, d ∈ suffixLetters) :
    (numberLiteral.matchWhole ('0' :: mark :: (c :: u ++ suffix))).isSome = true := by
  obtain ⟨hc, hu⟩ := List.forall_mem_cons.mp hbody
  have hall : ∀ x ∈ baseMarks, ("xXbBoO" : String).toList.contains x.1 = true := by decide
  have hmarks := hall _ hmark
  have hfollows : ∀ d ∈ suffix.head?, isBasedChar d = false := by
    intro d hd
    by_contra hbased
    exact not_mem_suffixLetters (Bool.not_eq_false _ ▸ hbased)
      (hsuffix d (List.mem_of_mem_head? hd))
  let atEnd (e : Place) : Option Place := if e.after.isEmpty then some e else none
  let s : Place := (Place.ofText ('0' :: mark :: (c :: u ++ suffix))).pass ['0', mark, c]
    (u ++ suffix)
  have hend : (Pattern.many (.one suffixLetters.contains)).run (s.pass u suffix) atEnd =
      some ((s.pass u suffix).pass suffix []) :=
    run_many_one_exact (r := []) (List.append_nil suffix).symm
      (fun d hd => List.contains_iff_mem.mpr (hsuffix d hd)) (by simp) rfl
  have hdigits : (Pattern.many (.one isBasedChar)).run s
      (fun s' => (Pattern.many (.one suffixLetters.contains)).run s' atEnd) =
        some ((s.pass u suffix).pass suffix []) := by
    rw [run_many_one_exact rfl hu hfollows (by rw [hend]; rfl), hend]
  rw [matchWhole, Option.isSome_map]
  apply isSome_run_alt
  have hfirst : (("0" : Pattern) ++ anyOf "xXbBoO" ++ many1 (.one isBasedChar) ++
      Pattern.many (.one suffixLetters.contains)).run
        (.ofText ('0' :: mark :: (c :: u ++ suffix))) atEnd =
        if ("xXbBoO" : String).toList.contains mark then
          if isBasedChar c then (Pattern.many (.one isBasedChar)).run s
            (fun s' => (Pattern.many (.one suffixLetters.contains)).run s' atEnd) else none
        else none := rfl
  rw [if_pos hmarks, if_pos hc, hdigits] at hfirst
  exact Option.isSome_iff_exists.mpr ⟨_, hfirst⟩

lemma filter_based {mark : Char} {base : Nat} {body suffix : Text}
    (hmark : (mark, base) ∈ baseMarks) (hsuffix : ∀ d ∈ suffix, d ∈ suffixLetters) :
    ('0' :: mark :: (body ++ suffix)).filter (· != '_') =
      '0' :: mark :: (body.filter (· != '_') ++ suffix) := by
  have hplain : ∀ x ∈ baseMarks, x.1 ≠ '_' := by decide
  have hletters : suffixLetters.any (· == '_') = false := by decide
  have hkept : suffix.filter (· != '_') = suffix := by
    rw [List.filter_eq_self]
    intro d hd
    simpa using List.any_eq_false.mp hletters d (hsuffix d hd)
  rw [List.filter_cons_of_pos (by decide), List.filter_cons_of_pos (by simpa using hplain _ hmark),
    List.filter_append, hkept]

lemma dropSuffix_based {body suffix : Text} (hbody : ∀ d ∈ body, isBasedChar d = true)
    (hsuffix : ∀ d ∈ suffix, d ∈ suffixLetters) :
    dropSuffix "uUlL" (body.filter (· != '_') ++ suffix) = body.filter (· != '_') :=
  dropSuffix_append (fun d hd => not_mem_suffixLetters (hbody d (List.mem_of_mem_filter hd)))
    hsuffix

lemma writes_iff {t : Text} {n : Nat} :
    Writes t n ↔ (numberLiteral.matchWhole t).isSome = true ∧
      ∃ base r, base? (t.filter (· != '_')) = some (base, r) ∧
        inBase? base (dropSuffix "uUlL" r) = some n := by
  constructor
  · rintro ⟨mark, base, body, suffix, digits, rfl, hmark, hsuffix, hdigits, hne, hlt, hn⟩
    have hbody : ∀ d ∈ body, isBasedChar d = true := by
      intro d hd
      by_cases hplain : d = '_'
      · rw [hplain]
        decide
      · have hmem : digitOf? d ∈ (body.filter (· != '_')).map digitOf? :=
          List.mem_map_of_mem (List.mem_filter.mpr ⟨hd, bne_iff_ne.mpr hplain⟩)
        rw [hdigits] at hmem
        obtain ⟨value, -, hvalue⟩ := List.mem_map.mp hmem
        exact isBasedChar_of_digitOf? hvalue.symm
    obtain ⟨c, u, rfl⟩ : ∃ c u, body = c :: u := by
      cases body with
      | nil => exact absurd (by simpa using hdigits.symm) hne
      | cons c u => exact ⟨c, u, rfl⟩
    refine ⟨matchWhole_based hmark hbody hsuffix, base,
      (c :: u).filter (· != '_') ++ suffix, ?_, ?_⟩
    · rw [filter_based hmark hsuffix]
      exact base?_eq_some.mpr ⟨mark, rfl, hmark⟩
    · rw [dropSuffix_based hbody hsuffix, inBase?_eq_some]
      exact ⟨digits, hdigits, hne, hlt, hn⟩
  · rintro ⟨hmatch, base, r, hbase, hvalue⟩
    obtain ⟨mark, body, suffix, rfl, hmark, hbody, hsuffix⟩ :=
      exists_based_of_matchWhole hmatch hbase
    rw [filter_based hmark hsuffix] at hbase
    obtain ⟨mark', heq, -⟩ := base?_eq_some.mp hbase
    obtain rfl : body.filter (· != '_') ++ suffix = r :=
      (List.cons.inj (List.cons.inj heq).2).2
    rw [dropSuffix_based hbody hsuffix, inBase?_eq_some] at hvalue
    obtain ⟨digits, hdigits, hne, hlt, hn⟩ := hvalue
    exact ⟨mark, base, body, suffix, digits, rfl, hmark, hsuffix, hdigits, hne, hlt, hn⟩

lemma ofWhole_eq_tooLarge {n : Nat} :
    ofWhole n = .tooLarge ↔ (Binary.nearest n 1).isFinite = false := by
  have hpos : 0 < twoTo 1024 - twoTo 970 := by decide +kernel
  rw [← Bool.not_eq_true, isFinite_nearest_iff, ofWhole, doubleLimit]
  split
  · next hzero => simp [hzero, hpos]
  · split
    · next hlt => simp [hlt]
    · next hge => simp [hge]

/-- A divisor is too large exactly if it writes, in any number of parentheses, a whole number beyond
all doubles in base two, eight or sixteen. -/
theorem ofText_eq_tooLarge {divisor : Text} :
    LiteralValue.ofText divisor = .tooLarge ↔ IsHuge divisor := by
  constructor
  · intro h
    obtain ⟨k, hk⟩ := dropParens_eq divisor.length divisor
    unfold LiteralValue.ofText at h
    dsimp only at h
    generalize dropParens divisor.length divisor = literal at h hk
    split at h
    · cases h
    · next hmatch =>
      split at h
      · next base r hbase =>
        split at h
        · next n hvalue =>
          refine ⟨k, literal, n, hk, writes_iff.mpr ⟨?_, base, r, hbase, hvalue⟩,
            ofWhole_eq_tooLarge.mp h⟩
          rw [Option.isSome_iff_ne_none]
          simpa using hmatch
        · cases h
      · split at h
        · split at h <;> cases h
        · cases h
  · rintro ⟨k, literal, n, rfl, hwrites, hhuge⟩
    have hinner : ¬∃ inner, literal = '(' :: (inner ++ [')']) := by
      obtain ⟨mark, base, body, suffix, digits, rfl, -⟩ := hwrites
      rintro ⟨inner, hinner⟩
      exact absurd (List.cons.inj hinner).1 (by decide)
    obtain ⟨hmatch, base, r, hbase, hvalue⟩ := writes_iff.mp hwrites
    have hfuel : k ≤ (List.replicate k '(' ++ literal ++ List.replicate k ')').length := by
      simp
    have hnone : (numberLiteral.matchWhole literal).isNone = false := by
      rwa [← Option.not_isSome, Bool.not_eq_false']
    unfold LiteralValue.ofText
    rw [dropParens_replicate hinner hfuel]
    simp only [hnone, hbase, hvalue]
    exact ofWhole_eq_tooLarge.mpr hhuge

end Proofs

end SourceGrade
