import SourceGrade.Proofs.OpenBraces
import SourceGrade.Proofs.StrippedTexts

/-!
# Tokens of a line and of its parts

The tokens of a line can be cut at every character that belongs to no word: they are those of what
is before it, its own, and those of what is after it. Blanks at the end of a line are no tokens.
-/

namespace SourceGrade

namespace Braces

/-- The open parentheses after a token. -/
def parensAfter (parens : Nat) : Token → Nat
  | .openParen => parens + 1
  | .closeParen => parens - 1
  | _ => parens

/-- The open parentheses after a character. One that closes none is left out. -/
def countParen (parens : Nat) (c : Char) : Nat :=
  if c = '(' then parens + 1 else if c = ')' then parens - 1 else parens

/-- The open parentheses after the beginning of a line. -/
def openParens (t : Text) : Nat := t.foldl countParen 0

end Braces

namespace Proofs

open Braces

lemma step_parens (keywords : List (Text × BlockKind)) (s : Braces.State) (parens : Nat)
    (t : Token) : (step keywords s parens t).2 = parensAfter parens t := by
  cases t with
  | word w afterDot =>
    rw [step]
    split <;> rfl
  | _ => rfl

lemma takeWhile_append_cons {p : Char → Bool} {c : Char} (hc : p c = false) (u v : Text) :
    (u ++ c :: v).takeWhile p = u.takeWhile p := by
  induction u with
  | nil => simp [hc]
  | cons d u ih => simp [List.takeWhile_cons, ih]

lemma tokensFrom_of_not_dot {c : Char} (hdot : c ≠ '.') (v : Text) :
    tokensFrom (some c) 0 v = tokens v := by
  cases v with
  | nil => rfl
  | cons d v =>
    have hd : (some c == some '.') = (none == some '.') := by simpa using hdot
    rw [tokens, tokensFrom, tokensFrom, hd]

section

variable {c : Char} (hc : Text.isWordChar c = false)

include hc

lemma tokensFrom_of_not_word (before : Option Char) (v : Text) :
    tokensFrom before 0 (c :: v) =
      (tokensFrom (some c) 0 v).map ((tokenOf? c).toList ++ ·) := by
  have hname : ¬Pattern.isNameStart c = true := fun h => by
    rw [isWordChar_of_isNameStart h] at hc
    cases hc
  have hletter : ¬Text.isLetter c = true := fun h => by
    rw [isWordChar_of_isLetter h] at hc
    cases hc
  rw [tokensFrom, if_neg hname, if_neg hletter]

lemma tokensFrom_append (before : Option Char) (skip : Nat) (u v : Text) (hskip : skip ≤ u.length) :
    tokensFrom before skip (u ++ c :: v) =
      (tokensFrom before skip u).bind fun a =>
        (tokensFrom (some c) 0 v).map fun b => a ++ ((tokenOf? c).toList ++ b) := by
  induction u generalizing before skip with
  | nil =>
    obtain rfl : skip = 0 := Nat.le_zero.mp hskip
    exact tokensFrom_of_not_word hc before v
  | cons d u ih =>
    cases skip with
    | succ skip => exact ih (some d) skip (Nat.le_of_succ_le_succ hskip)
    | zero =>
      rw [List.cons_append, tokensFrom, tokensFrom, takeWhile_append_cons hc]
      dsimp only
      split
      · rw [ih _ _ (List.takeWhile_sublist _).length_le]
        cases tokensFrom (some d) (u.takeWhile Text.isWordChar).length u with
        | error e => rfl
        | ok a => cases tokensFrom (some c) 0 v <;> rfl
      · split
        · rfl
        · rw [ih _ _ (Nat.zero_le _)]
          cases tokensFrom (some d) 0 u with
          | error e => rfl
          | ok a =>
            cases tokensFrom (some c) 0 v with
            | error e => rfl
            | ok b => simp [Except.map, Except.bind]

lemma tokens_append (hdot : c ≠ '.') (u v : Text) :
    tokens (u ++ c :: v) =
      (tokens u).bind fun a => (tokens v).map fun b => a ++ ((tokenOf? c).toList ++ b) := by
  rw [tokens, tokensFrom_append hc none 0 u v (Nat.zero_le _), tokensFrom_of_not_dot hdot]
  rfl

end

lemma tokenOf?_semicolon {c : Char} (h : tokenOf? c = some .semicolon) : c = ';' := by
  unfold tokenOf? at h
  split at h
  case h_3 => rfl
  all_goals cases h

/-- Where a semicolon is a token the text can be cut. -/
lemma tokensFrom_semicolon {before : Option Char} {skip : Nat} {t : Text} {a b : List Token}
    (h : tokensFrom before skip t = .ok (a ++ .semicolon :: b)) :
    ∃ u v, t = u ++ ';' :: v ∧ skip ≤ u.length ∧ tokensFrom before skip u = .ok a ∧
      tokens v = .ok b := by
  induction t generalizing before skip a with
  | nil =>
    rw [tokensFrom] at h
    simpa using Except.ok.inj h
  | cons c r ih =>
    cases skip with
    | succ skip =>
      obtain ⟨u, v, rfl, hskip, hu, hv⟩ := ih h
      exact ⟨c :: u, v, rfl, Nat.succ_le_succ hskip, hu, hv⟩
    | zero =>
      rw [tokensFrom] at h
      split at h
      · next hname =>
        obtain ⟨ts, hts, heq⟩ := except_map_eq_ok h
        obtain ⟨-, hfirst⟩ | ⟨a, rfl, rfl⟩ := List.cons_eq_append_iff.mp heq
        · cases hfirst
        · obtain ⟨u, v, rfl, -, hu, hv⟩ := ih hts
          refine ⟨c :: u, v, rfl, Nat.zero_le _, ?_, hv⟩
          rw [takeWhile_append_cons (by decide)] at hu ⊢
          rw [tokensFrom, if_pos hname]
          dsimp only
          rw [hu]
          rfl
      · next hname =>
        split at h
        · cases h
        · next hletter =>
          obtain ⟨ts, hts, heq⟩ := except_map_eq_ok h
          have hcons : ∀ {x y}, tokensFrom (some c) 0 x = .ok y →
              tokensFrom before 0 (c :: x) = .ok ((tokenOf? c).toList ++ y) := by
            intro x y hx
            rw [tokensFrom, if_neg hname, if_neg hletter, hx]
            rfl
          cases htoken : tokenOf? c with
          | none =>
            rw [htoken] at heq hcons
            obtain rfl : ts = a ++ .semicolon :: b := heq
            obtain ⟨u, v, rfl, -, hu, hv⟩ := ih hts
            exact ⟨c :: u, v, rfl, Nat.zero_le _, hcons hu, hv⟩
          | some token =>
            rw [htoken] at heq hcons
            obtain ⟨rfl, hfirst⟩ | ⟨a, rfl, rfl⟩ := List.cons_eq_append_iff.mp heq
            · obtain ⟨rfl, rfl⟩ := List.cons.inj hfirst
              obtain rfl := tokenOf?_semicolon htoken
              exact ⟨[], r, rfl, Nat.zero_le _, rfl,
                (tokensFrom_of_not_dot (by decide) r).symm.trans hts⟩
            · obtain ⟨u, v, rfl, -, hu, hv⟩ := ih hts
              exact ⟨c :: u, v, rfl, Nat.zero_le _, hcons hu, hv⟩

/-! ### Parentheses -/

lemma countParen_of_isWordChar {c : Char} (h : Text.isWordChar c = true) (n : Nat) :
    countParen n c = n := by
  have hopen : c ≠ '(' := by
    rintro rfl
    exact absurd h (by decide)
  have hclose : c ≠ ')' := by
    rintro rfl
    exact absurd h (by decide)
  rw [countParen, if_neg hopen, if_neg hclose]

lemma foldl_tokenOf? (c : Char) (n : Nat) :
    (tokenOf? c).toList.foldl parensAfter n = countParen n c := by
  unfold tokenOf?
  split
  case h_6 hopen hclose _ _ _ =>
    rw [countParen, if_neg hopen, if_neg hclose]
    rfl
  all_goals rfl

lemma foldl_parensAfter {before : Option Char} {skip : Nat} {t : Text} {ts : List Token}
    (h : tokensFrom before skip t = .ok ts) (hskip : ∀ c ∈ t.take skip, Text.isWordChar c = true)
    (n : Nat) : ts.foldl parensAfter n = t.foldl countParen n := by
  induction t generalizing before skip ts n with
  | nil =>
    rw [tokensFrom] at h
    obtain rfl := Except.ok.inj h
    rfl
  | cons c r ih =>
    rw [List.foldl_cons]
    cases skip with
    | succ skip =>
      rw [List.take_succ_cons, List.forall_mem_cons] at hskip
      rw [countParen_of_isWordChar hskip.1]
      exact ih h hskip.2 n
    | zero =>
      rw [tokensFrom] at h
      split at h
      · next hname =>
        obtain ⟨rest, hrest, rfl⟩ := except_map_eq_ok h
        rw [countParen_of_isWordChar (isWordChar_of_isNameStart hname)]
        exact ih hrest (isWordChar_of_mem_tail r) n
      · split at h
        · cases h
        · obtain ⟨rest, hrest, rfl⟩ := except_map_eq_ok h
          rw [List.foldl_append, foldl_tokenOf?]
          exact ih hrest (by simp) _

/-! ### Blanks at the end of a line -/

lemma isWordChar_of_isBlank {c : Char} (h : Text.isBlank c = true) :
    Text.isWordChar c = false := by
  have hcodes : ∀ n ∈ List.range' 9 5 ++ List.range' 28 5 ++ List.range' 0x2000 11 ++
      [0x85, 0xA0, 0x1680, 0x2028, 0x2029, 0x202F, 0x205F, 0x3000],
      Text.isWordChar (Char.ofNat n) = false := by decide +kernel
  have hmem := hcodes c.toNat (by
    simp only [Text.isBlank, Bool.or_eq_true, Bool.and_eq_true, decide_eq_true_eq, beq_iff_eq] at h
    simp only [List.mem_append, List.mem_range'_1, List.mem_cons, List.not_mem_nil, Char.toNat]
    omega)
  rwa [Char.ofNat_toNat] at hmem

lemma tokens_stripRight (t : Text) : tokens (Text.stripRight t) = tokens t := by
  have hblank : ∀ {c}, Text.isBlank c = true → tokenOf? c = none ∧ c ≠ '.' := by
    intro c hc
    refine ⟨?_, by rintro rfl; exact absurd hc (by decide)⟩
    unfold tokenOf?
    split
    case h_6 => rfl
    all_goals exact absurd hc (by decide)
  have hblanks : ∀ w : Text, (∀ c ∈ w, Text.isBlank c = true) → tokens w = .ok [] := by
    intro w hw
    induction w with
    | nil => rfl
    | cons c w ih =>
      obtain ⟨hc, hw⟩ := List.forall_mem_cons.mp hw
      have happend := tokens_append (isWordChar_of_isBlank hc) (hblank hc).2 [] w
      rw [ih hw, (hblank hc).1] at happend
      exact happend
  obtain ⟨w, ht, hw⟩ := stripRight_append_blanks t
  cases w with
  | nil => rw [List.append_nil] at ht; rw [← ht]
  | cons c w =>
    obtain ⟨hc, hw⟩ := List.forall_mem_cons.mp hw
    conv_rhs => rw [ht, tokens_append (isWordChar_of_isBlank hc) (hblank hc).2, hblanks w hw,
      (hblank hc).1]
    cases tokens (Text.stripRight t) with
    | error e => rfl
    | ok a => simp [Except.bind, Except.map]

end Proofs

end SourceGrade
