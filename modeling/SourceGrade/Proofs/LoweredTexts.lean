import SourceGrade.Issue.Normalize
import Mathlib.Data.Bool.AllAny
import Mathlib.Data.List.Basic
/-!
# Texts in lower case

Lower case is a table of runs beyond the first 128 characters. What one run maps to, no run maps
further, so a text in lower case stays as it is. Digits and quotes are no letters: they stay, and
no other character becomes one of the quotes.
-/

namespace SourceGrade

namespace Text

namespace CaseRun

/-- The code point that the last one of a run maps to. -/
def lastTarget (r : CaseRun) : Nat := r.target + (r.last - r.first)

/-- Whether the run maps to characters, none of which is among the first 128 but for small letters,
nor the capital that has two characters in lower case. -/
def isSound (r : CaseRun) : Bool :=
  (r.lastTarget.blt 0xD800 || (Nat.blt 0xDFFF r.target && r.lastTarget.blt 0x110000)) &&
    (Nat.ble 128 r.target || (Nat.ble 97 r.target && r.lastTarget.ble 122)) &&
    (r.lastTarget.blt 0x130 || Nat.blt 0x130 r.target)

end CaseRun

/-- The number whose bits are the lowest one and `count` further ones, `step` apart. -/
def bitsApart (step : Nat) : Nat → Nat
  | 0 => 1
  | count + 1 => bitsApart step count <<< step ||| 1

/-- Bits for as many code points as the run maps, as far apart, the first one being `start`. -/
def CaseRun.bitsFrom (r : CaseRun) (start : Nat) : Nat :=
  bitsApart r.step ((r.last - r.first) / r.step) <<< start

/-- The bits of all numbers that a list gives. -/
def bitUnion {α : Type} (f : α → Nat) (xs : List α) : Nat := xs.foldr (fun x bits => f x ||| bits) 0

/-- A bit for each code point that some run maps. -/
def mappedBits : Nat := bitUnion (fun r => r.bitsFrom r.first) lowerRuns

/-- A bit for each code point that some run maps to. -/
def imageBits : Nat := bitUnion (fun r => r.bitsFrom r.target) lowerRuns

/-- A bit for each digit beyond the first 128 characters. -/
def digitBits : Nat := bitUnion (bitsApart 1 9 <<< ·) zeroDigits

/-- The character is its own lower case. -/
def IsLowered (c : Char) : Prop := lowerChar c = [c]

end Text

namespace Proofs

open Text Normalize

/-! ### The table of runs

The code points that runs map, those that they map to and the digits are bits of numbers, so that
one operation tells that they are apart. -/

lemma mappedBits_apart : mappedBits &&& (imageBits ||| digitBits) = 0 := by
  decide +kernel

lemma lowerRuns_sound : lowerRuns.all CaseRun.isSound = true := by
  decide

lemma testBit_bitsApart {step count k : Nat} (h : k ≤ count) :
    (bitsApart step count).testBit (k * step) = true := by
  induction count generalizing k with
  | zero =>
    obtain rfl := Nat.le_zero.mp h
    rw [Nat.zero_mul, bitsApart]
    decide
  | succ count ih =>
    rw [bitsApart, Nat.testBit_or, Nat.testBit_shiftLeft]
    cases k with
    | zero => simp
    | succ k =>
      have hle : step ≤ (k + 1) * step := Nat.le_mul_of_pos_left step k.succ_pos
      rw [decide_eq_true hle, Nat.succ_mul, Nat.add_sub_cancel, ih (Nat.le_of_succ_le_succ h)]
      rfl

lemma testBit_bitUnion {α : Type} {f : α → Nat} {xs : List α} {x : α} {n : Nat} (hx : x ∈ xs)
    (h : (f x).testBit n = true) : (bitUnion f xs).testBit n = true := by
  induction xs with
  | nil => cases hx
  | cons y xs ih =>
    change (f y ||| bitUnion f xs).testBit n = true
    rw [Nat.testBit_or, Bool.or_eq_true]
    rcases List.mem_cons.mp hx with rfl | hx
    · exact Or.inl h
    · exact Or.inr (ih hx)

lemma testBit_bitsFrom {r : CaseRun} {n : Nat} (hlast : n ≤ r.last - r.first)
    (hstep : n % r.step = 0) (start : Nat) : (r.bitsFrom start).testBit (n + start) = true := by
  have hmul : n / r.step * r.step = n := Nat.div_mul_cancel (Nat.dvd_of_mod_eq_zero hstep)
  have hbit : (bitsApart r.step ((r.last - r.first) / r.step)).testBit n = true := by
    rw [← hmul]
    exact testBit_bitsApart (Nat.div_le_div_right hlast)
  rw [CaseRun.bitsFrom, Nat.testBit_shiftLeft, Nat.add_sub_cancel, hbit,
    decide_eq_true (Nat.le_add_left start n)]
  rfl

lemma image?_eq_some {r : CaseRun} {n : Nat} {d : Char} (h : r.image? n = some d) :
    r.first ≤ n ∧ n ≤ r.last ∧ (n - r.first) % r.step = 0 ∧
      d = Char.ofNat (n - r.first + r.target) := by
  unfold CaseRun.image? at h
  split at h
  · next hn =>
    simp only [Bool.and_eq_true, decide_eq_true_eq, beq_iff_eq] at hn
    exact ⟨hn.1.1, hn.1.2, hn.2, (Option.some.inj h).symm⟩
  · cases h

/-- The code point of an image, which is a character since the run is sound. -/
lemma val_of_image? {r : CaseRun} {n : Nat} {d : Char} (hr : r ∈ lowerRuns)
    (h : r.image? n = some d) : d.val.toNat = n - r.first + r.target := by
  obtain ⟨hfirst, hlast, -, rfl⟩ := image?_eq_some h
  have hsound := List.all_eq_true.mp lowerRuns_sound r hr
  simp only [CaseRun.isSound, CaseRun.lastTarget, Bool.and_eq_true, Bool.or_eq_true, Nat.blt_eq]
    at hsound
  have hvalid : Nat.isValidChar (n - r.first + r.target) := by
    unfold Nat.isValidChar
    omega
  rw [Char.ofNat, dif_pos hvalid]
  rfl

lemma image?_eq_none {n : Nat} (h : (imageBits ||| digitBits).testBit n = true) {r : CaseRun}
    (hr : r ∈ lowerRuns) : r.image? n = none := by
  refine Option.eq_none_iff_forall_ne_some.mpr fun d hd => ?_
  obtain ⟨hfirst, hlast, hstep, -⟩ := image?_eq_some hd
  have hbit := testBit_bitsFrom (Nat.sub_le_sub_right hlast r.first) hstep r.first
  rw [Nat.sub_add_cancel hfirst] at hbit
  have hmapped : mappedBits.testBit n = true := testBit_bitUnion hr hbit
  have hboth : (mappedBits &&& (imageBits ||| digitBits)).testBit n = true := by
    rw [Nat.testBit_and, hmapped, h]
    rfl
  rw [mappedBits_apart, Nat.zero_testBit] at hboth
  cases hboth

lemma testBit_imageBits {r : CaseRun} {n : Nat} {d : Char} (hr : r ∈ lowerRuns)
    (h : r.image? n = some d) : imageBits.testBit d.val.toNat = true := by
  obtain ⟨-, hlast, hstep, -⟩ := image?_eq_some h
  rw [val_of_image? hr h]
  exact testBit_bitUnion hr (testBit_bitsFrom (Nat.sub_le_sub_right hlast r.first) hstep r.target)

lemma testBit_digitBits {z n : Nat} (hz : z ∈ zeroDigits) (hzero : z ≤ n) (hnine : n < z + 10) :
    digitBits.testBit n = true := by
  refine testBit_bitUnion hz ?_
  have hbit := @testBit_bitsApart 1 9 (n - z) (by omega)
  rw [Nat.mul_one] at hbit
  rw [Nat.testBit_shiftLeft, hbit, decide_eq_true hzero]
  rfl

lemma zeroDigits_gt : ∀ z ∈ zeroDigits, 0x130 < z := by
  decide

/-! ### Characters in lower case -/

lemma isLowered_of_outside {c : Char} (hcapital : ¬(65 ≤ c.val.toNat ∧ c.val.toNat ≤ 90))
    (hdotted : c.val ≠ 0x130) (hruns : ∀ r ∈ lowerRuns, r.image? c.val.toNat = none) :
    IsLowered c := by
  unfold IsLowered lowerChar
  by_cases hc : c.val < 128
  · have hletter : ¬((decide ('A' ≤ c) && decide (c ≤ 'Z')) = true) := by
      intro h
      simp only [Bool.and_eq_true, decide_eq_true_eq] at h
      exact hcapital h
    rw [if_pos hc, if_neg hletter]
  · rw [if_neg hc, if_neg hdotted, List.findSome?_eq_none_iff.mpr hruns, Option.getD_none]

lemma lowerChar_of_lt : ∀ n < 128,
    (lowerChar (Char.ofNat n)).all (fun d => lowerChar d = [d]) = true ∧
    (lowerChar (Char.ofNat n)).filter isQuote = [Char.ofNat n].filter isQuote ∧
    (isDigit (Char.ofNat n) = true → lowerChar (Char.ofNat n) = [Char.ofNat n]) := by
  decide

lemma lowerChar_sigma : (∀ n ∈ [0x307, 0x3C2, 0x3C3], lowerChar (Char.ofNat n) = [Char.ofNat n]) ∧
    lowerChar (Char.ofNat 0x3A3) ≠ [Char.ofNat 0x3A3] := by
  decide

lemma isLowered_of_isDigit {c : Char} (h : isDigit c = true) : IsLowered c := by
  by_cases hc : c.val.toNat < 128
  · have hlow := (lowerChar_of_lt c.toNat hc).2.2
    rw [Char.ofNat_toNat] at hlow
    exact hlow h
  · simp only [isDigit, digitValue?, if_neg hc, Option.isSome_map, List.find?_isSome,
      Bool.and_eq_true, decide_eq_true_eq] at h
    obtain ⟨z, hz, hzero, hnine⟩ := h
    have hge : 0x130 < z := zeroDigits_gt z hz
    refine isLowered_of_outside (by omega) (fun hdotted => ?_) fun r hr => image?_eq_none ?_ hr
    · rw [hdotted] at hzero
      exact absurd hzero (Nat.not_le.mpr hge)
    · rw [Nat.testBit_or, testBit_digitBits hz hzero hnine, Bool.or_true]

lemma isQuote_eq_false {c : Char} (h : 96 < c.val.toNat) : isQuote c = false := by
  have hne : ∀ q : Char, q.val.toNat ≤ 96 → (c == q) = false := by
    rintro q hq
    refine beq_eq_false_iff_ne.mpr ?_
    rintro rfl
    omega
  rw [isQuote, hne _ (by decide), hne _ (by decide), hne _ (by decide)]
  rfl

lemma mem_lowerChar_of_ge {c d : Char} (hc : 128 ≤ c.val.toNat) (hd : d ∈ lowerChar c) :
    IsLowered d ∧ isQuote d = false := by
  have hlt : ¬c.val < 128 := by
    simpa [UInt32.lt_iff_toNat_lt] using hc
  unfold lowerChar at hd
  rw [if_neg hlt] at hd
  split at hd
  · rcases List.mem_pair.mp hd with rfl | rfl
    · exact ⟨by unfold IsLowered; decide, by decide⟩
    · exact ⟨lowerChar_sigma.1 0x307 (by decide), by decide⟩
  · next hdotted =>
    cases himage : lowerRuns.findSome? (·.image? c.val.toNat) with
    | none =>
      rw [himage] at hd
      obtain rfl : d = c := List.mem_singleton.mp hd
      exact ⟨isLowered_of_outside (by omega) hdotted (List.findSome?_eq_none_iff.mp himage),
        isQuote_eq_false (by omega)⟩
    | some e =>
      rw [himage] at hd
      obtain rfl : d = e := List.mem_singleton.mp hd
      obtain ⟨r, hr, himage⟩ := List.exists_of_findSome?_eq_some himage
      have hval := val_of_image? hr himage
      obtain ⟨hfirst, hlast, -, -⟩ := image?_eq_some himage
      have hsound := List.all_eq_true.mp lowerRuns_sound r hr
      simp only [CaseRun.isSound, CaseRun.lastTarget, Bool.and_eq_true, Bool.or_eq_true,
        Nat.blt_eq, Nat.ble_eq] at hsound
      have hdotted : d.val ≠ 0x130 := by
        intro h
        rw [h] at hval
        have hval : 0x130 = c.val.toNat - r.first + r.target := hval
        omega
      have hbit : (imageBits ||| digitBits).testBit d.val.toNat = true := by
        rw [Nat.testBit_or, testBit_imageBits hr himage, Bool.true_or]
      exact ⟨isLowered_of_outside (by omega) hdotted fun _ => image?_eq_none hbit,
        isQuote_eq_false (by omega)⟩

lemma isLowered_of_mem_lowerChar {c d : Char} (hd : d ∈ lowerChar c) : IsLowered d := by
  by_cases hc : c.toNat < 128
  · refine List.all_iff_forall_prop.mp (lowerChar_of_lt c.toNat hc).1 d ?_
    rwa [Char.ofNat_toNat]
  · exact (mem_lowerChar_of_ge (Nat.not_lt.mp hc) hd).1

lemma filter_isQuote_lowerChar (c : Char) :
    (lowerChar c).filter isQuote = [c].filter isQuote := by
  by_cases hc : c.toNat < 128
  · have h := (lowerChar_of_lt c.toNat hc).2.1
    rwa [Char.ofNat_toNat] at h
  · have hc : 128 ≤ c.val.toNat := Nat.not_lt.mp hc
    rw [List.filter_eq_nil_iff.mpr fun d hd => by simp [(mem_lowerChar_of_ge hc hd).2],
      List.filter_singleton, isQuote_eq_false (by omega)]
    rfl

/-! ### Texts in lower case -/

lemma ne_sigma_of_isLowered {c : Char} (h : IsLowered c) : c.val ≠ 0x3A3 := by
  intro hsigma
  obtain rfl : c = Char.ofNat 0x3A3 := Char.ext hsigma
  exact lowerChar_sigma.2 h

lemma isLowered_of_mem_lowerAfter {before t : Text} {d : Char} (hd : d ∈ lowerAfter before t) :
    IsLowered d := by
  induction t generalizing before with
  | nil => cases hd
  | cons c r ih =>
    rw [lowerAfter, List.mem_append] at hd
    rcases hd with hd | hd
    · split at hd
      · obtain rfl := List.mem_singleton.mp hd
        refine lowerChar_sigma.1 _ ?_
        split <;> decide
      · exact isLowered_of_mem_lowerChar hd
    · exact ih hd

lemma lowerAfter_eq_self {t : Text} (h : ∀ c ∈ t, IsLowered c) (before : Text) :
    lowerAfter before t = t := by
  induction t generalizing before with
  | nil => rfl
  | cons c r ih =>
    have hc : IsLowered c := h c List.mem_cons_self
    rw [lowerAfter, if_neg (ne_sigma_of_isLowered hc), hc,
      ih fun d hd => h d (List.mem_cons_of_mem c hd)]
    rfl

/-- Only the Greek sigma looks at what surrounds it. -/
lemma lowerAfter_append_of_ne {s : Text} (h : ∀ c ∈ s, c.val ≠ 0x3A3) (before t : Text) :
    lowerAfter before (s ++ t) = s.flatMap lowerChar ++ lowerAfter (s.reverse ++ before) t := by
  induction s generalizing before with
  | nil => rfl
  | cons c s ih =>
    rw [List.cons_append, lowerAfter, if_neg (h c List.mem_cons_self),
      ih fun d hd => h d (List.mem_cons_of_mem c hd), List.flatMap_cons, List.append_assoc,
      List.reverse_cons, List.append_assoc]
    rfl

lemma filter_isQuote_lowerAfter (before t : Text) :
    (lowerAfter before t).filter isQuote = t.filter isQuote := by
  induction t generalizing before with
  | nil => rfl
  | cons c r ih =>
    rw [lowerAfter, List.filter_append, ih, ← List.singleton_append (x := c), List.filter_append]
    congr 1
    split
    · next hsigma =>
      obtain rfl : c = Char.ofNat 0x3A3 := Char.ext hsigma
      split <;> decide
    · exact filter_isQuote_lowerChar c

theorem lower_lower (t : Text) : lower (lower t) = lower t :=
  lowerAfter_eq_self (fun _ => isLowered_of_mem_lowerAfter) []

end Proofs

end SourceGrade
