import Mathlib.Data.List.TakeWhile
import SourceGrade.Json.Writer
import SourceGrade.Number.Reading
import SourceGrade.Proofs.DoubleParts

/-!
# Written numbers

Whole numbers and doubles can be read from their writing: a whole number from its digits, a finite
double from a decimal that no other double covers, and the names of infinity and of no number are
all different.
-/

namespace SourceGrade.Proofs

open Reading (digitsValue decimal?)

/-! ### Digits -/

lemma digitsValue_eq (t : Text) : digitsValue t = Nat.ofDigitChars 10 t 0 := by
  rw [Nat.ofDigitChars_eq_foldl]
  unfold digitsValue
  congr 1
  funext n c
  rw [Nat.mul_comm]
  rfl

lemma digitsValue_append (s t : Text) :
    digitsValue (s ++ t) = 10 ^ t.length * digitsValue s + digitsValue t := by
  simp only [digitsValue_eq]
  rw [Nat.ofDigitChars_append, Nat.ofDigitChars_eq_ofDigitChars_zero]

lemma digitsValue_zeros (n : Nat) : digitsValue (List.replicate n '0') = 0 := by
  rw [digitsValue_eq, Nat.ofDigitChars_replicate_zero, Nat.mul_zero]

lemma digitsValue_append_zeros (s : Text) (n : Nat) :
    digitsValue (s ++ List.replicate n '0') = 10 ^ n * digitsValue s := by
  rw [digitsValue_append, digitsValue_zeros, List.length_replicate, Nat.add_zero]

lemma digitsValue_ofNat (n : Nat) : digitsValue (Text.ofNat n) = n := by
  rw [digitsValue_eq]
  exact Nat.ofDigitChars_ten_toDigits

lemma isAsciiDigit_ofNat (n : Nat) : ∀ c ∈ Text.ofNat n, Text.isAsciiDigit c = true := by
  intro c hc
  have hdigit := Nat.isDigit_of_mem_toDigits (by decide) (by decide) hc
  simpa [Char.isDigit, Text.isAsciiDigit, Char.le_def] using hdigit

lemma ofNat_ne_nil (n : Nat) : Text.ofNat n ≠ [] := Nat.toDigits_ne_nil

lemma ofNat_injective : Function.Injective Text.ofNat :=
  Function.LeftInverse.injective digitsValue_ofNat

lemma ofInt_injective : Function.Injective Text.ofInt := by
  have hminus : ∀ n t, Text.ofNat n ≠ '-' :: t := by
    intro n t h
    exact absurd (isAsciiDigit_ofNat n '-' (h ▸ List.mem_cons_self)) (by decide)
  intro m n h
  cases m with
  | ofNat m =>
    cases n with
    | ofNat n => exact congrArg _ (ofNat_injective h)
    | negSucc n => exact absurd h (hminus m _)
  | negSucc m =>
    cases n with
    | ofNat n => exact absurd h.symm (hminus n _)
    | negSucc n => exact congrArg _ (Nat.succ.inj (ofNat_injective (List.cons.inj h).2))

/-! ### Decimal fractions -/

/-- A text writes a number as a decimal fraction. -/
def Writes (t : Text) (q : ℚ) : Prop := ∃ n e, decimal? t = some (n, e) ∧ (n : ℚ) * 10 ^ e = q

lemma Writes.unique {t : Text} {q q' : ℚ} (h : Writes t q) (h' : Writes t q') : q = q' := by
  obtain ⟨n, e, hread, rfl⟩ := h
  obtain ⟨n', e', hread', rfl⟩ := h'
  obtain ⟨rfl, rfl⟩ := Prod.mk.inj (Option.some.inj (hread.symm.trans hread'))
  rfl

/-- All characters are digits. -/
abbrev AllDigits (t : Text) : Prop := ∀ c ∈ t, Text.isAsciiDigit c = true

/-- A text after digits: nothing, or something that begins with no digit. -/
abbrev NoDigitFirst (t : Text) : Prop := ∀ c ∈ t.head?, Text.isAsciiDigit c = false

lemma takeWhile_digits {s t : Text} (hs : AllDigits s) (ht : NoDigitFirst t) :
    (s ++ t).takeWhile Text.isAsciiDigit = s ∧ (s ++ t).dropWhile Text.isAsciiDigit = t := by
  rw [List.takeWhile_append_of_pos hs, List.dropWhile_append_of_pos hs]
  cases t with
  | nil => exact ⟨List.append_nil s, rfl⟩
  | cons c t =>
    have hc : ¬Text.isAsciiDigit c = true := Bool.not_eq_true _ ▸ ht c rfl
    rw [List.takeWhile_cons_of_neg hc, List.dropWhile_cons_of_neg hc]
    exact ⟨List.append_nil s, rfl⟩

lemma writes_of_point {whole places tail : Text} {e : Int} (hwhole : AllDigits whole)
    (hne : whole ≠ []) (hplaces : AllDigits places) (htail : NoDigitFirst tail)
    (he : Reading.exponent? tail = some e) :
    Writes (whole ++ '.' :: (places ++ tail))
      (digitsValue (whole ++ places) * 10 ^ (e - places.length)) := by
  obtain ⟨htake, hdrop⟩ := takeWhile_digits hwhole
    (show NoDigitFirst ('.' :: (places ++ tail)) by
      intro c hc
      obtain rfl := Option.some.inj hc
      decide)
  obtain ⟨htake', hdrop'⟩ := takeWhile_digits hplaces htail
  refine ⟨_, _, ?_, rfl⟩
  simp [decimal?, htake, hdrop, htake', hdrop', he, hne]

lemma writes_of_exponent {whole tail : Text} {e : Int} (hwhole : AllDigits whole)
    (hne : whole ≠ []) (htail : tail.head? = some 'e') (he : Reading.exponent? tail = some e) :
    Writes (whole ++ tail) (digitsValue whole * 10 ^ e) := by
  obtain ⟨r, rfl⟩ := List.head?_eq_some_iff.mp htail
  obtain ⟨htake, hdrop⟩ := takeWhile_digits hwhole
    (show NoDigitFirst ('e' :: r) by
      intro c hc
      obtain rfl := Option.some.inj hc
      decide)
  refine ⟨digitsValue whole, e, ?_, rfl⟩
  simp [decimal?, htake, hdrop, he, hne]

/-! ### Texts of doubles -/

lemma allDigits_zeros (n : Nat) : AllDigits (List.replicate n '0') := by
  intro c hc
  obtain rfl := (List.mem_replicate.mp hc).2
  decide

lemma AllDigits.append {s t : Text} (hs : AllDigits s) (ht : AllDigits t) : AllDigits (s ++ t) :=
  List.forall_mem_append.mpr ⟨hs, ht⟩

lemma AllDigits.sublist {s t : Text} (h : AllDigits t) (hst : s.Sublist t) : AllDigits s :=
  fun c hc => h c (hst.subset hc)

lemma allDigits_dropFinalZeros {t : Text} (h : AllDigits t) :
    AllDigits (Decimal.dropFinalZeros t) := by
  intro c hc
  rw [Decimal.dropFinalZeros, List.mem_reverse] at hc
  exact h c (List.mem_reverse.mp ((List.dropWhile_sublist _).subset hc))

lemma digitsValue_dropFinalZeros (t : Text) :
    (digitsValue (Decimal.dropFinalZeros t) : ℚ) *
      10 ^ ((t.length : Int) - (Decimal.dropFinalZeros t).length) = digitsValue t := by
  have hsplit : t = Decimal.dropFinalZeros t ++
      List.replicate (t.reverse.takeWhile (· == '0')).length '0' := by
    have hzeros : t.reverse.takeWhile (· == '0') =
        List.replicate (t.reverse.takeWhile (· == '0')).length '0' := by
      rw [List.eq_replicate_iff]
      exact ⟨rfl, fun c hc => by simpa using List.mem_takeWhile_imp hc⟩
    have happend := List.takeWhile_append_dropWhile (p := (· == '0')) (l := t.reverse)
    rw [hzeros] at happend
    have hreverse := congrArg List.reverse happend
    rw [List.reverse_append, List.reverse_reverse, List.reverse_replicate] at hreverse
    exact hreverse.symm
  generalize Decimal.dropFinalZeros t = kept at hsplit ⊢
  generalize (t.reverse.takeWhile (· == '0')).length = zeros at hsplit
  rw [hsplit, digitsValue_append_zeros, List.length_append, List.length_replicate]
  push_cast
  rw [add_sub_cancel_left, zpow_natCast, mul_comm]

lemma positional_of_nonpos (digits : Text) {point : Int} (h : point ≤ 0) :
    Decimal.positional digits point =
      ['0'] ++ '.' :: (List.replicate (-point).toNat '0' ++ digits) := by
  rw [Decimal.positional, if_pos h]
  rfl

lemma positional_of_inside {digits : Text} {point : Int} (hpos : 0 < point)
    (h : point.toNat < digits.length) :
    Decimal.positional digits point =
      digits.take point.toNat ++ '.' :: digits.drop point.toNat := by
  have hrest : (digits.drop point.toNat).isEmpty = false := by simpa using h
  rw [Decimal.positional, if_neg (by omega)]
  dsimp only
  rw [hrest, List.length_take_of_le h.le, Nat.sub_self, List.replicate_zero, List.append_nil,
    List.append_assoc]
  rfl

lemma positional_of_beyond {digits : Text} {point : Int} (hpos : 0 < point)
    (h : digits.length ≤ point.toNat) :
    Decimal.positional digits point =
      digits ++ List.replicate (point.toNat - digits.length) '0' ++ '.' :: ['0'] := by
  have hrest : (digits.drop point.toNat).isEmpty = true := by simpa using h
  rw [Decimal.positional, if_neg (by omega)]
  dsimp only
  rw [hrest, List.take_of_length_le h, List.append_assoc _ ".".toList]
  rfl

lemma positional_writes {digits : Text} (hdigits : AllDigits digits) (hne : digits ≠ [])
    (point : Int) :
    Writes (Decimal.positional digits point)
      (digitsValue digits * 10 ^ (point - digits.length)) := by
  have hwrites : ∀ whole places : Text, AllDigits whole → whole ≠ [] → AllDigits places →
      Writes (whole ++ '.' :: places)
        (digitsValue (whole ++ places) * 10 ^ (-(places.length : Int))) := by
    intro whole places hwhole hne hplaces
    have hexponent : Reading.exponent? [] = some 0 := rfl
    have hend : NoDigitFirst [] := fun c hc => absurd hc (Option.not_mem_none c)
    have := writes_of_point hwhole hne hplaces hend hexponent
    rwa [List.append_nil, zero_sub] at this
  rcases le_or_gt point 0 with hpoint | hpoint
  · have hplaces := hwrites ['0'] _ (allDigits_zeros 1) (by decide)
      ((allDigits_zeros (-point).toNat).append hdigits)
    have hvalue : digitsValue (['0'] ++ (List.replicate (-point).toNat '0' ++ digits)) =
        digitsValue digits := by
      rw [digitsValue_append, digitsValue_append, digitsValue_zeros]
      simp [digitsValue]
    have hlength : -((List.replicate (-point).toNat '0' ++ digits).length : Int) =
        point - digits.length := by
      rw [List.length_append, List.length_replicate]
      push_cast
      omega
    rw [positional_of_nonpos digits hpoint]
    rwa [hvalue, hlength] at hplaces
  · rcases Nat.lt_or_ge point.toNat digits.length with hinside | hbeyond
    · have hplaces := hwrites _ _ (hdigits.sublist (List.take_sublist point.toNat _))
        (List.ne_nil_of_length_pos (by rw [List.length_take_of_le hinside.le]; omega))
        (hdigits.sublist (List.drop_sublist point.toNat _))
      have hlength : -((digits.drop point.toNat).length : Int) = point - digits.length := by
        rw [List.length_drop]
        omega
      rw [positional_of_inside hpoint hinside]
      rwa [List.take_append_drop, hlength] at hplaces
    · have hplaces := hwrites _ ['0']
        (hdigits.append (allDigits_zeros (point.toNat - digits.length)))
        (List.append_ne_nil_of_left_ne_nil hne _) (allDigits_zeros 1)
      have hvalue : (digitsValue (digits ++ List.replicate (point.toNat - digits.length) '0' ++
          ['0']) : ℚ) * 10 ^ (-(['0'].length : Int)) =
            digitsValue digits * 10 ^ (point - digits.length) := by
        have hshift : point - digits.length = ((point.toNat - digits.length : ℕ) : Int) := by
          omega
        rw [digitsValue_append, digitsValue_append_zeros, hshift, zpow_natCast]
        simp [digitsValue]
        ring
      rw [positional_of_beyond hpoint hbeyond]
      rwa [hvalue] at hplaces

/-- The exponent of a text in scientific writing. -/
lemma exponent?_padded (e : Int) :
    let exponent := Text.ofNat e.natAbs
    Reading.exponent? ((if e < 0 then ("e-" : Text) else "e+") ++
      (List.replicate (2 - exponent.length) '0' ++ exponent)) = some e := by
  intro exponent
  have hdigits : AllDigits (List.replicate (2 - exponent.length) '0' ++ exponent) :=
    (allDigits_zeros _).append (isAsciiDigit_ofNat _)
  have hall : (List.replicate (2 - exponent.length) '0' ++ exponent).all Text.isAsciiDigit =
      true := List.all_eq_true.mpr hdigits
  have hne : (List.replicate (2 - exponent.length) '0' ++ exponent).isEmpty = false := by
    have := ofNat_ne_nil e.natAbs
    simp [exponent, this]
  have hvalue : digitsValue (List.replicate (2 - exponent.length) '0' ++ exponent) =
      e.natAbs := by
    rw [digitsValue_append, digitsValue_zeros, Nat.mul_zero, Nat.zero_add]
    exact digitsValue_ofNat _
  generalize List.replicate (2 - exponent.length) '0' ++ exponent = padded at *
  split
  · change Reading.exponent? ('e' :: '-' :: padded) = _
    simp only [Reading.exponent?, Reading.splitSign, hall, hne, hvalue, true_or, if_true,
      Bool.not_true, Bool.or_self, Bool.false_eq_true, if_false]
    congr 1
    omega
  · change Reading.exponent? ('e' :: '+' :: padded) = _
    simp only [Reading.exponent?, Reading.splitSign, hall, hne, hvalue, true_or, if_true,
      Bool.not_true, Bool.or_self, Bool.false_eq_true, if_false]
    congr 1
    omega

lemma scientific_writes {digits : Text} (hdigits : AllDigits digits) (hne : digits ≠ [])
    (point : Int) :
    Writes (Decimal.scientific digits point)
      (digitsValue digits * 10 ^ (point - digits.length)) := by
  have hexponent := exponent?_padded (point - 1)
  have hhead : ∀ t : Text, ((if point - 1 < 0 then ("e-" : Text) else "e+") ++ t).head? =
      some 'e' := by
    intro t
    split <;> rfl
  unfold Decimal.scientific
  dsimp only at hexponent ⊢
  rw [List.append_assoc _ (if point - 1 < 0 then _ else _)]
  generalize hpadded : List.replicate _ '0' ++ Text.ofNat (point - 1).natAbs = padded at *
  have hhead := hhead padded
  generalize (if point - 1 < 0 then ("e-" : Text) else "e+") ++ padded = tail at *
  cases digits with
  | nil => exact absurd rfl hne
  | cons c digits =>
    have hfirst : AllDigits [c] := hdigits.sublist (by simp)
    cases digits with
    | nil => exact writes_of_exponent hfirst (List.cons_ne_nil _ _) hhead hexponent
    | cons d digits =>
      have hnoDigit : NoDigitFirst tail := by
        intro x hx
        obtain rfl := Option.some.inj (hhead.symm.trans hx)
        decide
      have hwrites := writes_of_point hfirst (List.cons_ne_nil _ _)
        (hdigits.sublist (List.sublist_cons_self c _)) hnoDigit hexponent
      have hlength : point - 1 - ((d :: digits).length : Int) =
          point - (c :: d :: digits).length := by
        simp only [List.length_cons]
        push_cast
        ring
      rw [hlength] at hwrites
      exact hwrites

/-! ### Doubles -/

section

variable {b : Binary}

lemma pos_of_covers (hpos : 0 < b.mantissa) {q : ℚ} (h : b.Covers q) : 0 < q := by
  have hmantissa : (1 : ℚ) ≤ b.mantissa := by exact_mod_cast hpos
  obtain ⟨-, hgap⟩ := belowGap_le b
  have hlow : 0 < b.lowEnd := mul_pos (by linarith) (two_zpow_pos b.exponent)
  exact lt_of_lt_of_le hlow h.lowEnd_le

lemma digits_write (hb : b.Normal) (hpos : 0 < b.mantissa) :
    let r := Decimal.shortestDigits b.mantissa b.exponent
    let point := r.2 + (Text.ofNat r.1).length
    let digits := Decimal.dropFinalZeros (Text.ofNat r.1)
    ∃ q, b.Covers q ∧ Writes (Decimal.positional digits point) q ∧
      Writes (Decimal.scientific digits point) q := by
  have hcovers := shortestDigits_covers hb hpos
  dsimp only at hcovers ⊢
  generalize Decimal.shortestDigits b.mantissa b.exponent = r at hcovers ⊢
  have hvalue := digitsValue_dropFinalZeros (Text.ofNat r.1)
  rw [digitsValue_ofNat] at hvalue
  have hdigits := allDigits_dropFinalZeros (isAsciiDigit_ofNat r.1)
  have hne : Decimal.dropFinalZeros (Text.ofNat r.1) ≠ [] := by
    intro hnil
    have hzero : (r.1 : ℚ) = 0 := by
      rw [← hvalue, hnil]
      simp [digitsValue]
    have := pos_of_covers hpos hcovers
    rw [hzero, zero_mul] at this
    exact lt_irrefl _ this
  have hq : (digitsValue (Decimal.dropFinalZeros (Text.ofNat r.1)) : ℚ) *
      10 ^ (r.2 + (Text.ofNat r.1).length - (Decimal.dropFinalZeros (Text.ofNat r.1)).length) =
        r.1 * 10 ^ r.2 := by
    rw [← hvalue, mul_assoc, ← zpow_add₀ (by norm_num)]
    congr 2
    ring
  refine ⟨r.1 * 10 ^ r.2, hcovers, ?_, ?_⟩
  · rw [← hq]
    exact positional_writes hdigits hne _
  · rw [← hq]
    exact scientific_writes hdigits hne _

lemma mem_positional (digits : Text) (point : Int) : '.' ∈ Decimal.positional digits point := by
  unfold Decimal.positional
  split
  · exact List.mem_append_left _ (by decide)
  · exact List.mem_append_left _ (List.mem_append_right _ (List.mem_singleton_self _))

lemma mem_scientific (digits : Text) (point : Int) : 'e' ∈ Decimal.scientific digits point := by
  have hexponent : 'e' ∈ (if point - 1 < 0 then ("e-" : Text) else "e+") := by
    split <;> decide
  unfold Decimal.scientific
  exact List.mem_append_left _ (List.mem_append_right _ hexponent)

/-- The text of a finite double: a minus when it is negative, and a decimal with a point or an
exponent that only the double covers. -/
lemma shortest_eq {x : Float} (h : Binary.ofFloat? x = some b) :
    ∃ body q, Decimal.shortest x = (if b.negative then ['-'] else []) ++ body ∧ Writes body q ∧
      (b.mantissa = 0 ∧ q = 0 ∨ 0 < b.mantissa ∧ b.Covers q) ∧ ('.' ∈ body ∨ 'e' ∈ body) := by
  have hsign : (if b.negative then ("-" : Text) else "") = if b.negative then ['-'] else [] := rfl
  unfold Decimal.shortest
  rw [h]
  dsimp only
  rw [hsign]
  split
  · next hzero =>
    exact ⟨"0.0", 0, rfl, ⟨0, -1, rfl, by simp⟩, .inl ⟨hzero, rfl⟩, .inl (by decide)⟩
  · next hzero =>
    have hpos : 0 < b.mantissa := Nat.pos_of_ne_zero hzero
    have hwrite := digits_write (ofFloat?_eq_some h).1 hpos
    generalize Decimal.shortestDigits b.mantissa b.exponent = r at hwrite ⊢
    obtain ⟨d, k⟩ := r
    obtain ⟨q, hcovers, hpositional, hscientific⟩ := hwrite
    refine ⟨_, q, rfl, ?_⟩
    split
    · exact ⟨hpositional, .inr ⟨hpos, hcovers⟩, .inl (mem_positional _ _)⟩
    · exact ⟨hscientific, .inr ⟨hpos, hcovers⟩, .inr (mem_scientific _ _)⟩

lemma not_writes_minus {t : Text} {q : ℚ} : ¬Writes ('-' :: t) q := by
  rintro ⟨n, e, h, -⟩
  simp [decimal?, Text.isAsciiDigit] at h

end

lemma shortest_injective {x y : Float} {b c : Binary} (hx : Binary.ofFloat? x = some b)
    (hy : Binary.ofFloat? y = some c) (h : Decimal.shortest x = Decimal.shortest y) : x = y := by
  obtain ⟨hb, -⟩ := ofFloat?_eq_some hx
  obtain ⟨hc, -⟩ := ofFloat?_eq_some hy
  obtain ⟨body, q, hbody, hwrites, hq, -⟩ := shortest_eq hx
  obtain ⟨body', q', hbody', hwrites', hq', -⟩ := shortest_eq hy
  rw [hbody, hbody'] at h
  have hnegative : b.negative = c.negative ∧ body = body' := by
    cases hn : b.negative <;> cases hn' : c.negative <;>
      simp only [hn, hn', Bool.false_eq_true, if_false, if_true, List.nil_append,
        List.singleton_append, List.cons.injEq, true_and] at h
    · exact ⟨rfl, h⟩
    · exact absurd (h ▸ hwrites) not_writes_minus
    · exact absurd (h ▸ hwrites') not_writes_minus
    · exact ⟨rfl, h⟩
  obtain ⟨hsign, rfl⟩ := hnegative
  obtain rfl := hwrites.unique hwrites'
  have hparts : b.mantissa = c.mantissa ∧ b.exponent = c.exponent := by
    obtain ⟨hzero, hq⟩ | ⟨hpos, hcovers⟩ := hq
    · obtain ⟨hzero', -⟩ | ⟨hpos', hcovers'⟩ := hq'
      · have hleast : ∀ {b : Binary}, b.Normal → b.mantissa = 0 → b.exponent = -1074 := by
          intro b hb hzero
          have := hb.exponent_ge
          have := hb.mantissa_ge
          omega
        exact ⟨hzero.trans hzero'.symm, (hleast hb hzero).trans (hleast hc hzero').symm⟩
      · exact absurd (pos_of_covers hpos' hcovers') (hq ▸ lt_irrefl _)
    · obtain ⟨hzero', hq'⟩ | ⟨hpos', hcovers'⟩ := hq'
      · exact absurd (pos_of_covers hpos hcovers) (hq' ▸ lt_irrefl _)
      · exact parts_eq_of_covers hb hc hcovers hcovers'
  have hbc : b = c := by
    cases b
    cases c
    simp_all
  exact ofFloat?_injective hx (hbc ▸ hy)

/-- The names of what is no finite double, without a minus. -/
def nonFiniteNames : List Text := ["Infinity", "-Infinity", "NaN"]

lemma writeReal_mem_nonFiniteNames {x : Float} (h : Binary.ofFloat? x = none) :
    Json.writeReal x ∈ nonFiniteNames := by
  obtain rfl | rfl | rfl := nonFinite_cases h <;> decide

lemma writeReal_eq_shortest {x : Float} {b : Binary} (h : Binary.ofFloat? x = some b) :
    Json.writeReal x = Decimal.shortest x := by
  obtain ⟨-, hfinite, -⟩ := ofFloat?_eq_some h
  rw [isFinite_eq, Bool.and_eq_true, Bool.not_eq_true', Bool.not_eq_true'] at hfinite
  rw [Json.writeReal, hfinite.1, hfinite.2]
  rfl

lemma shortest_not_mem_nonFiniteNames {x : Float} {b : Binary}
    (h : Binary.ofFloat? x = some b) : Decimal.shortest x ∉ nonFiniteNames := by
  have hnames : ∀ t ∈ nonFiniteNames, decimal? t = none ∧ decimal? (t.drop 1) = none := by decide
  intro hmem
  obtain ⟨body, q, hbody, ⟨n, e, hread, -⟩, -⟩ := shortest_eq h
  obtain ⟨hnone, hnone'⟩ := hnames _ hmem
  rw [hbody] at hnone hnone'
  cases hnegative : b.negative with
  | false =>
    rw [hnegative] at hnone
    exact absurd (hread.symm.trans hnone) (by simp)
  | true =>
    rw [hnegative] at hnone'
    exact absurd (hread.symm.trans hnone') (by simp)

lemma writeReal_injective : Function.Injective Json.writeReal := by
  intro x y h
  cases hx : Binary.ofFloat? x with
  | some b =>
    rw [writeReal_eq_shortest hx] at h
    cases hy : Binary.ofFloat? y with
    | some c => exact shortest_injective hx hy (by rwa [writeReal_eq_shortest hy] at h)
    | none =>
      exact absurd (h ▸ writeReal_mem_nonFiniteNames hy) (shortest_not_mem_nonFiniteNames hx)
  | none =>
    cases hy : Binary.ofFloat? y with
    | some c =>
      rw [writeReal_eq_shortest hy] at h
      exact absurd (h ▸ writeReal_mem_nonFiniteNames hx) (shortest_not_mem_nonFiniteNames hy)
    | none =>
      obtain rfl | rfl | rfl := nonFinite_cases hx <;>
        obtain rfl | rfl | rfl := nonFinite_cases hy <;>
          first | rfl | exact absurd h (by decide)

/-! ### Whole numbers and doubles -/

/-- The characters of whole numbers. -/
def isWholeChar (c : Char) : Bool := c = '-' || Text.isAsciiDigit c

lemma isWholeChar_ofInt (n : Int) : ∀ c ∈ Text.ofInt n, isWholeChar c = true := by
  have hdigits : ∀ n, ∀ c ∈ Text.ofNat n, isWholeChar c = true := by
    intro n c hc
    rw [isWholeChar, isAsciiDigit_ofNat n c hc, Bool.or_true]
  cases n with
  | ofNat n => exact hdigits n
  | negSucc n => exact List.forall_mem_cons.mpr ⟨by decide, hdigits (n + 1)⟩

lemma exists_mem_writeReal (x : Float) : ∃ c ∈ Json.writeReal x, isWholeChar c = false := by
  cases hx : Binary.ofFloat? x with
  | none =>
    have hnames : nonFiniteNames.all (·.any (!isWholeChar ·)) = true := by decide
    obtain ⟨c, hc, hwhole⟩ := List.any_eq_true.mp
      (List.all_eq_true.mp hnames _ (writeReal_mem_nonFiniteNames hx))
    exact ⟨c, hc, by simpa using hwhole⟩
  | some b =>
    obtain ⟨body, q, hbody, -, -, hmem⟩ := shortest_eq hx
    rw [writeReal_eq_shortest hx, hbody]
    exact hmem.elim (fun h => ⟨'.', List.mem_append_right _ h, by decide⟩)
      fun h => ⟨'e', List.mem_append_right _ h, by decide⟩

lemma ofInt_ne_writeReal (n : Int) (x : Float) : Text.ofInt n ≠ Json.writeReal x := by
  obtain ⟨c, hc, hnot⟩ := exists_mem_writeReal x
  intro h
  rw [isWholeChar_ofInt n c (h ▸ hc)] at hnot
  cases hnot

/-- The first characters of numbers. -/
def isNumberStart (c : Char) : Bool :=
  c = '-' || c = '.' || c = 'I' || c = 'N' || Text.isAsciiDigit c

lemma isNumberStart_of_digit {c : Char} (h : Text.isAsciiDigit c = true) :
    isNumberStart c = true := by
  rw [isNumberStart, h, Bool.or_true]

lemma ofInt_head (n : Int) : ∃ c ∈ (Text.ofInt n).head?, isNumberStart c = true := by
  cases n with
  | ofNat n =>
    obtain ⟨c, r, hr⟩ := List.exists_cons_of_ne_nil (ofNat_ne_nil n)
    change ∃ c ∈ (Text.ofNat n).head?, _
    have hdigit := isAsciiDigit_ofNat n c (hr ▸ List.mem_cons_self)
    exact ⟨c, hr ▸ rfl, isNumberStart_of_digit hdigit⟩
  | negSucc n => exact ⟨'-', rfl, by decide⟩

lemma writes_head {t : Text} {q : ℚ} (h : Writes t q) :
    ∃ c ∈ t.head?, isNumberStart c = true := by
  obtain ⟨n, e, h, -⟩ := h
  cases t with
  | nil => cases h
  | cons c r =>
    refine ⟨c, rfl, ?_⟩
    by_contra hstart
    simp only [isNumberStart, Bool.or_eq_true, decide_eq_true_eq, not_or,
      Bool.not_eq_true] at hstart
    obtain ⟨⟨⟨⟨-, hpoint⟩, -⟩, -⟩, hdigit⟩ := hstart
    simp [decimal?, hdigit, hpoint] at h

lemma writeReal_head (x : Float) : ∃ c ∈ (Json.writeReal x).head?, isNumberStart c = true := by
  cases hx : Binary.ofFloat? x with
  | none =>
    have hnames : nonFiniteNames.all (·.head?.any isNumberStart) = true := by decide
    exact (Option.any_eq_true _ _).mp
      (List.all_eq_true.mp hnames _ (writeReal_mem_nonFiniteNames hx))
  | some b =>
    obtain ⟨body, q, hbody, hwrites, -⟩ := shortest_eq hx
    rw [writeReal_eq_shortest hx, hbody]
    cases b.negative with
    | true => exact ⟨'-', rfl, by decide⟩
    | false => exact writes_head hwrites

end SourceGrade.Proofs
