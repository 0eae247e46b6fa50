import SourceGrade.Proofs.ShortestDecimal

/-!
# The parts of doubles

A finite double is known by its parts. The others are the two infinities and the one value that is no
number.
-/

namespace SourceGrade.Proofs

/-! ### Doubles by their bits -/

lemma toBits_injective : Function.Injective Float.toBits := by
  intro x y h
  obtain ⟨⟨bits, valid⟩⟩ := x
  obtain ⟨⟨bits', valid'⟩⟩ := y
  obtain rfl : bits = bits' := h
  rfl

lemma toBits_toNat_injective {x y : Float} (h : x.toBits.toNat = y.toBits.toNat) : x = y :=
  toBits_injective (UInt64.toNat_inj.mp h)

section

open Float.Model.UnpackedFloat
open Float.Model (Format)

lemma unpackExponent_eq_iff (bits : UInt64) :
    @unpackExponent Format.binary64 bits.toBitVec = -1#_ ↔
      bits.toNat / 2 ^ 52 % 2 ^ 11 = 2047 := by
  have hnat : (@unpackExponent Format.binary64 bits.toBitVec).toNat =
      bits.toNat / 2 ^ 52 % 2 ^ 11 := by
    simp [unpackExponent, Nat.shiftRight_eq_div_pow]
  rw [← hnat, ← BitVec.toNat_inj]
  rfl

lemma unpackMantissa_eq_iff (bits : UInt64) :
    @unpackMantissa Format.binary64 bits.toBitVec = 0#_ ↔ bits.toNat % 2 ^ 52 = 0 := by
  have hnat : (@unpackMantissa Format.binary64 bits.toBitVec).toNat = bits.toNat % 2 ^ 52 := by
    simp [unpackMantissa]
  rw [← hnat, ← BitVec.toNat_inj]
  rfl

lemma isFinite_of_field {x : Float} (h : x.toBits.toNat / 2 ^ 52 % 2 ^ 11 ≠ 2047) :
    x.isFinite = true :=
  isFinite_unpack fun heq => h ((unpackExponent_eq_iff x.toBits).mp heq)

/-- There is only one value that is no number. -/
lemma toBits_of_field {x : Float} (h : x.toBits.toNat / 2 ^ 52 % 2 ^ 11 = 2047)
    (hfraction : x.toBits.toNat % 2 ^ 52 ≠ 0) : x.toBits.toNat = 0x7FF8000000000000 := by
  have hvalid := x.toModel.valid.eq_packedNaN ((unpackExponent_eq_iff x.toBits).mpr h)
    fun heq => hfraction ((unpackMantissa_eq_iff x.toBits).mp heq)
  exact congrArg BitVec.toNat hvalid

lemma isFinite_eq (x : Float) : x.isFinite = (!x.isNaN && !x.isInf) := by
  change x.toModel.unpack.isFinite = (!x.toModel.unpack.isNaN && !x.toModel.unpack.isInf)
  cases x.toModel.unpack <;> rfl

end

/-! ### Finite doubles -/

lemma nonFinite_cases {x : Float} (h : Binary.ofFloat? x = none) :
    x = Float.ofBits 0x7FF0000000000000 ∨ x = Float.ofBits 0xFFF0000000000000 ∨
      x = Float.ofBits 0x7FF8000000000000 := by
  have hlt : x.toBits.toNat < 2 ^ 64 := x.toBits.toNat_lt
  have hfield : x.toBits.toNat / 2 ^ 52 % 2 ^ 11 = 2047 := by
    unfold Binary.ofFloat? at h
    dsimp only at h
    split at h
    · next hfield => exact hfield
    · split at h <;> cases h
  by_cases hfraction : x.toBits.toNat % 2 ^ 52 = 0
  · have hsign : x.toBits.toNat = 0x7FF0000000000000 ∨ x.toBits.toNat = 0xFFF0000000000000 := by
      omega
    exact hsign.imp toBits_toNat_injective (fun h => .inl (toBits_toNat_injective h))
  · exact .inr (.inr (toBits_toNat_injective (toBits_of_field hfield hfraction)))

lemma ofFloat?_eq_some {x : Float} {b : Binary} (h : Binary.ofFloat? x = some b) :
    b.Normal ∧ x.isFinite = true ∧
      x.toBits.toNat = (if b.negative then 2 ^ 63 else 0) +
        (if b.mantissa < 2 ^ 52 then 0 else (b.exponent + 1075).toNat * 2 ^ 52) +
          b.mantissa % 2 ^ 52 := by
  have hlt : x.toBits.toNat < 2 ^ 64 := x.toBits.toNat_lt
  have hsign : (if x.toBits.toNat / twoTo 63 == 1 then 2 ^ 63 else 0) =
      x.toBits.toNat / 2 ^ 63 * 2 ^ 63 := by
    change (if x.toBits.toNat / 2 ^ 63 == 1 then 2 ^ 63 else 0) = _
    split
    · next hone =>
      rw [beq_iff_eq.mp hone, Nat.one_mul]
    · next hone =>
      have : x.toBits.toNat / 2 ^ 63 ≠ 1 := fun heq => hone (beq_iff_eq.mpr heq)
      omega
  have hfraction : x.toBits.toNat % twoTo 52 = x.toBits.toNat % 2 ^ 52 := rfl
  have hfield : x.toBits.toNat / twoTo 52 % twoTo 11 = x.toBits.toNat / 2 ^ 52 % 2 ^ 11 := rfl
  have htwo : twoTo 52 = 2 ^ 52 := rfl
  unfold Binary.ofFloat? at h
  dsimp only at h
  rw [hfraction, hfield, htwo] at h
  split at h
  · cases h
  · next hfinite =>
    refine ⟨?_, isFinite_of_field hfinite, ?_⟩
    · split at h
      · obtain rfl := Option.some.inj h
        exact ⟨by dsimp only; omega, by dsimp only; omega, by dsimp only; omega,
          fun hlt => absurd hlt (by dsimp only; omega)⟩
      · obtain rfl := Option.some.inj h
        exact ⟨by dsimp only; omega, by dsimp only; omega, by dsimp only; omega,
          fun _ => by dsimp only; omega⟩
    · split at h
      · obtain rfl := Option.some.inj h
        dsimp only
        rw [hsign, if_pos (by omega)]
        omega
      · obtain rfl := Option.some.inj h
        dsimp only
        rw [hsign, if_neg (by omega)]
        omega

lemma ofFloat?_injective {x y : Float} {b : Binary} (hx : Binary.ofFloat? x = some b)
    (hy : Binary.ofFloat? y = some b) : x = y :=
  toBits_toNat_injective
    ((ofFloat?_eq_some hx).2.2.trans (ofFloat?_eq_some hy).2.2.symm)

end SourceGrade.Proofs
