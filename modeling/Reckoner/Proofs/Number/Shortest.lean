import Reckoner.Number.Shortest
import Reckoner.Proofs.Number.Nearest

/-!
# Reckoner — decimals that read back

The decimal that a number is written as reads as that number, whether it was found among the short
ones or has all digits of the number (`toFloat_decimalOf`). What a decimal reads as depends on its
sign by the sign only, so a number with a minus sign is read back as well
(`ofScientific_decimalOf`).
-/

namespace Reckoner.Number

open Magnitude

variable {x : Float}

-- ---------------------------------------------------------------------------
-- Powers of ten
-- ---------------------------------------------------------------------------

theorem bits_le_infinityBits (m : Magnitude) : m.bits ≤ infinityBits := Nat.min_le_right ..

/-- Digits and a power of ten fix what stands below the sign. -/
theorem ofScientific_eq_ofBits (digits : Nat) (exponent : Int) :
    ∃ bits ≤ infinityBits, ∀ negative,
      ofScientific negative digits exponent = ofBits negative bits := by
  unfold ofScientific
  split
  · exact ⟨0, Nat.zero_le _, fun _ => rfl⟩
  split
  · exact ⟨infinityBits, Nat.le_refl _, fun _ => rfl⟩
  split
  · exact ⟨_, bits_le_infinityBits _, fun _ => rfl⟩
  · exact ⟨_, bits_le_infinityBits _, fun _ => rfl⟩

/-- Digits that are not too many places behind the point are rounded once. -/
theorem ofScientific_places {digits places : Nat} (hdigits : digits ≠ 0)
    (hplaces : places ≤ 400 + digits.log2) (negative : Bool) :
    ofScientific negative digits (-places) = nearest negative digits (10 ^ places) := by
  unfold ofScientific
  rw [if_neg (by omega), if_neg (by omega)]
  cases places with
  | zero =>
    show nearest negative (digits * 1) 1 = nearest negative digits 1
    rw [Nat.mul_one]
  | succ places =>
    rw [if_neg (by omega), Int.neg_neg]
    rfl

-- ---------------------------------------------------------------------------
-- All digits of a number
-- ---------------------------------------------------------------------------

/-- All digits of a magnitude are just the magnitude. -/
theorem exactDecimal_exact (m : Magnitude) :
    m.Exact (exactDecimal m).digits (10 ^ (exactDecimal m).places) := by
  unfold exactDecimal
  generalize hleast : leastExponent = least
  split
  · next h =>
    refine ⟨Nat.one_pos, ?_⟩
    show m.significand * 2 ^ (m.scale - least) * 2 ^ leastExponent = m.significand * 2 ^ m.scale * 1
    rw [hleast, Nat.mul_assoc, ← Nat.pow_add, Nat.sub_add_cancel h, Nat.mul_one]
  · next h =>
    refine ⟨Nat.pow_pos (by decide), ?_⟩
    show m.significand * 5 ^ (least - m.scale) * 2 ^ leastExponent =
      m.significand * 2 ^ m.scale * (5 * 2) ^ (least - m.scale)
    have hpow : 2 ^ least = 2 ^ m.scale * 2 ^ (least - m.scale) := by
      rw [← Nat.pow_add, Nat.add_sub_cancel' (Nat.le_of_not_le h)]
    rw [hleast, hpow, Nat.mul_pow]
    ac_rfl

/-- They are never too many for the reader. -/
theorem exactDecimal_places_le {m : Magnitude} (hm : m.Fits) :
    (exactDecimal m).places ≤ (exactDecimal m).digits.log2 := by
  unfold exactDecimal
  generalize leastExponent = least
  split
  · exact Nat.zero_le _
  · refine (Nat.le_log2 (Nat.ne_of_gt (Nat.mul_pos hm.pos (Nat.pow_pos (by decide))))).2 ?_
    calc 2 ^ (least - m.scale)
      _ ≤ 5 ^ (least - m.scale) := Nat.pow_le_pow_left (by decide) _
      _ ≤ m.significand * Nat.pow 5 (least - m.scale) := Nat.le_mul_of_pos_left _ hm.pos

theorem toFloat_exactDecimal (hfinite : x.isFinite) (hzero : unsignedBits x ≠ 0) :
    (exactDecimal (magnitude x)).toFloat = ofBits false (unsignedBits x) := by
  have hm : (magnitude x).Fits := Magnitude.fits_ofBits hzero
  have hexact := exactDecimal_exact (magnitude x)
  have hplaces := exactDecimal_places_le hm
  unfold Decimal.toFloat
  rw [ofScientific_places (hexact.num_ne_zero hm) (by omega), nearest_exact hfinite hzero hexact]

-- ---------------------------------------------------------------------------
-- The decimal of a number
-- ---------------------------------------------------------------------------

theorem quotient_eq_zero {bits : Nat} (h : (Magnitude.ofBits bits).quotient.1 = 0) : bits = 0 := by
  refine Decidable.byContradiction fun hzero => ?_
  have hpos := (Magnitude.fits_ofBits hzero).pos
  unfold Magnitude.quotient at h
  split at h
  · exact Nat.ne_of_gt (Nat.mul_pos hpos (Nat.two_pow_pos _)) h
  · exact Nat.ne_of_gt hpos h

/-- **The decimal of a number reads as that number.** -/
theorem toFloat_decimalOf (hfinite : x.isFinite) (hsign : isNegative x = false) :
    (decimalOf x).toFloat = x := by
  have hx : ofBits false (unsignedBits x) = x :=
    hsign ▸ ofBits_bits (Nat.le_of_lt ((isFinite_iff x).1 hfinite))
  unfold decimalOf
  simp only
  split
  · next hnum =>
    have hzero : unsignedBits x = 0 := quotient_eq_zero hnum
    rw [hzero] at hx
    exact hx
  · next hnum =>
    have hzero : unsignedBits x ≠ 0 := fun hzero => hnum (by rw [magnitude, hzero]; rfl)
    cases hshort : (List.range' 1 17).findSome? _ with
    | none =>
      rw [Option.getD_none, toFloat_exactDecimal hfinite hzero, hx]
    | some d =>
      obtain ⟨count, -, hfound⟩ := List.exists_of_findSome?_eq_some hshort
      have hread := List.find?_some hfound
      exact of_decide_eq_true hread

/-- A number is written without its sign. -/
theorem toFloat_decimalOf_abs (hfinite : x.isFinite) : (decimalOf x.abs).toFloat = x.abs := by
  obtain ⟨hsign, hbits⟩ := bits_abs (Nat.le_of_lt ((isFinite_iff x).1 hfinite))
  exact toFloat_decimalOf ((isFinite_iff _).2 (by rwa [hbits, ← isFinite_iff])) hsign

/-- A number is read back from its decimal and its sign. -/
theorem ofScientific_decimalOf (hfinite : x.isFinite) :
    ofScientific (isNegative x) (decimalOf x.abs).digits (-(decimalOf x.abs).places) = x := by
  have hle : unsignedBits x ≤ infinityBits := Nat.le_of_lt ((isFinite_iff x).1 hfinite)
  obtain ⟨bits, hroom, hany⟩ :=
    ofScientific_eq_ofBits (decimalOf x.abs).digits (-(decimalOf x.abs).places)
  have hsame : unsignedBits x = bits := by
    rw [← (bits_abs hle).2, ← toFloat_decimalOf_abs hfinite, Decimal.toFloat, hany,
      (bits_ofBits false hroom).2]
  rw [hany, ← hsame, ofBits_bits hle]

end Reckoner.Number
