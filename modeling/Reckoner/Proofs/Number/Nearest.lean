import Reckoner.Number.Decimal
import Reckoner.Proofs.Number.Bits

/-!
# Reckoner — a number is the closest to itself

A quotient that is just the size of a number needs no rounding: of all numbers, that one is the
closest to it (`nearest_exact`). The scale of a number is the only one at which its significand
fills the bits there are for it, and that is how the scale is found (`Exact.least_le`,
`Exact.le_least`).
-/

namespace Reckoner.Number

namespace Magnitude

/-- A magnitude as numbers have it, but for zero: the significand fills its bits, or the scale is
the least. -/
structure Fits (m : Magnitude) : Prop where
  pos : 0 < m.significand
  room : m.significand < 2 ^ 53
  full : m.scale = 0 ∨ 2 ^ 52 ≤ m.significand

/-- A quotient that is just a magnitude. -/
structure Exact (m : Magnitude) (num den : Nat) : Prop where
  den_pos : 0 < den
  worth : num * 2 ^ leastExponent = m.significand * 2 ^ m.scale * den

end Magnitude

open Magnitude

variable {m : Magnitude} {num den : Nat}

-- ---------------------------------------------------------------------------
-- Quotients at a scale
-- ---------------------------------------------------------------------------

/-- A quotient with the steps of a scale as its unit. -/
def scaled (num den scale : Nat) : Nat × Nat :=
  if leastExponent ≤ scale then (num, den * Nat.pow 2 (scale - leastExponent))
  else (num * Nat.pow 2 (leastExponent - scale), den)

/-- The scale at which the search for that of a quotient starts. -/
def startScale (num den : Nat) : Nat := num.log2 + leastExponent - den.log2 - fractionBits - 1

/-- The search tries two scales. -/
theorem nearestMagnitude_eq (hnum : num ≠ 0) :
    nearestMagnitude num den =
      let start := startScale num den
      let scale := if (scaled num den start).1 / (scaled num den start).2 < 2 ^ 53 then start
        else start + 1
      ⟨roundHalfEven (scaled num den scale).1 (scaled num den scale).2, scale⟩ := by
  unfold nearestMagnitude
  rw [if_neg hnum]
  rfl

/-- A quotient is worth the same at every scale. -/
theorem scaled_worth (num den scale : Nat) :
    (scaled num den scale).1 * 2 ^ scale * den =
      num * 2 ^ leastExponent * (scaled num den scale).2 := by
  unfold scaled
  generalize leastExponent = least
  split
  · next h =>
    have hpow : 2 ^ scale = 2 ^ (scale - least) * 2 ^ least := by
      rw [← Nat.pow_add, Nat.sub_add_cancel h]
    show num * 2 ^ scale * den = num * 2 ^ least * (den * 2 ^ (scale - least))
    rw [hpow]
    ac_rfl
  · next h =>
    have hpow : 2 ^ least = 2 ^ (least - scale) * 2 ^ scale := by
      rw [← Nat.pow_add, Nat.sub_add_cancel (Nat.le_of_not_le h)]
    show num * 2 ^ (least - scale) * 2 ^ scale * den = num * 2 ^ least * den
    rw [hpow]
    ac_rfl

theorem scaled_pos (hden : 0 < den) (num scale : Nat) : 0 < (scaled num den scale).2 := by
  unfold scaled
  split
  · exact Nat.mul_pos hden (Nat.two_pow_pos _)
  · exact hden

/-- A whole number is not rounded. -/
theorem roundHalfEven_exact {d : Nat} (hd : 0 < d) (q : Nat) : roundHalfEven (q * d) d = q := by
  unfold roundHalfEven
  rw [Nat.mul_mod_left, Nat.mul_div_cancel q hd, Nat.mul_zero, Nat.compare_eq_lt.2 hd]

namespace Magnitude

/-- At any scale, a quotient is still the magnitude. -/
theorem Exact.scaled (h : m.Exact num den) (scale : Nat) :
    (scaled num den scale).1 * 2 ^ scale =
      m.significand * 2 ^ m.scale * (Number.scaled num den scale).2 := by
  have hworth := scaled_worth num den scale
  rw [h.worth] at hworth
  exact Nat.eq_of_mul_eq_mul_right h.den_pos (hworth.trans (Nat.mul_right_comm _ _ _))

/-- At its own scale, it is a whole number of steps. -/
theorem Exact.scaled_scale (h : m.Exact num den) :
    (Number.scaled num den m.scale).1 = m.significand * (Number.scaled num den m.scale).2 :=
  Nat.eq_of_mul_eq_mul_right (Nat.two_pow_pos _)
    ((h.scaled m.scale).trans (Nat.mul_right_comm _ _ _))

theorem Exact.num_ne_zero (h : m.Exact num den) (hm : m.Fits) : num ≠ 0 := by
  rintro rfl
  have hpos := Nat.mul_pos (Nat.mul_pos hm.pos (Nat.two_pow_pos m.scale)) h.den_pos
  rw [← h.worth, Nat.zero_mul] at hpos
  exact Nat.lt_irrefl 0 hpos

/-- The search starts at the scale of the magnitude or below it, -/
theorem Exact.startScale_le (h : m.Exact num den) (hm : m.Fits) :
    startScale num den ≤ m.scale := by
  have hlow : 2 ^ (num.log2 + leastExponent) < 2 ^ (53 + m.scale + (den.log2 + 1)) :=
    calc 2 ^ (num.log2 + leastExponent)
      _ = 2 ^ num.log2 * 2 ^ leastExponent := Nat.pow_add ..
      _ ≤ num * 2 ^ leastExponent := Nat.mul_le_mul_right _ (Nat.log2_self_le (h.num_ne_zero hm))
      _ = m.significand * 2 ^ m.scale * den := h.worth
      _ < 2 ^ 53 * 2 ^ m.scale * 2 ^ (den.log2 + 1) :=
        Nat.mul_lt_mul'' (Nat.mul_lt_mul_of_pos_right hm.room (Nat.two_pow_pos _)) Nat.lt_log2_self
      _ = 2 ^ (53 + m.scale + (den.log2 + 1)) := by
        rw [Nat.pow_add 2 (53 + m.scale), Nat.pow_add 2 53]
  have := (Nat.pow_lt_pow_iff_right (by decide)).1 hlow
  unfold startScale fractionBits
  omega

/-- and at most one below. -/
theorem Exact.le_startScale (h : m.Exact num den) (hm : m.Fits) :
    m.scale ≤ startScale num den + 1 := by
  rcases hm.full with hzero | hfull
  · omega
  have hhigh : 2 ^ (52 + m.scale + den.log2) < 2 ^ (num.log2 + 1 + leastExponent) :=
    calc 2 ^ (52 + m.scale + den.log2)
      _ = 2 ^ 52 * 2 ^ m.scale * 2 ^ den.log2 := by rw [Nat.pow_add, Nat.pow_add]
      _ ≤ m.significand * 2 ^ m.scale * den :=
        Nat.mul_le_mul (Nat.mul_le_mul_right _ hfull) (Nat.log2_self_le (Nat.ne_of_gt h.den_pos))
      _ = num * 2 ^ leastExponent := h.worth.symm
      _ < 2 ^ (num.log2 + 1) * 2 ^ leastExponent :=
        Nat.mul_lt_mul_of_pos_right Nat.lt_log2_self (Nat.two_pow_pos _)
      _ = 2 ^ (num.log2 + 1 + leastExponent) := (Nat.pow_add ..).symm
  have := (Nat.pow_lt_pow_iff_right (by decide)).1 hhigh
  unfold startScale fractionBits
  omega

/-- The scale that is found is that of the magnitude. -/
theorem Exact.scale_eq (h : m.Exact num den) (hm : m.Fits) :
    (if (Number.scaled num den (startScale num den)).1 /
      (Number.scaled num den (startScale num den)).2 < 2 ^ 53 then startScale num den
      else startScale num den + 1) = m.scale := by
  have hworth := h.scaled (startScale num den)
  have hd := scaled_pos h.den_pos num (startScale num den)
  rcases Nat.lt_or_eq_of_le (h.startScale_le hm) with hlt | heq
  · -- one below it, the significand has a bit too many
    have hscale : m.scale = startScale num den + 1 := Nat.le_antisymm (h.le_startScale hm) hlt
    have hnum : (Number.scaled num den (startScale num den)).1 =
        2 * m.significand * (Number.scaled num den (startScale num den)).2 := by
      refine Nat.eq_of_mul_eq_mul_right (Nat.two_pow_pos (startScale num den)) (hworth.trans ?_)
      rw [hscale, Nat.pow_succ]
      ac_rfl
    have hfull := hm.full.resolve_left (by omega)
    rw [hnum, Nat.mul_div_cancel _ hd, if_neg (by omega), hscale]
  · rw [heq, h.scaled_scale, Nat.mul_div_cancel _ (scaled_pos h.den_pos num m.scale),
      if_pos hm.room]

end Magnitude

/-- The magnitude closest to a quotient that is one is this one. -/
theorem nearestMagnitude_exact (h : m.Exact num den) (hm : m.Fits) :
    nearestMagnitude num den = m := by
  rw [nearestMagnitude_eq (h.num_ne_zero hm)]
  simp only [h.scale_eq hm]
  rw [h.scaled_scale, roundHalfEven_exact (scaled_pos h.den_pos num m.scale)]

-- ---------------------------------------------------------------------------
-- The sizes of numbers
-- ---------------------------------------------------------------------------

namespace Magnitude

theorem fits_ofBits {bits : Nat} (h : bits ≠ 0) : (ofBits bits).Fits := by
  have hscale : (ofBits bits).scale = bits / 2 ^ 52 - 1 := rfl
  have hsignificand : (ofBits bits).significand = bits - (bits / 2 ^ 52 - 1) * 2 ^ 52 := rfl
  refine ⟨?_, ?_, ?_⟩ <;> omega

/-- The bits of a magnitude are the ones that it was made of. -/
theorem bits_ofBits {bits : Nat} (h : bits ≤ infinityBits) : (ofBits bits).bits = bits := by
  have hbits : (ofBits bits).bits =
      min ((bits / 2 ^ 52 - 1) * 2 ^ 52 + (bits - (bits / 2 ^ 52 - 1) * 2 ^ 52)) infinityBits := rfl
  rw [hbits, Nat.add_sub_cancel' (by omega), Nat.min_eq_left h]

end Magnitude

/-- **A number is the closest to its own size**, for either sign. -/
theorem nearest_exact {x : Float} (hfinite : x.isFinite) (hzero : unsignedBits x ≠ 0)
    (h : (magnitude x).Exact num den) (negative : Bool) :
    nearest negative num den = ofBits negative (unsignedBits x) := by
  unfold nearest
  rw [nearestMagnitude_exact h (Magnitude.fits_ofBits hzero), magnitude,
    Magnitude.bits_ofBits (Nat.le_of_lt ((isFinite_iff x).1 hfinite))]

end Reckoner.Number
