import Reckoner.Proofs.Number.Bits

/-!
# Reckoner — the order of numbers

The sign of a number and the bits below it make a whole number, its **rank**. Apart from the
number that is no number, numbers stand in the order of their ranks (`le_iff`, `lt_iff`), and two
of the same rank are the same, but for the zeros of either sign (`eq_of_rank_eq`).
-/

namespace Reckoner.Number

open Float.Model Float.Model.UnpackedFloat

-- ---------------------------------------------------------------------------
-- Comparing by bits
-- ---------------------------------------------------------------------------

/-- A whole number by its sign and size. -/
def signed (negative : Bool) (size : Nat) : Int := (signOf negative).apply size

theorem signed_false (size : Nat) : signed false size = size := rfl

theorem signed_true (size : Nat) : signed true size = -size := rfl

/-- A sign takes a size no further from zero. -/
theorem signed_bounds (negative : Bool) (size : Nat) :
    -(size : Int) ≤ signed negative size ∧ signed negative size ≤ size := by
  cases negative
  · rw [signed_false]
    omega
  · rw [signed_true]
    omega

/-- Whole numbers below zero are compared the other way round. -/
theorem compare_neg_neg (a b : Int) : compare (-a) (-b) = (compare a b).swap := by
  rw [Int.compare_swap]
  rcases Int.lt_trichotomy a b with h | rfl | h
  · rw [Int.compare_eq_gt.2 h, Int.compare_eq_gt.2 (Int.neg_lt_neg h)]
  · rw [Int.compare_eq_eq.2 rfl, Int.compare_eq_eq.2 rfl]
  · rw [Int.compare_eq_lt.2 h, Int.compare_eq_lt.2 (Int.neg_lt_neg h)]

/-- Two finite magnitudes are compared by their exponents, and then by their significands: that
is by their bits. -/
theorem compare_magnitudes {m m' bits bits' : Nat} {e e' : Int}
    (hbits : (bits : Int) = (e + 1074) * 2 ^ 52 + m)
    (hbits' : (bits' : Int) = (e' + 1074) * 2 ^ 52 + m') (hroom : m < 2 ^ 53) (hroom' : m' < 2 ^ 53)
    (hlow : -1074 ≤ e) (hlow' : -1074 ≤ e') (hfull : 2 ^ 52 ≤ m ∨ e = -1074)
    (hfull' : 2 ^ 52 ≤ m' ∨ e' = -1074) :
    (compare e e').then (compare m m') = compare (bits : Int) bits' := by
  rcases Int.lt_trichotomy e e' with h | rfl | h
  · -- the significand of the greater exponent fills its bits
    rw [Int.compare_eq_lt.2 h, Int.compare_eq_lt.2 (by omega)]
    rfl
  · rw [Int.compare_eq_eq.2 rfl]
    rcases Nat.lt_trichotomy m m' with h | rfl | h
    · rw [Nat.compare_eq_lt.2 h, Int.compare_eq_lt.2 (by omega)]
      rfl
    · rw [Nat.compare_eq_eq.2 rfl, Int.compare_eq_eq.2 (by omega)]
      rfl
    · rw [Nat.compare_eq_gt.2 h, Int.compare_eq_gt.2 (by omega)]
      rfl
  · rw [Int.compare_eq_gt.2 h, Int.compare_eq_gt.2 (by omega)]
    rfl

/-- **Numbers are compared by sign and bits**, unless one of them is no number. -/
theorem Decodes.compare {n n' : Bool} {bits bits' : Nat} {u u' : UnpackedFloat}
    (h : Decodes (signOf n) bits u) (h' : Decodes (signOf n') bits' u') (hu : u ≠ .notANumber)
    (hu' : u' ≠ .notANumber) :
    u.compare u' = some (Ord.compare (signed n bits) (signed n' bits')) := by
  have hless {a b : Int} (hab : a < b) : some Ordering.lt = some (Ord.compare a b) :=
    congrArg some (Int.compare_eq_lt.2 hab).symm
  have hequal {a b : Int} (hab : a = b) : some Ordering.eq = some (Ord.compare a b) :=
    congrArg some (Int.compare_eq_eq.2 hab).symm
  have hgreater {a b : Int} (hab : b < a) : some Ordering.gt = some (Ord.compare a b) :=
    congrArg some (Int.compare_eq_gt.2 hab).symm
  have hinfinity := infinityBits_eq
  have hbounds := signed_bounds n bits
  have hbounds' := signed_bounds n' bits'
  cases h with
  | notANumber => exact absurd rfl hu
  | zero hbits =>
    cases h' with
    | notANumber => exact absurd rfl hu'
    | zero hbits' => exact hequal (by omega)
    | finite | infinity =>
      cases n' with
      | false => exact hless (by rw [signed_false]; omega)
      | true => exact hgreater (by rw [signed_true]; omega)
  | finite hm hbits hroom hlow hhigh hfull =>
    cases h' with
    | notANumber => exact absurd rfl hu'
    | zero =>
      cases n with
      | false => exact hgreater (by rw [signed_false]; omega)
      | true => exact hless (by rw [signed_true]; omega)
    | finite hm' hbits' hroom' hlow' hhigh' hfull' =>
      have hboth := compare_magnitudes hbits hbits' hroom hroom' hlow hlow' hfull hfull'
      cases n with
      | false =>
        cases n' with
        | false =>
          rw [signed_false, signed_false]
          exact congrArg some hboth
        | true => exact hgreater (by rw [signed_false, signed_true]; omega)
      | true =>
        cases n' with
        | false => exact hless (by rw [signed_true, signed_false]; omega)
        | true =>
          rw [signed_true, signed_true, compare_neg_neg, ← hboth]
          rfl
    | infinity =>
      cases n' with
      | false => exact hless (by rw [signed_false]; omega)
      | true => exact hgreater (by rw [signed_true]; omega)
  | infinity hbits =>
    cases h' with
    | notANumber => exact absurd rfl hu'
    | infinity hbits' =>
      subst hbits hbits'
      cases n <;> cases n' <;> rfl
    | zero | finite =>
      cases n with
      | false => exact hgreater (by rw [signed_false]; omega)
      | true => exact hless (by rw [signed_true]; omega)

-- ---------------------------------------------------------------------------
-- Ranks
-- ---------------------------------------------------------------------------

/-- Where a number stands among the others: its bits count away from zero. -/
def rank (x : Float) : Int := signed (isNegative x) (unsignedBits x)

section

variable {x y : Float}

/-- A number that is one has a sign and a size. -/
theorem unpack_ne_of_not_isNaN (h : ¬ x.isNaN) : x.toModel.unpack ≠ .notANumber := by
  intro hnone
  have hnan : x.toModel.unpack.isNaN = true := by
    rw [hnone]
    rfl
  exact h hnan

/-- Numbers are compared by their ranks. -/
theorem compare_eq (hx : ¬ x.isNaN) (hy : ¬ y.isNaN) :
    x.toModel.unpack.compare y.toModel.unpack = some (compare (rank x) (rank y)) :=
  (decodes x).compare (decodes y) (unpack_ne_of_not_isNaN hx) (unpack_ne_of_not_isNaN hy)

/-- Numbers stand in the order of their ranks. -/
theorem le_iff (hx : ¬ x.isNaN) (hy : ¬ y.isNaN) : x ≤ y ↔ rank x ≤ rank y := by
  have hle : x ≤ y ↔ (x.toModel.unpack.compare y.toModel.unpack).any (·.isLE) = true :=
    decide_eq_true_iff
  rw [hle, compare_eq hx hy, Option.any_some, Int.isLE_compare]

theorem lt_iff (hx : ¬ x.isNaN) (hy : ¬ y.isNaN) : x < y ↔ rank x < rank y := by
  have hlt : x < y ↔ (x.toModel.unpack.compare y.toModel.unpack == some .lt) = true :=
    decide_eq_true_iff
  rw [hlt, compare_eq hx hy, beq_iff_eq, Option.some_inj, Int.compare_eq_lt]

/-- What is no number is not less than any, and none is less than it. -/
theorem not_lt_of_isNaN (h : x.isNaN ∨ y.isNaN) : ¬ x < y := by
  have hlt : x < y ↔ (x.toModel.unpack.compare y.toModel.unpack == some .lt) = true :=
    decide_eq_true_iff
  have hnone : x.toModel.unpack.compare y.toModel.unpack = none := by
    rcases h with h | h
    · rw [unpack_of_isNaN h]
      rfl
    · rw [unpack_of_isNaN h]
      cases x.toModel.unpack <;> rfl
  rw [hlt, hnone]
  decide

/-- A number without bits below its sign is one of the two zeros. -/
theorem eq_zero (h : unsignedBits x = 0) : x = if isNegative x then -0 else 0 := by
  have hx := @ofBits_bits x (by rw [h]; exact Nat.zero_le _)
  rw [h] at hx
  cases hsign : isNegative x <;> rw [hsign] at hx <;> exact hx.symm

/-- Numbers of the same rank are the same, but for the two zeros. -/
theorem eq_of_rank_eq (h : rank x = rank y) : x = y ∨ (x = 0 ∧ y = -0) ∨ (x = -0 ∧ y = 0) := by
  unfold rank at h
  cases hx : isNegative x <;> cases hy : isNegative y <;> rw [hx, hy] at h <;>
    simp only [signed_false, signed_true] at h
  · exact .inl (eq_of_bits (hx.trans hy.symm) (by omega))
  · have hzero := @eq_zero x (by omega)
    have hzero' := @eq_zero y (by omega)
    rw [hx] at hzero
    rw [hy] at hzero'
    exact .inr (.inl ⟨hzero, hzero'⟩)
  · have hzero := @eq_zero x (by omega)
    have hzero' := @eq_zero y (by omega)
    rw [hx] at hzero
    rw [hy] at hzero'
    exact .inr (.inr ⟨hzero, hzero'⟩)
  · exact .inl (eq_of_bits (hx.trans hy.symm) (by omega))

end

end Reckoner.Number
