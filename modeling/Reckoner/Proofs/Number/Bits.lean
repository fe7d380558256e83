import Mathlib.Algebra.Group.Int.Defs
import Mathlib.Algebra.Group.Nat.Defs
import Reckoner.Number.Binary

/-!
# Reckoner — numbers and their bits

A number is given by its sign and by the bits below it, which count magnitudes upwards: those of
zero are 0, infinity comes behind all finite magnitudes, and behind infinity there is only the
number that is no number. That is how a number is unpacked (`Decodes`), and so it is packed again
after its sign has been changed.

Main results:

* `eq_of_bits`, `bits_ofBits` — a number is made from its sign and its bits, and only from these;
* `isNaN_iff`, `isFinite_iff` — the kinds of numbers by their bits;
* `bits_neg`, `bits_abs` — a sign is changed or dropped, and nothing else.
-/

namespace Reckoner.Number

open Float.Model Float.Model.UnpackedFloat

-- ---------------------------------------------------------------------------
-- Three parts of a word
-- ---------------------------------------------------------------------------

section Words

variable (b : BitVec Format.binary64.numBits)

/-- A word holds, from its lowest bit on, 52 bits of the significand. -/
theorem toNat_unpackMantissa : (unpackMantissa b).toNat = b.toNat % 2 ^ 52 := by
  simp [unpackMantissa]

/-- Above these there are 11 bits of the exponent. -/
theorem toNat_unpackExponent : (unpackExponent b).toNat = b.toNat / 2 ^ 52 % 2 ^ 11 := by
  simp [unpackExponent, Nat.shiftRight_eq_div_pow]

/-- The highest bit is the sign. -/
theorem toNat_unpackSign : (unpackSign b).toNat = b.toNat / 2 ^ 63 % 2 := by
  rw [← Nat.shiftRight_eq_div_pow]
  exact BitVec.extractLsb_toNat 63 63 b

/-- The three parts are put side by side. -/
theorem toNat_packComponents (s : Sign) (e : BitVec 11) (m : BitVec 52) :
    (packComponents .binary64 s e m).toNat =
      s.toBitVec.toNat * 2 ^ 63 + e.toNat * 2 ^ 52 + m.toNat := by
  have hm := m.isLt
  have he := e.isLt
  unfold packComponents
  rw [BitVec.toNat_append, BitVec.toNat_append, ← Nat.shiftLeft_add_eq_or_of_lt hm,
    ← Nat.shiftLeft_add_eq_or_of_lt he]
  simp only [Nat.shiftLeft_eq]
  omega

end Words

-- ---------------------------------------------------------------------------
-- What bits stand for
-- ---------------------------------------------------------------------------

/-- What a sign and the bits below it stand for. The significand of a finite number fills its
bits, or the number is among the smallest. -/
inductive Decodes (s : Sign) (bits : Nat) : UnpackedFloat → Prop
  | zero (hbits : bits = 0) : Decodes s bits (.zero s)
  | finite {m : Nat} {e : Int} (hm : 0 < m) (hbits : (bits : Int) = (e + 1074) * 2 ^ 52 + m)
      (hroom : m < 2 ^ 53) (hlow : -1074 ≤ e) (hhigh : e ≤ 971) (hfull : 2 ^ 52 ≤ m ∨ e = -1074) :
      Decodes s bits (.finite s m e hm)
  | infinity (hbits : bits = Magnitude.infinityBits) : Decodes s bits (.infinity s)
  | notANumber (hbits : Magnitude.infinityBits < bits) : Decodes s bits .notANumber

theorem infinityBits_eq : Magnitude.infinityBits = 2047 * 2 ^ 52 := rfl

/-- What a word is unpacked to. -/
theorem decodes_unpack (b : BitVec Format.binary64.numBits) :
    Decodes (.ofBitVec (unpackSign b)) (b.toNat % 2 ^ 63)
      (UnpackedFloat.unpack .binary64 b) := by
  have hm := toNat_unpackMantissa b
  have he := toNat_unpackExponent b
  have hbias : (Format.binary64.exponentBias : Int) = 1023 := rfl
  have hwidth : (Format.binary64.mantissaBitsWithoutImplicit : Int) = 52 := rfl
  have hexponent (e : BitVec 11) : unpackExponent b = e ↔ (unpackExponent b).toNat = e.toNat :=
    BitVec.toNat_inj.symm
  have hmantissa : unpackMantissa b = 0#52 ↔ (unpackMantissa b).toNat = 0 :=
    BitVec.toNat_inj.symm
  have hones : unpackExponent b = -1#11 ↔ (unpackExponent b).toNat = 2047 := hexponent _
  have hzeros : unpackExponent b = 0#11 ↔ (unpackExponent b).toNat = 0 := hexponent _
  by_cases h : unpackExponent b = -1#11
  · rw [show UnpackedFloat.unpack .binary64 b = _ from if_pos h]
    rw [hones] at h
    by_cases h' : unpackMantissa b = 0#52
    · rw [if_pos h']
      rw [hmantissa] at h'
      exact .infinity (by rw [infinityBits_eq]; omega)
    · rw [if_neg h']
      rw [hmantissa] at h'
      exact .notANumber (by rw [infinityBits_eq]; omega)
  · rw [show UnpackedFloat.unpack .binary64 b = _ from if_neg h]
    rw [hones] at h
    by_cases h₀ : unpackExponent b = 0#11
    · rw [if_pos h₀]
      rw [hzeros] at h₀
      by_cases h' : unpackMantissa b = 0#52
      · rw [dif_pos h']
        rw [hmantissa] at h'
        exact .zero (by omega)
      · rw [dif_neg h']
        rw [hmantissa] at h'
        exact .finite _ (by omega) (by omega) (by omega) (by omega) (.inr (by omega))
    · rw [if_neg h₀]
      rw [hzeros] at h₀
      have happend : (1#1 ++ unpackMantissa b).toNat = 2 ^ 52 + (unpackMantissa b).toNat := by
        rw [BitVec.toNat_append, ← Nat.shiftLeft_add_eq_or_of_lt (unpackMantissa b).isLt]
        rfl
      exact .finite _ (by omega) (by omega) (by omega) (by omega) (.inl (by omega))

/-- What bits stand for is packed into a word with these bits. -/
theorem Decodes.toNat_pack {s : Sign} {bits : Nat} {u : UnpackedFloat} (h : Decodes s bits u)
    (hu : u ≠ .notANumber) :
    (UnpackedFloat.pack .binary64 u).toNat = s.toBitVec.toNat * 2 ^ 63 + bits := by
  cases h with
  | zero hbits =>
    have hzero : (packComponents .binary64 s 0#11 0#52).toNat = s.toBitVec.toNat * 2 ^ 63 := by
      rw [toNat_packComponents, BitVec.toNat_zero, BitVec.toNat_zero]
      omega
    rw [hbits, Nat.add_zero]
    exact hzero
  | infinity hbits =>
    have hones : (-1#11 : BitVec 11).toNat = 2047 := rfl
    have hinfinity : (packComponents .binary64 s (-1#11) 0#52).toNat =
        s.toBitVec.toNat * 2 ^ 63 + 2047 * 2 ^ 52 := by
      rw [toNat_packComponents, hones, BitVec.toNat_zero, Nat.add_zero]
    rw [hbits]
    exact hinfinity
  | notANumber => exact absurd rfl hu
  | @finite m e hm hbits hroom hlow hhigh hfull =>
    have hbiased : (e + Format.binary64.exponentBias +
        Format.binary64.mantissaBitsWithoutImplicit).toNat = (e + 1075).toNat :=
      congrArg Int.toNat (Int.add_assoc e 1023 52)
    have hfits : ¬ 2 ^ Format.binary64.exponentBits ≤ (e + 1075).toNat + 1 := by
      show ¬ 2 ^ 11 ≤ (e + 1075).toNat + 1
      omega
    have hpack : UnpackedFloat.pack .binary64 (.finite s m e hm) =
        if m.log2 + 1 = 53 then
          packComponents .binary64 s (.ofNat 11 (e + 1075).toNat) (.ofNat 52 m)
        else packComponents .binary64 s 0#11 (.ofNat 52 m) := by
      rw [← hbiased] at hfits ⊢
      exact if_neg hfits
    rw [hpack]
    have hlog : m.log2 + 1 = 53 ↔ 2 ^ 52 ≤ m := by
      have hlow := Nat.le_log2 (Nat.ne_of_gt hm) (k := 52)
      have hhigh := Nat.log2_lt (Nat.ne_of_gt hm) (k := 53)
      omega
    split
    · next h =>
      rw [hlog] at h
      rw [toNat_packComponents, BitVec.toNat_ofNat, BitVec.toNat_ofNat]
      omega
    · next h =>
      rw [hlog] at h
      rw [toNat_packComponents, BitVec.toNat_ofNat, BitVec.toNat_ofNat]
      omega

-- ---------------------------------------------------------------------------
-- Numbers and their bits
-- ---------------------------------------------------------------------------

/-- The sign of a number that is negative, or is not. -/
def signOf (negative : Bool) : Sign := if negative then .negative else .positive

theorem toNat_signOf (negative : Bool) :
    (signOf negative).toBitVec.toNat * 2 ^ 63 = if negative then 2 ^ 63 else 0 := by
  cases negative <;> rfl

/-- What a word is unpacked to, by its number. -/
theorem decodes_word (w : UInt64) :
    Decodes (signOf (2 ^ 63 ≤ w.toNat)) (w.toNat % 2 ^ 63)
      (UnpackedFloat.unpack .binary64 w.toBitVec) := by
  have h := decodes_unpack w.toBitVec
  have hsign : Sign.ofBitVec (@unpackSign .binary64 w.toBitVec) = signOf (2 ^ 63 ≤ w.toNat) := by
    have hbit := toNat_unpackSign w.toBitVec
    have hlt := w.toNat_lt
    rw [UInt64.toNat_toBitVec] at hbit
    have hzero : @unpackSign .binary64 w.toBitVec = 0#1 ↔
        (@unpackSign .binary64 w.toBitVec).toNat = 0 := BitVec.toNat_inj.symm
    unfold Sign.ofBitVec signOf
    by_cases hn : 2 ^ 63 ≤ w.toNat
    · rw [if_neg (by rw [hzero]; omega), if_pos (by simpa using hn)]
    · rw [if_pos (by rw [hzero]; omega), if_neg (by simpa using hn)]
  rw [hsign, UInt64.toNat_toBitVec] at h
  exact h

/-- What a number is unpacked to. -/
theorem decodes (x : Float) :
    Decodes (signOf (isNegative x)) (unsignedBits x) x.toModel.unpack :=
  decodes_word x.toBits

/-- The bits of a number are those below its sign, and the sign's. -/
theorem toNat_toBits (x : Float) :
    x.toBits.toNat = unsignedBits x + if isNegative x then 2 ^ 63 else 0 := by
  have hlt := x.toBits.toNat_lt
  unfold unsignedBits isNegative
  by_cases h : 2 ^ 63 ≤ x.toBits.toNat
  · simp only [Nat.pow_eq, h, decide_true, if_true]
    omega
  · simp only [Nat.pow_eq, h, decide_false, Bool.false_eq_true, if_false]
    omega

/-- Numbers are told apart by their words. -/
theorem eq_of_toBits {x y : Float} (h : x.toBits = y.toBits) : x = y := by
  obtain ⟨bits, _⟩ := x
  obtain ⟨bits', _⟩ := y
  obtain rfl : bits = bits' := h
  rfl

/-- A number is determined by its bits. -/
theorem eq_of_bits {x y : Float} (hsign : isNegative x = isNegative y)
    (hbits : unsignedBits x = unsignedBits y) : x = y := by
  refine eq_of_toBits (UInt64.toNat_inj.1 ?_)
  rw [toNat_toBits, toNat_toBits, hsign, hbits]

/-- A sign and the bits below it are those of the number that they are packed into. -/
theorem Decodes.pack {negative : Bool} {bits : Nat} {u : UnpackedFloat}
    (h : Decodes (signOf negative) bits u) (hu : u ≠ .notANumber) (hbits : bits < 2 ^ 63) :
    isNegative (.ofModel (.pack u)) = negative ∧ unsignedBits (.ofModel (.pack u)) = bits := by
  have hnat : (Float.ofModel (.pack u)).toBits.toNat = (UnpackedFloat.pack .binary64 u).toNat := rfl
  rw [h.toNat_pack hu, toNat_signOf] at hnat
  unfold isNegative unsignedBits
  rw [hnat, Nat.pow_eq]
  cases negative with
  | false => exact ⟨decide_eq_false (by simpa using hbits), by simpa using Nat.mod_eq_of_lt hbits⟩
  | true => exact ⟨decide_eq_true (by simp), by simpa using Nat.mod_eq_of_lt hbits⟩

theorem unsignedBits_lt (x : Float) : unsignedBits x < 2 ^ 63 := Nat.mod_lt _ (by decide)

/-- There is only one number that is no number. -/
theorem eq_of_notANumber {x : Float} (h : x.toModel.unpack = .notANumber) :
    x = .ofModel (.pack .notANumber) := by
  obtain ⟨bits, hvalid⟩ := x
  have hunpack : UnpackedFloat.unpack .binary64 bits.toBitVec = .notANumber := h
  have hdecodes := decodes_unpack bits.toBitVec
  rw [hunpack] at hdecodes
  cases hdecodes with
  | notANumber hover =>
    rw [infinityBits_eq] at hover
    have hm := toNat_unpackMantissa bits.toBitVec
    have he := toNat_unpackExponent bits.toBitVec
    have hexponent : @unpackExponent .binary64 bits.toBitVec = -1#11 := by
      refine BitVec.eq_of_toNat_eq (he.trans ?_)
      show _ = 2047
      omega
    have hmantissa : @unpackMantissa .binary64 bits.toBitVec ≠ 0#52 := by
      intro hzero
      rw [hzero, BitVec.toNat_zero] at hm
      omega
    exact eq_of_toBits (UInt64.toBitVec_inj.1 (hvalid.eq_packedNaN hexponent hmantissa))

/-- **A number is made from its sign and its bits**, which come no later than those of infinity. -/
theorem bits_ofBits (negative : Bool) {bits : Nat} (h : bits ≤ Magnitude.infinityBits) :
    isNegative (ofBits negative bits) = negative ∧ unsignedBits (ofBits negative bits) = bits := by
  have hlt : bits < 2 ^ 63 := Nat.lt_of_le_of_lt h (by decide)
  let word := UInt64.ofNat (bits + if negative then Nat.pow 2 63 else 0)
  have hword : word.toNat = bits + if negative then 2 ^ 63 else 0 := by
    rw [UInt64.toNat_ofNat', Nat.pow_eq]
    refine Nat.mod_eq_of_lt ?_
    cases negative <;> simp <;> omega
  have hsign : decide (2 ^ 63 ≤ word.toNat) = negative := by
    rw [hword]
    cases negative with
    | false => exact decide_eq_false (Nat.not_le_of_lt hlt)
    | true => exact decide_eq_true (Nat.le_add_left _ _)
  have hbits : word.toNat % 2 ^ 63 = bits := by
    rw [hword]
    cases negative with
    | false => exact Nat.mod_eq_of_lt hlt
    | true => exact (Nat.add_mod_right _ _).trans (Nat.mod_eq_of_lt hlt)
  have hdecodes := decodes_word word
  rw [hsign, hbits] at hdecodes
  refine hdecodes.pack (fun hnone => ?_) hlt
  rw [hnone] at hdecodes
  cases hdecodes with
  | notANumber hover => omega

/-- A number is what is made from its sign and its bits. -/
theorem ofBits_bits {x : Float} (h : unsignedBits x ≤ Magnitude.infinityBits) :
    ofBits (isNegative x) (unsignedBits x) = x := by
  obtain ⟨hsign, hbits⟩ := bits_ofBits (isNegative x) h
  exact eq_of_bits hsign hbits

-- ---------------------------------------------------------------------------
-- Kinds of numbers
-- ---------------------------------------------------------------------------

/-- What is no number comes behind infinity. -/
theorem isNaN_iff (x : Float) : x.isNaN = true ↔ Magnitude.infinityBits < unsignedBits x := by
  have hdecodes := decodes x
  show x.toModel.unpack.isNaN = true ↔ _
  rw [infinityBits_eq]
  generalize x.toModel.unpack = u at hdecodes
  cases hdecodes with
  | zero | finite => exact iff_of_false Bool.false_ne_true (by omega)
  | infinity hbits =>
    rw [infinityBits_eq] at hbits
    exact iff_of_false Bool.false_ne_true (by omega)
  | notANumber hbits =>
    rw [infinityBits_eq] at hbits
    exact iff_of_true rfl hbits

/-- What is finite comes before infinity. -/
theorem isFinite_iff (x : Float) :
    x.isFinite = true ↔ unsignedBits x < Magnitude.infinityBits := by
  have hdecodes := decodes x
  show x.toModel.unpack.isFinite = true ↔ _
  rw [infinityBits_eq]
  generalize x.toModel.unpack = u at hdecodes
  cases hdecodes with
  | zero | finite => exact iff_of_true rfl (by omega)
  | infinity hbits | notANumber hbits =>
    rw [infinityBits_eq] at hbits
    exact iff_of_false Bool.false_ne_true (by omega)

theorem unpack_of_isNaN {x : Float} (h : x.isNaN = true) : x.toModel.unpack = .notANumber := by
  have hnan : x.toModel.unpack.isNaN = true := h
  cases hu : x.toModel.unpack with
  | notANumber => rfl
  | infinity | zero | finite =>
    rw [hu] at hnan
    cases hnan

/-- There is only one number that is no number. -/
theorem eq_of_isNaN {x y : Float} (hx : x.isNaN = true) (hy : y.isNaN = true) : x = y :=
  (eq_of_notANumber (unpack_of_isNaN hx)).trans (eq_of_notANumber (unpack_of_isNaN hy)).symm

-- ---------------------------------------------------------------------------
-- Signs
-- ---------------------------------------------------------------------------

theorem Decodes.neg {negative : Bool} {bits : Nat} {u : UnpackedFloat}
    (h : Decodes (signOf negative) bits u) : Decodes (signOf !negative) bits u.neg := by
  have hsign : signOf (!negative) = -signOf negative := by cases negative <;> rfl
  rw [hsign]
  cases h with
  | zero hbits => exact .zero hbits
  | finite hm hbits hroom hlow hhigh hfull => exact .finite hm hbits hroom hlow hhigh hfull
  | infinity hbits => exact .infinity hbits
  | notANumber hbits => exact .notANumber hbits

theorem Decodes.abs {s : Sign} {bits : Nat} {u : UnpackedFloat} (h : Decodes s bits u) :
    Decodes (signOf false) bits u.abs := by
  cases h with
  | zero hbits => exact .zero hbits
  | finite hm hbits hroom hlow hhigh hfull => exact .finite hm hbits hroom hlow hhigh hfull
  | infinity hbits => exact .infinity hbits
  | notANumber hbits => exact .notANumber hbits

/-- The sign of a number is changed, and nothing else. -/
theorem bits_neg {x : Float} (h : unsignedBits x ≤ Magnitude.infinityBits) :
    isNegative (-x) = (!isNegative x) ∧ unsignedBits (-x) = unsignedBits x := by
  have hneg := (decodes x).neg
  refine hneg.pack (fun hnone => ?_) (unsignedBits_lt x)
  rw [hnone] at hneg
  cases hneg with
  | notANumber hover => omega

/-- The sign of a number is dropped, and nothing else. -/
theorem bits_abs {x : Float} (h : unsignedBits x ≤ Magnitude.infinityBits) :
    isNegative x.abs = false ∧ unsignedBits x.abs = unsignedBits x := by
  have habs := (decodes x).abs
  refine habs.pack (fun hnone => ?_) (unsignedBits_lt x)
  rw [hnone] at habs
  cases habs with
  | notANumber hover => omega

/-- What carries no minus sign is its own size, -/
theorem abs_eq_self {x : Float} (h : unsignedBits x ≤ Magnitude.infinityBits)
    (hsign : isNegative x = false) : x.abs = x :=
  eq_of_bits ((bits_abs h).1.trans hsign.symm) (bits_abs h).2

/-- and what carries one is the negation of its size. -/
theorem neg_abs_eq_self {x : Float} (h : unsignedBits x ≤ Magnitude.infinityBits)
    (hsign : isNegative x = true) : -x.abs = x := by
  obtain ⟨habs, hbits⟩ := bits_abs h
  obtain ⟨hneg, hbits'⟩ := bits_neg (Nat.le_trans (Nat.le_of_eq hbits) h)
  refine eq_of_bits ?_ (hbits'.trans hbits)
  rw [hneg, habs, hsign]
  rfl

end Reckoner.Number
