/-!
# Reckoner — numbers as binary fractions

A number is a double-precision `Float`. Below its sign, a finite number is a
**magnitude** `significand · 2 ^ (scale - 1074)`, where 1074 is the exponent of
the least positive number; the bits of a magnitude are simply
`scale · 2 ^ 52 + significand`, for the small numbers without a leading bit as
for the others. Everything here is exact arithmetic on `Nat`.

* `Magnitude.ofBits`, `Magnitude.bits` — the two views of a magnitude;
* `nearest` — the number closest to a quotient, a tie going to the even
  significand;
* `floor`, `ceil` — the neighbouring whole numbers.
-/

namespace Reckoner.Number

/-- The size of a finite number: `significand · 2 ^ (scale - 1074)`. -/
structure Magnitude where
  significand : Nat
  scale : Nat
deriving Repr, DecidableEq, Inhabited

namespace Magnitude

/-- Bits of a significand, the leading one not counted. -/
def fractionBits : Nat := 52

/-- The exponent of the least positive number, without its sign. -/
def leastExponent : Nat := 1074

/-- The bits of infinity, above those of every finite magnitude. -/
def infinityBits : Nat := 2047 * Nat.pow 2 fractionBits

/-- The magnitude that given bits, the sign's not among them, stand for. -/
def ofBits (bits : Nat) : Magnitude :=
  let scale := bits / Nat.pow 2 fractionBits - 1
  ⟨bits - scale * Nat.pow 2 fractionBits, scale⟩

/-- The bits of a magnitude; one that is too large has those of infinity. -/
def bits (m : Magnitude) : Nat :=
  min (m.scale * Nat.pow 2 fractionBits + m.significand) infinityBits

/-- Numerator and denominator of a magnitude. -/
def quotient (m : Magnitude) : Nat × Nat :=
  if leastExponent ≤ m.scale then (m.significand * Nat.pow 2 (m.scale - leastExponent), 1)
  else (m.significand, Nat.pow 2 (leastExponent - m.scale))

/-- The whole part of a magnitude, and whether a fraction is left over. -/
def whole (m : Magnitude) : Nat × Bool :=
  let (num, den) := m.quotient
  (num / den, num % den != 0)

end Magnitude

/-- `num / den` rounded to a whole number, a tie going to the even one. -/
def roundHalfEven (num den : Nat) : Nat :=
  let quotient := num / den
  match compare (2 * (num % den)) den with
  | .lt => quotient
  | .eq => quotient + quotient % 2
  | .gt => quotient + 1

/-- The magnitude closest to `num / den`: the scale is the least at which the
significand has no more bits than there is room for. -/
def nearestMagnitude (num den : Nat) : Magnitude :=
  if num = 0 then ⟨0, 0⟩ else
  let scaled (scale : Nat) : Nat × Nat :=
    if Magnitude.leastExponent ≤ scale then (num, den * Nat.pow 2 (scale - Magnitude.leastExponent))
    else (num * Nat.pow 2 (Magnitude.leastExponent - scale), den)
  let least := num.log2 + Magnitude.leastExponent - den.log2 - Magnitude.fractionBits - 1
  let (n, d) := scaled least
  let scale := if n / d < Nat.pow 2 (Magnitude.fractionBits + 1) then least else least + 1
  let (n, d) := scaled scale
  ⟨roundHalfEven n d, scale⟩

/-- The number of given sign whose bits, the sign's apart, are given. -/
def ofBits (negative : Bool) (bits : Nat) : Float :=
  Float.ofBits (UInt64.ofNat (bits + if negative then Nat.pow 2 63 else 0))

/-- The bits of a number, the sign's left out. -/
def unsignedBits (x : Float) : Nat := x.toBits.toNat % Nat.pow 2 63

/-- Whether a number carries a minus sign; zero may. -/
def isNegative (x : Float) : Bool := Nat.pow 2 63 ≤ x.toBits.toNat

/-- The size of a finite number. -/
def magnitude (x : Float) : Magnitude := Magnitude.ofBits (unsignedBits x)

/-- The infinity of a given sign. -/
def infinity (negative : Bool) : Float := ofBits negative Magnitude.infinityBits

/-- The number of given sign closest to `num / den`. -/
def nearest (negative : Bool) (num den : Nat) : Float :=
  ofBits negative (nearestMagnitude num den).bits

/-- The whole number of given sign and size. -/
def whole (negative : Bool) (size : Nat) : Float := nearest negative size 1

/-- A number moved to a whole one: `away` says whether one of given sign moves
away from zero. -/
private def toWhole (away : Bool → Bool) (x : Float) : Float :=
  if x.isFinite then
    let negative := isNegative x
    let (size, fraction) := (magnitude x).whole
    whole negative (if fraction && away negative then size + 1 else size)
  else x

/-- The greatest whole number not above `x`. Zero keeps its sign. -/
def floor (x : Float) : Float := toWhole id x

/-- The least whole number not below `x`. Zero keeps its sign, and so does a
negative number above -1. -/
def ceil (x : Float) : Float := toWhole (!·) x

end Reckoner.Number
