import Reckoner.Number.Decimal

/-!
# Reckoner — the shortest decimal of a number

A number is written with the fewest digits that read back as that number, and
among those with the digits closest to it; of two that are equally close the
greater is taken. The point stands where it belongs, whatever the size: there is
no power of ten, and a whole number has no point.

* `decimalOf` — the digits and places of a finite number;
* `text` — its written form.
-/

namespace Reckoner.Number

/-- A decimal fraction: `digits / 10 ^ places`. -/
structure Decimal where
  digits : Nat
  places : Nat
deriving Repr, DecidableEq, Inhabited

namespace Decimal

/-- The number that a decimal reads as. -/
def toFloat (d : Decimal) : Float := ofScientific false d.digits (-d.places)

/-- `digits · 10 ^ exponent`, with zeros at the end of a fraction dropped. -/
def ofScientific (digits : Nat) (exponent : Int) : Decimal :=
  if 0 ≤ exponent then ⟨digits * Nat.pow 10 exponent.toNat, 0⟩
  else shorten digits (-exponent).toNat
where
  /-- Drops zeros behind the point. -/
  shorten (digits : Nat) : Nat → Decimal
    | 0 => ⟨digits, 0⟩
    | places + 1 =>
      if digits % 10 = 0 then shorten (digits / 10) places else ⟨digits, places + 1⟩

/-- The written form: at least one digit stands in front of the point. -/
def chars (d : Decimal) : List Char :=
  let ds := Nat.toDigits 10 d.digits
  let ds := List.replicate (d.places + 1 - ds.length) '0' ++ ds
  let whole := ds.take (ds.length - d.places)
  if d.places = 0 then whole else whole ++ '.' :: ds.drop (ds.length - d.places)

end Decimal

/-- How many digits the whole part of `num / den` has; below one, the zeros that
follow the point, counted down from zero. -/
def decimalPoint (num den : Nat) : Int :=
  (Nat.toDigits 10 (num * Nat.pow 10 400 / den)).length - 400

/-- The multiples of `10 ^ exponent` next to `num / den` on either side, the closer
one in front. -/
def neighbours (num den : Nat) (exponent : Int) : List Decimal :=
  let (n, d) := if 0 ≤ exponent then (num, den * Nat.pow 10 exponent.toNat)
    else (num * Nat.pow 10 (-exponent).toNat, den)
  let below := Decimal.ofScientific (n / d) exponent
  let above := Decimal.ofScientific (n / d + 1) exponent
  if 2 * (n % d) < d then [below, above] else [above, below]

/-- All digits of a magnitude. -/
def exactDecimal (m : Magnitude) : Decimal :=
  if Magnitude.leastExponent ≤ m.scale then
    ⟨m.significand * Nat.pow 2 (m.scale - Magnitude.leastExponent), 0⟩
  else
    let places := Magnitude.leastExponent - m.scale
    ⟨m.significand * Nat.pow 5 places, places⟩

/-- The shortest decimal that reads back as `x`, which is finite and has no minus
sign. Seventeen digits are always enough. -/
def decimalOf (x : Float) : Decimal :=
  let m := magnitude x
  let (num, den) := m.quotient
  if num = 0 then ⟨0, 0⟩
  else
    let point := decimalPoint num den
    let shortest? := (List.range' 1 17).findSome? fun (count : Nat) =>
      (neighbours num den (point - count)).find? (·.toFloat = x)
    shortest?.getD (exactDecimal m)

/-- The written form of a number. -/
def text (x : Float) : String :=
  if x.isNaN then "NaN"
  else
    let size := if x.isFinite then (decimalOf x.abs).chars else "inf".toList
    String.ofList (if isNegative x then '-' :: size else size)

end Reckoner.Number
