import Reckoner.Number.Binary

/-!
# Reckoner — numbers read from decimal text

Digits, a decimal point and a power of ten name an exact fraction; the number they
stand for is the one closest to it.

* `ofDigits` — the number of a whole part and a fraction, as in `12.50`;
* `ofText?` — the number a free text stands for: an optional sign, then either a
  word for infinity or for no number, or digits with an optional point and an
  optional power of ten.
-/

namespace Reckoner.Number

/-- The number closest to `digits · 10 ^ exponent`. Beyond 400 decimal places in
either direction the answer is infinity or zero, and no power is computed. -/
def ofScientific (negative : Bool) (digits : Nat) (exponent : Int) : Float :=
  if digits = 0 ∨ exponent < -(400 + digits.log2 : Int) then ofBits negative 0
  else if 400 < exponent then infinity negative
  else if 0 ≤ exponent then nearest negative (digits * Nat.pow 10 exponent.toNat) 1
  else nearest negative digits (Nat.pow 10 (-exponent).toNat)

/-- The number written by the digits of its whole part and of its fraction, times
a power of ten. -/
def ofDigits (negative : Bool) (whole fraction : List Char) (exponent : Int) : Float :=
  ofScientific negative (Nat.ofDigitChars 10 (whole ++ fraction) 0)
    (exponent - fraction.length)

/-- An optional sign in front of a text, and what follows it. -/
def splitSign : List Char → Bool × List Char
  | '-' :: cs => (true, cs)
  | '+' :: cs => (false, cs)
  | cs => (false, cs)

/-- The digits in front of a text, and what follows them. -/
def splitDigits (cs : List Char) : List Char × List Char :=
  (cs.takeWhile Char.isDigit, cs.dropWhile Char.isDigit)

/-- A power of ten at the end of a text: nothing, or `e` and a whole number. -/
def exponent? : List Char → Option Int
  | [] => some 0
  | c :: cs =>
    if c = 'e' ∨ c = 'E' then
      let (negative, cs) := splitSign cs
      let (digits, rest) := splitDigits cs
      if digits ≠ [] ∧ rest = [] then
        let size := Nat.ofDigitChars 10 digits 0
        some (if negative then -size else size)
      else none
    else none

/-- The number an unsigned decimal stands for. One side of the point may be empty,
but not both. -/
def decimal? (negative : Bool) (cs : List Char) : Option Float :=
  let (whole, rest) := splitDigits cs
  let (fraction, rest) := match rest with
    | '.' :: rest => splitDigits rest
    | _ => ([], rest)
  if whole = [] ∧ fraction = [] then none
  else (exponent? rest).map (ofDigits negative whole fraction)

/-- The number that a word, in small or capital letters, stands for. -/
def word? (negative : Bool) (cs : List Char) : Option Float :=
  match String.ofList (cs.map Char.toLower) with
  | "inf" | "infinity" => some (infinity negative)
  | "nan" => some (0 / 0)
  | _ => none

/-- The number a text stands for; blanks make it stand for none. -/
def ofText? (text : String) : Option Float :=
  let (negative, cs) := splitSign text.toList
  word? negative cs <|> decimal? negative cs

end Reckoner.Number
