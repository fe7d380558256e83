/-!
# Reckoner — sets of characters and shifts of characters

A class of characters is a list of ranges of code points; a mapping of characters is
a list of runs, each a stretch of code points that are shifted by one amount.
-/

namespace Reckoner.Text

/-- A set of code points: the first and last ones of its ranges. -/
abbrev Ranges := List (Nat × Nat)

/-- Whether a character lies in one of the ranges. -/
def Ranges.has (ranges : Ranges) (c : Char) : Bool :=
  ranges.any fun (first, last) => first ≤ c.toNat && c.toNat ≤ last

/-- Every `step`-th code point from `first` to `last`, shifted by `shift`. -/
structure Run where
  first : Nat
  last : Nat
  step : Nat
  shift : Int
deriving Repr, DecidableEq

/-- Whether a code point belongs to a run. -/
def Run.has (run : Run) (code : Nat) : Bool :=
  run.first ≤ code && code ≤ run.last && (code - run.first) % run.step = 0

/-- The character that the first run it belongs to shifts a character to. -/
def shift? (runs : List Run) (c : Char) : Option Char :=
  (runs.find? (·.has c.toNat)).map fun run => Char.ofNat ((c.toNat : Int) + run.shift).toNat

end Reckoner.Text
