/-!
# Reckoner — the functions that come with the library

The twelve functions of the prelude, in the order in which the prelude binds them.
What they compute is in `Reckoner.Builtin.Apply`.
-/

namespace Reckoner

/-- A function of the prelude. -/
inductive Builtin where
  | abs
  | floor
  | ceil
  | sqrt
  | min
  | max
  | len
  | upper
  | lower
  | trim
  | str
  | num
deriving Repr, DecidableEq, Inhabited

namespace Builtin

/-- All of them, in the order in which the prelude binds them. -/
def all : List Builtin :=
  [abs, floor, ceil, sqrt, min, max, len, upper, lower, trim, str, num]

/-- The name under which the prelude binds a function. -/
def name : Builtin → String
  | abs => "abs"
  | floor => "floor"
  | ceil => "ceil"
  | sqrt => "sqrt"
  | min => "min"
  | max => "max"
  | len => "len"
  | upper => "upper"
  | lower => "lower"
  | trim => "trim"
  | str => "str"
  | num => "num"

/-- How many arguments a function takes; `min` and `max` take any number. -/
def arity : Builtin → Option Nat
  | min | max => none
  | _ => some 1

end Builtin

end Reckoner
