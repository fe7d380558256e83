import Reckoner.Diagnostic
import Reckoner.Text.Blank
import Reckoner.Text.Casing
import Reckoner.Value

/-!
# Reckoner — what the functions of the prelude compute

A function of the prelude answers from its arguments alone. It refuses arguments of
the wrong kind, and arguments of the wrong number before it looks at any of them.
-/

namespace Reckoner

/-- Why a function does not take its arguments. -/
inductive ArgumentFault where
  /-- It takes another number of arguments. -/
  | count (expected received : Nat)
  /-- It takes at least one argument. -/
  | none
  /-- It takes a value of another kind. -/
  | kind (expected : String) (found : Value)
  /-- It cannot read this text as a number. -/
  | unreadable (text : String)
deriving DecidableEq

/-- What is said when the function of given name does not take its arguments. -/
def ArgumentFault.message (name : String) : ArgumentFault → String
  | .count expected received =>
    s!"function `{name}` expected {expected} arguments but received {received}"
  | .none => s!"function `{name}` expects at least one argument"
  | .kind expected found => s!"function `{name}` expects {expected}, found {found.typeName}"
  | .unreadable text => s!"function `{name}` cannot parse `{text}` as a number"

/-- The failure of a call whose arguments are not taken. -/
def ArgumentFault.failure (name : String) (fault : ArgumentFault) : Failure :=
  .runtime (fault.message name)

/-- Refuses arguments of the wrong number. -/
def Function.checkArity (f : Function) (args : List Value) : Except Failure Unit :=
  match f.arity with
  | some expected =>
    if args.length = expected then .ok ()
    else .error ((ArgumentFault.count expected args.length).failure f.name)
  | none => .ok ()

namespace Builtin

/-- The lesser of two numbers, or the other one when one is no number. -/
def lesser (a b : Float) : Float :=
  if a.isNaN then b else if b < a then b else a

/-- The greater of two numbers, or the other one when one is no number. -/
def greater (a b : Float) : Float :=
  if a.isNaN then b else if a < b then b else a

/-- An argument that has to be a number. -/
private def expectNumber : Value → Except ArgumentFault Float
  | .number x => .ok x
  | v => .error (.kind "Number" v)

/-- An argument that has to be a string. -/
private def expectString : Value → Except ArgumentFault String
  | .string s => .ok s
  | v => .error (.kind "String" v)

/-- The number that is picked, two at a time, from all arguments. -/
def pick (choose : Float → Float → Float) : List Value → Except ArgumentFault Float
  | [] => .error .none
  | first :: rest => do
    rest.foldlM (fun best v => return choose best (← expectNumber v)) (← expectNumber first)

/-- A function on one argument. -/
def applyOne : Builtin → Value → Except ArgumentFault Value
  | abs, v => return .number (← expectNumber v).abs
  | floor, v => return .number (Number.floor (← expectNumber v))
  | ceil, v => return .number (Number.ceil (← expectNumber v))
  | sqrt, v => return .number (← expectNumber v).sqrt
  | min, v => return .number (← pick lesser [v])
  | max, v => return .number (← pick greater [v])
  | len, v => return .number (Number.whole false (← expectString v).length)
  | upper, v => return .string (Text.upper (← expectString v))
  | lower, v => return .string (Text.lower (← expectString v))
  | trim, v => return .string (Text.trim (← expectString v))
  | str, v => return .string v.text
  | num, .number x => return .number x
  | num, .string s =>
    match Number.ofText? (Text.trim s) with
    | some x => return .number x
    | none => .error (.unreadable s)
  | num, v => .error (.kind "String or Number" v)

/-- The value of a function for its arguments. -/
def compute (f : Builtin) (args : List Value) : Except ArgumentFault Value :=
  match f, args with
  | min, _ => return .number (← pick lesser args)
  | max, _ => return .number (← pick greater args)
  | f, [v] => f.applyOne v
  | _, _ => .error (.count 1 args.length)

/-- The value of a function for its arguments, or the failure of the call. -/
def apply (f : Builtin) (args : List Value) : Except Failure Value :=
  (f.compute args).mapError (·.failure f.name)

end Builtin

end Reckoner
