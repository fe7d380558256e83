import Reckoner.Evaluation
import Reckoner.Prelude

/-!
# Reckoner — hosts described by data

A host whose functions do one of a fixed choice of things, so that a whole
evaluation, host included, can be written down. The host gives out the identities of
its functions and of its foreign values, remembers what each function does, and
keeps a record of the calls it answered.

Values for such a host are described before they exist (`Description`); making one
brings its function or foreign value into the world with an identity of its own.
-/

namespace Reckoner

/-- What a function does when it is called. A function that answers with a constant
holds that value in the form `α`. -/
inductive Behavior (α : Type) where
  /-- Answers with the number of arguments. -/
  | count
  /-- Answers with the first argument, or nil. -/
  | first
  /-- Answers with the sum of the arguments that are numbers. -/
  | sum
  /-- Answers with the arguments that are strings, one behind the other. -/
  | concat
  | const (value : α)
  /-- Answers with the number of times it has been called. -/
  | tick
  /-- Answers with a function that adds the sum of the arguments to its own. -/
  | adder
  /-- Answers with `base` plus the sum of the arguments that are numbers. -/
  | plus (base : Float)
  /-- Evaluates its first argument as an expression, with nothing bound. -/
  | evaluate
  | fail (reason : Failure)
deriving Inhabited

/-- A value that is yet to be made. -/
inductive Description where
  | nil
  | bool (value : Bool)
  | number (value : Float)
  | string (value : String)
  /-- What a name means where the value is made. -/
  | get (name : String)
  | foreign (typeName : String) (payload : Payload)
  | function (name : String) (arity : Option Nat) (behavior : Behavior Description)
deriving Inhabited

/-- A call that was answered. -/
structure Application where
  name : String
  args : List Value
deriving Inhabited

/-- The state of a host described by data. -/
structure Script where
  /-- Identities from this one on are free. -/
  nextIdentity : Nat := 0
  /-- What the functions given out do, the latest first. -/
  behaviors : List (Nat × Behavior Value) := []
  /-- The identity of the counting function of each call of one. -/
  ticks : List Nat := []
  /-- The calls answered. -/
  calls : Array Application := #[]
deriving Inhabited

namespace Script

/-- The sum of the arguments that are numbers, from the left. -/
def sumOf (args : List Value) : Float :=
  (args.filterMap Value.asNumber?).foldl (· + ·) 0

/-- A new function that does something given. -/
def newFunction (name : String) (arity : Option Nat) (behavior : Behavior Value)
    (s : Script) : Value × Script :=
  (.function ⟨name, arity, .hosted, s.nextIdentity⟩,
    { s with
      nextIdentity := s.nextIdentity + 1
      behaviors := (s.nextIdentity, behavior) :: s.behaviors })

/-- The state after a call has been put on record; functions that others made are
left out. -/
def note (name : String) (args : List Value) (s : Script) : Behavior Value → Script
  | .plus _ => s
  | _ => { s with calls := s.calls.push ⟨name, args⟩ }

/-- What a function that does something given makes of a call. -/
def perform (f : Function) (args : List Value) (s : Script) :
    Behavior Value → Reply Script
  | .count => ⟨.ok (.number (Number.whole false args.length)), s, []⟩
  | .first => ⟨.ok (args.headD .nil), s, []⟩
  | .sum => ⟨.ok (.number (sumOf args)), s, []⟩
  | .concat => ⟨.ok (.string (String.join (args.filterMap Value.asString?))), s, []⟩
  | .const value => ⟨.ok value, s, []⟩
  | .tick =>
    let s := { s with ticks := f.identity :: s.ticks }
    ⟨.ok (.number (Number.whole false (s.ticks.count f.identity))), s, []⟩
  | .adder =>
    let (value, s) := s.newFunction "adder" none (.plus (sumOf args))
    ⟨.ok value, s, []⟩
  | .plus base => ⟨.ok (.number (base + sumOf args)), s, []⟩
  | .evaluate =>
    let source := ((args.head?.bind Value.asString?).getD "")
    let (outcome, events) := evaluateAlone .empty source
    ⟨outcome, s, events⟩
  | .fail reason => ⟨.error reason, s, []⟩

/-- The host: a function does what it was made to do. -/
def host : Host Script where
  call f args s :=
    match s.behaviors.lookup f.identity with
    | some behavior => perform f args (s.note f.name args behavior) behavior
    | none =>
      ⟨.error (.runtime s!"function `{f.name}` is not known to the host"), s, []⟩

/-- The environment with the functions of the library bound in its innermost layer. -/
def install (env : Environment) (s : Script) : Environment × Script :=
  (env.install s.nextIdentity, { s with nextIdentity := s.nextIdentity + Prelude.size })

end Script

namespace Description

/-- Makes the value that is described; `get` looks into the environment given. -/
def make (env : Environment) : Description → Script → Value × Script
  | .nil, s => (.nil, s)
  | .bool b, s => (.bool b, s)
  | .number x, s => (.number x, s)
  | .string t, s => (.string t, s)
  | .get name, s => (env.get name, s)
  | .foreign typeName payload, s =>
    (.foreign ⟨typeName, payload, s.nextIdentity⟩,
      { s with nextIdentity := s.nextIdentity + 1 })
  | .function name arity behavior, s =>
    match behavior with
    | .const d =>
      let (value, s) := d.make env s
      s.newFunction name arity (.const value)
    | .count => s.newFunction name arity .count
    | .first => s.newFunction name arity .first
    | .sum => s.newFunction name arity .sum
    | .concat => s.newFunction name arity .concat
    | .tick => s.newFunction name arity .tick
    | .adder => s.newFunction name arity .adder
    | .plus base => s.newFunction name arity (.plus base)
    | .evaluate => s.newFunction name arity .evaluate
    | .fail reason => s.newFunction name arity (.fail reason)

/-- Makes the values described, in order, all in the same environment. -/
def makeAll (env : Environment) : List Description → Script → List Value × Script
  | [], s => ([], s)
  | d :: rest, s =>
    let (value, s) := d.make env s
    let (values, s) := makeAll env rest s
    (value :: values, s)

/-- Makes the values described beside names. -/
def makePairs (env : Environment) (pairs : List (String × Description)) (s : Script) :
    List (String × Value) × Script :=
  let (values, s) := makeAll env (pairs.map Prod.snd) s
  ((pairs.map Prod.fst).zip values, s)

end Description

end Reckoner
