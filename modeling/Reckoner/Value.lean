import Reckoner.Builtin
import Reckoner.Text.Quoted
import Reckoner.Token.Basic

/-!
# Reckoner — values

What an expression evaluates to. Besides nil, booleans, numbers and strings there
are functions and foreign values, which only a host can bring in. Both have an
**identity**, a number that the host gives out once; the language can tell two of
them apart by nothing else.
-/

namespace Reckoner

/-- Who computes a function. -/
inductive Routine where
  /-- The prelude does. -/
  | builtin (function : Builtin)
  /-- The host does, and it knows the function by its identity. -/
  | hosted
deriving Repr, DecidableEq, Inhabited

/-- A function that an expression may call. -/
structure Function where
  name : String
  /-- The number of arguments it takes, if only one number will do. -/
  arity : Option Nat
  routine : Routine
  identity : Nat
deriving Repr, DecidableEq, Inhabited

/-- What a foreign value holds. An expression never looks inside. -/
inductive Payload where
  | word (value : UInt32)
  | flag (value : Bool)
  | text (value : String)
deriving Repr, DecidableEq, Inhabited

/-- A value of the host's own, which an expression can only pass on. -/
structure Foreign where
  typeName : String
  payload : Payload
  identity : Nat
deriving Repr, DecidableEq, Inhabited

/-- What an expression evaluates to. -/
inductive Value where
  | nil
  | bool (value : Bool)
  | number (value : Float)
  | string (value : String)
  | function (value : Function)
  | foreign (value : Foreign)
deriving DecidableEq, Inhabited

namespace Value

/-- The value of a literal. -/
def ofLiteral : Literal → Value
  | .number x => .number x
  | .string s => .string s
  | .bool b => .bool b
  | .nil => .nil

/-- How the kind of a value is named in messages. -/
def typeName : Value → String
  | .nil => "Nil"
  | .bool _ => "Bool"
  | .number _ => "Number"
  | .string _ => "String"
  | .function _ => "Function"
  | .foreign _ => "Opaque"

/-- Nil and false are falsy; everything else is truthy, zero and the empty string
included. -/
def isTruthy : Value → Bool
  | .nil => false
  | .bool b => b
  | _ => true

def isNil : Value → Bool
  | .nil => true
  | _ => false

def asNumber? : Value → Option Float
  | .number x => some x
  | _ => none

def asString? : Value → Option String
  | .string s => some s
  | _ => none

def asBool? : Value → Option Bool
  | .bool b => some b
  | _ => none

def asFunction? : Value → Option Function
  | .function f => some f
  | _ => none

/-- The payload of a foreign value. -/
def payload? : Value → Option Payload
  | .foreign v => some v.payload
  | _ => none

/-- Equality as an expression sees it: same kind and same value. Functions and
foreign values are equal when they are one and the same; the number that is no
number differs from itself. -/
def equals : Value → Value → Bool
  | .nil, .nil => true
  | .bool a, .bool b => a == b
  | .number a, .number b => a == b
  | .string a, .string b => a == b
  | .function a, .function b => a.identity == b.identity
  | .foreign a, .foreign b => a.identity == b.identity
  | _, _ => false

/-- The written form of a value; a string stands for itself. -/
def text : Value → String
  | .nil => "nil"
  | .bool b => if b then "true" else "false"
  | .number x => Number.text x
  | .string s => s
  | .function f => s!"<native fn {f.name}>"
  | .foreign v => s!"<opaque {v.typeName}>"

/-- The written form of a value, with a string in quotes. -/
def quotedText : Value → String
  | .string s => Text.quote s
  | v => v.text

end Value

end Reckoner
