import Reckoner.Diagnostic
import Reckoner.Log.Record
import Reckoner.Value

/-!
# Reckoner — what is observed of an evaluation

Everything an evaluation does that an observer can follow is an **event**: the end
of scanning, every call that has been read, every variable looked up, every
function called, and a refusal at the end. A function of the host may run
evaluations of its own; what is observed of those is relayed.

An event has a form in which it is recorded in a log.
-/

namespace Reckoner

/-- Something that happened during an evaluation. -/
inductive Event where
  /-- A text was split into so many tokens. -/
  | scanned (count : Nat)
  /-- A call was read to its end. -/
  | parsedCall (args : Nat) (line : Nat)
  /-- A variable was looked up. -/
  | resolved (name : String) (value : Value)
  /-- A function is about to be called from the call that a token closes. -/
  | calling (function : Function) (args : List Value) (closing : Token)
  /-- A text was refused before its evaluation began. -/
  | rejected (reason : Diagnostic)
  /-- An evaluation ended without a value. -/
  | failed (reason : Failure)
  /-- Something that happened in an evaluation which the host ran. -/
  | relayed (event : Event)
deriving DecidableEq, Inhabited

namespace Event

/-- A record of detail. -/
private def detail (target message : String) (fields : List (String × String)) : Log.Record :=
  { severity := .trace, target, message, fields }

/-- A record that is worth a developer's notice. -/
private def notice (message : String) (fields : List (String × String)) : Log.Record :=
  { severity := .debug, target := "eep::runtime", message, fields }

/-- How an event is recorded in a log. Refusals are worth a developer's notice; all
else is detail. -/
def record : Event → Log.Record
  | scanned count => detail "eep::lexer" "scanned tokens" [("count", toString count)]
  | parsedCall args line =>
    detail "eep::parser" "parsed call" [("args", toString args), ("line", toString line)]
  | resolved name value =>
    detail "eep::runtime" "resolved variable"
      [("name", name), ("found", if value.isNil then "false" else "true")]
  | calling function args _ =>
    detail "eep::runtime" "calling host"
      [("function", function.name), ("args", toString args.length)]
  | rejected reason =>
    notice "front end rejected expression"
      [("kind", reason.stage.label), ("message", reason.message)]
  | failed reason => notice "evaluation failed" [("error", reason.text)]
  | relayed e => e.record

end Event

end Reckoner
