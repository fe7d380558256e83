import Reckoner.Position

/-!
# Reckoner — diagnostics

What a failed evaluation says. A **diagnostic** names the stage that refused the
expression, carries one message and, where they are known, the line and the span
it is about, and may carry notes. A **failure** is either a diagnostic or an
error met while reading or writing.
-/

namespace Reckoner

/-- The stage of an evaluation that refused an expression. -/
inductive Stage where
  /-- The text does not split into tokens. -/
  | lexical
  /-- The tokens form no expression. -/
  | syntactic
  /-- The expression has no value. -/
  | runtime
deriving Repr, DecidableEq, Inhabited

/-- How a stage is named in front of a message. -/
def Stage.label : Stage → String
  | .lexical => "lex error"
  | .syntactic => "syntax error"
  | .runtime => "runtime error"

/-- Why an expression was refused, and where. -/
structure Diagnostic where
  stage : Stage
  message : String
  line : Option Nat := none
  span : Option Span := none
  notes : List String := []
deriving Repr, DecidableEq, Inhabited

/-- The written form: the stage, the line where there is one, the message, and
each note on a line of its own. -/
def Diagnostic.text (d : Diagnostic) : String :=
  d.stage.label ++ ": " ++ (d.line.elim "" fun line => s!"line {line}: ") ++ d.message
    ++ String.join (d.notes.map ("\n  note: " ++ ·))

/-- Why an evaluation has no value. -/
inductive Failure where
  | diagnostic (reason : Diagnostic)
  /-- Reading or writing failed, for the reason given. -/
  | io (reason : String)
deriving Repr, DecidableEq, Inhabited

/-- The written form of a failure. -/
def Failure.text : Failure → String
  | .diagnostic reason => reason.text
  | .io reason => "I/O error: " ++ reason

/-- A failed call of a function, which knows nothing of positions. -/
def Failure.runtime (message : String) : Failure :=
  .diagnostic { stage := .runtime, message }

end Reckoner
