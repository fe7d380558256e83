import Reckoner.Builtin.Apply
import Reckoner.Environment
import Reckoner.Event
import Reckoner.Expr.Calls
import Reckoner.Expr.Parse

/-!
# Reckoner — evaluation

The value of an expression in an environment. Operands and arguments are evaluated
from left to right, each once; `and` and `or` leave their right operand alone when
the left one decides. The first failure ends the evaluation.

Functions of the prelude are computed by the library; all others are the business
of a **host**, which has a state of its own. What an evaluation does to that state,
and what is observed of it, is kept in a **run**, also when the evaluation fails.
-/

namespace Reckoner

-- ---------------------------------------------------------------------------
-- Operators on values
-- ---------------------------------------------------------------------------

/-- Why the operands of an operator or of a call have no result. -/
inductive OperandFault where
  | negation (found : Value)
  | addition (left right : Value)
  | numbers (op : BinaryOp) (left right : Value)
  /-- What is called is no function; the call ends on the given line. -/
  | callee (found : Value) (closingLine : Nat)
deriving DecidableEq

namespace OperandFault

/-- What is said about operands that have no result. -/
def message : OperandFault → String
  | negation found =>
    s!"`{UnaryOp.negate.symbol}` operand must be a number, found {found.typeName}"
  | addition left right =>
    s!"`{BinaryOp.add.symbol}` operands must be two numbers or two strings, "
      ++ s!"found {left.typeName} and {right.typeName}"
  | numbers op left right =>
    s!"`{op.symbol}` operands must be numbers, "
      ++ s!"found {left.typeName} and {right.typeName}"
  | callee found _ =>
    s!"callee `{found.text}` ({found.typeName}) is an illegal function type"

/-- What is added to the message: for a call, where it ends. -/
def notes : OperandFault → List String
  | callee _ closingLine => [s!"call closed at line {closingLine}"]
  | _ => []

/-- What is said about a fault at the node that has it. -/
def failure (place : Place) (fault : OperandFault) : Failure :=
  .diagnostic
    { stage := .runtime, message := fault.message
      line := some place.line, span := some place.span, notes := fault.notes }

end OperandFault

/-- The result of an operator on one value. -/
def UnaryOp.apply : UnaryOp → Value → Except OperandFault Value
  | .not, v => .ok (.bool !v.isTruthy)
  | .negate, .number x => .ok (.number (-x))
  | .negate, v => .error (.negation v)

/-- A result that takes two numbers. -/
private def onNumbers (op : BinaryOp) (f : Float → Float → Value) :
    Value → Value → Except OperandFault Value
  | .number a, .number b => .ok (f a b)
  | left, right => .error (.numbers op left right)

/-- The result of an operator on two values. -/
def BinaryOp.apply (op : BinaryOp) (left right : Value) : Except OperandFault Value :=
  match op with
  | .add =>
    match left, right with
    | .number a, .number b => .ok (.number (a + b))
    | .string a, .string b => .ok (.string (a ++ b))
    | _, _ => .error (.addition left right)
  | .sub => onNumbers op (fun a b => .number (a - b)) left right
  | .mul => onNumbers op (fun a b => .number (a * b)) left right
  | .div => onNumbers op (fun a b => .number (a / b)) left right
  | .less => onNumbers op (fun a b => .bool (a < b)) left right
  | .lessEqual => onNumbers op (fun a b => .bool (a ≤ b)) left right
  | .greater => onNumbers op (fun a b => .bool (b < a)) left right
  | .greaterEqual => onNumbers op (fun a b => .bool (b ≤ a)) left right
  | .equal => .ok (.bool (left.equals right))
  | .notEqual => .ok (.bool !left.equals right)

/-- Whether the value of the left operand is already that of the whole. -/
def LogicalOp.decides : LogicalOp → Value → Bool
  | .or, v => v.isTruthy
  | .and, v => !v.isTruthy

-- ---------------------------------------------------------------------------
-- Runs and hosts
-- ---------------------------------------------------------------------------

/-- The state of a host and what has been observed so far. -/
structure Run (σ : Type) where
  host : σ
  events : Array Event

/-- What a host makes of a call. -/
structure Reply (σ : Type) where
  outcome : Except Failure Value
  state : σ
  /-- What is observed of the evaluations that the host ran meanwhile. -/
  events : List Event

/-- What the functions of a host do. -/
structure Host (σ : Type) where
  call : Function → List Value → σ → Reply σ

/-- A computation that reads and writes a run and may fail. What it did before it
failed stays done. -/
abbrev Evaluation (σ α : Type) := EStateM Failure (Run σ) α

namespace Evaluation

variable {σ α : Type}

/-- Records an event. -/
def record (e : Event) : Evaluation σ Unit :=
  modify fun run => { run with events := run.events.push e }

/-- The outcome of an operator, whose fault lies at a node. -/
def ofOperator (place : Place) : Except OperandFault α → Evaluation σ α
  | .ok v => pure v
  | .error fault => throw (fault.failure place)

/-- The outcome of something that needs no run. -/
def ofExcept : Except Failure α → Evaluation σ α
  | .ok v => pure v
  | .error failure => throw failure

end Evaluation

/-- The value of a function for its arguments. The number of arguments is checked
before anyone computes it. -/
def Function.call {σ : Type} (host : Host σ) (f : Function) (args : List Value) :
    Evaluation σ Value := do
  Evaluation.ofExcept (f.checkArity args)
  match f.routine with
  | .builtin b => Evaluation.ofExcept (b.apply args)
  | .hosted =>
    let run ← get
    let reply := host.call f args run.host
    set ({ host := reply.state, events := run.events ++ reply.events.map Event.relayed } : Run σ)
    Evaluation.ofExcept reply.outcome

-- ---------------------------------------------------------------------------
-- Expressions
-- ---------------------------------------------------------------------------

namespace Expr

variable {σ : Type}

mutual

/-- The value of an expression. -/
def evaluate (env : Environment) (host : Host σ) : Expr → Evaluation σ Value
  | .literal value _ => pure (.ofLiteral value)
  | .var name _ => do
    let value := env.get name
    Evaluation.record (.resolved name value)
    return value
  | .group inner _ => evaluate env host inner
  | .unary op operand place => do
    let value ← evaluate env host operand
    Evaluation.ofOperator place (op.apply value)
  | .binary op left right place => do
    let leftValue ← evaluate env host left
    let rightValue ← evaluate env host right
    Evaluation.ofOperator place (op.apply leftValue rightValue)
  | .logical op left right _ => do
    let value ← evaluate env host left
    if op.decides value then return value
    else evaluate env host right
  | .call callee args closing place => do
    let calleeValue ← evaluate env host callee
    let argValues ← evaluateAll env host args
    match calleeValue with
    | .function f =>
      Evaluation.record (.calling f argValues closing)
      f.call host argValues
    | value => throw ((OperandFault.callee value closing.line).failure place)

/-- The values of expressions, from left to right. -/
def evaluateAll (env : Environment) (host : Host σ) : List Expr → Evaluation σ (List Value)
  | [] => return []
  | e :: rest => do
    let value ← evaluate env host e
    let values ← evaluateAll env host rest
    return value :: values

end

end Expr

-- ---------------------------------------------------------------------------
-- Texts
-- ---------------------------------------------------------------------------

/-- The events of reading the front part of an expression. -/
private def callEvents (tokens : List Token) : List Event :=
  (Token.closedCalls tokens).map fun call => .parsedCall call.args call.line

/-- What is observed while a text is read, and the expression that it is read as. -/
def readSource (source : String) : List Event × Except Diagnostic Expr :=
  match Token.scan source with
  | .error d => ([.rejected d], .error d)
  | .ok tokens =>
    let body := Expr.body tokens
    match Expr.ofTokens body with
    | .ok e => (.scanned tokens.length :: callEvents body, .ok e)
    | .error e =>
      let consumed := body.take (body.length - e.remaining.length)
      let d := e.diagnose (Expr.endMark tokens)
      (.scanned tokens.length :: callEvents consumed ++ [.rejected d], .error d)

/-- Being observed does not change how a text is read. -/
theorem readSource_snd (source : String) : (readSource source).2 = Expr.ofSource source := by
  unfold readSource Expr.ofSource
  cases Token.scan source with
  | error d => rfl
  | ok tokens =>
    simp only [Except.bind, Expr.parse]
    cases Expr.ofTokens (Expr.body tokens) <;> rfl

/-- The value of the expression that a text stands for. -/
def evaluateSource {σ : Type} (env : Environment) (host : Host σ) (source : String) :
    Evaluation σ Value := fun run =>
  let (events, outcome) := readSource source
  let run := { run with events := run.events ++ events }
  match outcome with
  | .error d => .error (.diagnostic d) run
  | .ok e =>
    match e.evaluate env host run with
    | .ok value run => .ok value run
    | .error failure run => .error failure { run with events := run.events.push (.failed failure) }

namespace Host

/-- The host that has no functions. -/
def none : Host Unit where
  call f _ _ :=
    ⟨.error (.runtime s!"function `{f.name}` is not known to the host"), (), []⟩

end Host

/-- The outcome of evaluating a text with no host behind it, and what is observed. -/
def evaluateAlone (env : Environment) (source : String) :
    Except Failure Value × List Event :=
  match evaluateSource env Host.none source ⟨(), #[]⟩ with
  | .ok value run => (.ok value, run.events.toList)
  | .error failure run => (.error failure, run.events.toList)

end Reckoner
