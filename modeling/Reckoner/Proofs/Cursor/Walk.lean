import Reckoner.Expr.Parse

/-!
# Reckoner — reading with a cursor

The reading of `Reckoner.Expr.Parse` once more, as a walk over a row of tokens that has an end
mark in it. A **cursor** points at the token that comes next. All that a walk can do is to look
at the token at the cursor or at the one in front of it, and to move the cursor on by one.

Nothing here is taken for granted. A look at a place where there is no token stops the walk
(`Stop.outOfRange`). The procedures call each other and go round in loops as they like, but only
down to a given depth, where the walk is given up (`tooDeep`): one that never ends is given up
whatever depth it is allowed. Every walk keeps a record of what it does (`Event`), into which also
goes which procedure is entered where.
-/

namespace Reckoner.Cursor

-- ---------------------------------------------------------------------------
-- What a walk keeps
-- ---------------------------------------------------------------------------

/-- The places of the procedures at which a walk records that it is there. -/
inductive Point where
  /-- A loop, over operators or over calls, begins another turn behind what starts it. -/
  | turn
  | expression
  | level (l : Level)
  | unary
  | call
  | primary
deriving DecidableEq

/-- What a walk does. -/
inductive Event where
  /-- It looks at the token with an index. -/
  | looked (index : Nat)
  /-- It moves the cursor on, and gets a token back. -/
  | advanced (before after : Nat) (token : Token)
  /-- It comes to a point of a procedure. -/
  | entered (point : Point) (cursor : Nat)

/-- Where a walk is, and what it has done so far. -/
structure State where
  cursor : Nat
  trace : List Event

/-- Why a walk ends without a result. -/
inductive Stop where
  | refused (reason : Diagnostic)
  /-- There is no token with the index. -/
  | outOfRange (index : Nat)

/-- A walk, which may stop, and may also be given up. -/
abbrev Walk (α : Type) := ExceptT Stop (StateT State Option) α

/-- Gives up, because calls go too deep. -/
def tooDeep {α : Type} : Walk α := fun _ => none

/-- Records an event. -/
def record (e : Event) : Walk Unit :=
  modify fun s => { s with trace := s.trace ++ [e] }

/-- Records that the walk comes to a point. -/
def enter (p : Point) : Walk Unit := do
  record (.entered p (← get).cursor)

-- ---------------------------------------------------------------------------
-- Looking and moving
-- ---------------------------------------------------------------------------

section

variable (tokens : List Token)

/-- The token with an index. -/
def look (index : Nat) : Walk Token := do
  record (.looked index)
  match tokens[index]? with
  | some t => return t
  | none => throw (.outOfRange index)

/-- The token at the cursor. -/
def peek : Walk Token := do
  look tokens (← get).cursor

/-- The token in front of the cursor; at the very front, the first one. -/
def previous : Walk Token := do
  look tokens ((← get).cursor - 1)

/-- Whether the cursor is at an end mark. -/
def isAtEnd : Walk Bool := do
  return (← peek tokens).kind = .endOfInput

/-- Moves the cursor on, but not over an end mark. -/
def advance : Walk Token := do
  let before := (← get).cursor
  if !(← isAtEnd tokens) then
    modify fun s => { s with cursor := s.cursor + 1 }
  let token ← previous tokens
  record (.advanced before (← get).cursor token)
  return token

/-- Whether a token of given kind comes next. -/
def check (k : TokenKind) : Walk Bool := do
  if ← isAtEnd tokens then return false
  return (← peek tokens).kind = k

/-- Goes over a token of given kind, if it comes next. -/
def accept (k : TokenKind) : Walk Bool := do
  if ← check tokens k then
    let _ ← advance tokens
    return true
  else return false

/-- Goes over a token of one of the kinds in a table, the first one that comes next. -/
def acceptAny {α : Type} : List (TokenKind × α) → Walk (Option α)
  | [] => return none
  | (k, a) :: more => do
    if ← accept tokens k then return some a
    else acceptAny more

/-- What is said about a fault that shows at a token. -/
def refusal (fault : ParseFault) (found : Token) : Diagnostic :=
  let remaining := if found.kind = .endOfInput then [] else [found]
  ParseError.diagnose found ⟨fault, remaining⟩

/-- Stops with a fault that shows at the token which comes next. -/
def refuse {α : Type} (fault : ParseFault) : Walk α := do
  throw (.refused (refusal fault (← peek tokens)))

/-- Goes over a token of given kind, which has to come next. -/
def expect (k : TokenKind) (fault : ParseFault) : Walk Token := do
  if ← check tokens k then advance tokens
  else refuse tokens fault

-- ---------------------------------------------------------------------------
-- The procedures
-- ---------------------------------------------------------------------------

/-- The operators of a level, in the order in which they are tried. -/
def operators : Level → List (TokenKind × Connective)
  | .or => [(.keyword .or, .logical .or)]
  | .and => [(.keyword .and, .logical .and)]
  | .equality => [(.bangEqual, .binary .notEqual), (.equalEqual, .binary .equal)]
  | .comparison => [(.greater, .binary .greater), (.greaterEqual, .binary .greaterEqual),
      (.less, .binary .less), (.lessEqual, .binary .lessEqual)]
  | .term => [(.minus, .binary .sub), (.plus, .binary .add)]
  | .factor => [(.slash, .binary .div), (.star, .binary .mul)]

/-- The operators in front of an operand. -/
def signs : List (TokenKind × UnaryOp) := [(.bang, .not), (.minus, .negate)]

mutual

/-- A whole expression. -/
def expression : Nat → Walk Expr
  | 0 => tooDeep
  | depth + 1 => do
    enter .expression
    level depth .or

/-- An operand of a level, and the operators that follow it. -/
def level : Nat → Level → Walk Expr
  | 0, _ => tooDeep
  | depth + 1, l => do
    enter (.level l)
    chain depth l (← operand depth l)

/-- An operand of the operators of a level. -/
def operand : Nat → Level → Walk Expr
  | 0, _ => tooDeep
  | depth + 1, l =>
    match l.tighter? with
    | some tighter => level depth tighter
    | none => unary depth

/-- The loop over the operators of a level and their right operands. -/
def chain : Nat → Level → Expr → Walk Expr
  | 0, _, _ => tooDeep
  | depth + 1, l, left => do
    match ← acceptAny tokens (operators l) with
    | none => return left
    | some c =>
      enter .turn
      let right ← operand depth l
      chain depth l (.join c left right)

/-- An operator and its operand, or a call. -/
def unary : Nat → Walk Expr
  | 0 => tooDeep
  | depth + 1 => do
    enter .unary
    match ← acceptAny tokens signs with
    | none => call depth
    | some op =>
      let operator ← previous tokens
      return .applyUnary op operator (← unary depth)

/-- A callee, and the calls that follow it. -/
def call : Nat → Walk Expr
  | 0 => tooDeep
  | depth + 1 => do
    enter .call
    calls depth (← primary depth)

/-- The loop over the calls of a callee. -/
def calls : Nat → Expr → Walk Expr
  | 0, _ => tooDeep
  | depth + 1, callee => do
    if ← accept tokens .leftParen then
      enter .turn
      let (args, closing) ← finishCall depth
      calls depth (.applyCall callee args closing)
    else return callee

/-- What stands between the parentheses of a call, and the closing one. -/
def finishCall : Nat → Walk (List Expr × Token)
  | 0 => tooDeep
  | depth + 1 => do
    if ← check tokens .rightParen then
      return ([], ← expect tokens .rightParen .closingCall)
    else arguments depth []

/-- The loop over the arguments of a call, behind those that have been read. -/
def arguments : Nat → List Expr → Walk (List Expr × Token)
  | 0, _ => tooDeep
  | depth + 1, before => do
    if maxArguments ≤ before.length then refuse tokens .tooManyArguments
    let args := before ++ [← expression depth]
    if ← accept tokens .comma then arguments depth args
    else return (args, ← expect tokens .rightParen .closingCall)

/-- A single token, or an expression in parentheses. -/
def primary : Nat → Walk Expr
  | 0 => tooDeep
  | depth + 1 => do
    enter .primary
    let token ← peek tokens
    if token.kind = .leftParen then
      let _ ← advance tokens
      let inner ← expression depth
      return .parenthesize token (← expect tokens .rightParen .closingGroup) inner
    else
      match Expr.ofToken? token with
      | some e =>
        let _ ← advance tokens
        return e
      | none => throw (.refused (refusal .operand token))

end

/-- A whole row of tokens up to its end mark. -/
def whole (depth : Nat) : Walk Expr := do
  let e ← expression tokens depth
  if ← isAtEnd tokens then return e
  else refuse tokens .leftover

end

/-- A list of tokens with an end mark at the end: its own, or one made up behind the last
token. -/
def completed (ts : List Token) : List Token :=
  match ts.getLast? with
  | none => [Token.endMark 1 0]
  | some t => if t.kind = .endOfInput then ts else ts ++ [Token.endMark t.line t.span.stop]

/-- The walk over a list of tokens, from its front, with calls no deeper than so: what it comes
to and what it leaves behind. -/
def walk (depth : Nat) (ts : List Token) : Option (Except Stop Expr × State) :=
  whole (completed ts) depth ⟨0, []⟩

end Reckoner.Cursor
