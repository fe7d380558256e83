import Reckoner.Token.Basic

/-!
# Reckoner — the calls closed in a sequence of tokens

While an expression is being read, each call is complete as soon as its closing
parenthesis has been read. The calls that are complete in the front part of an
expression can be told from its tokens: a parenthesis that follows an operand opens
a call, any other one opens a group, and commas count the arguments.
-/

namespace Reckoner

/-- A call that has been read to its end: how many arguments it has, and the line of
the parenthesis that closes it. -/
structure ClosedCall where
  args : Nat
  line : Nat
deriving Repr, DecidableEq

namespace Token

/-- A parenthesis that is still open. -/
private inductive Bracket where
  | group
  /-- The parenthesis of a call, with the number of arguments begun. -/
  | call (args : Nat)

/-- Whether an operand ends with a token of this kind. -/
def endsOperand : TokenKind → Bool
  | .identifier | .number | .string | .rightParen
  | .keyword .true | .keyword .false | .keyword .nil => true
  | _ => false

/-- The innermost bracket after one more token that is not a parenthesis: the first
token behind the parenthesis of a call begins an argument, and so does each comma. -/
private def begun (kind : TokenKind) : List Bracket → List Bracket
  | .call args :: outer =>
    if args = 0 ∨ kind = .comma then .call (args + 1) :: outer else .call args :: outer
  | open_ => open_

/-- The calls closed in the tokens that follow, where some parentheses are open
already, the innermost in front. -/
private def closedCallsFrom (afterOperand : Bool) (open_ : List Bracket) :
    List Token → List ClosedCall
  | [] => []
  | t :: rest =>
    let afterOperand' := endsOperand t.kind
    match t.kind with
    | .leftParen =>
      let bracket := if afterOperand then Bracket.call 0 else .group
      let outer := if afterOperand then open_ else begun t.kind open_
      closedCallsFrom afterOperand' (bracket :: outer) rest
    | .rightParen =>
      match open_ with
      | .call args :: outer => ⟨args, t.line⟩ :: closedCallsFrom afterOperand' outer rest
      | .group :: outer => closedCallsFrom afterOperand' outer rest
      | [] => closedCallsFrom afterOperand' [] rest
    | kind => closedCallsFrom afterOperand' (begun kind open_) rest

/-- The calls that are complete in the front part of an expression, in the order in
which they are closed. -/
def closedCalls (tokens : List Token) : List ClosedCall :=
  closedCallsFrom false [] tokens

end Token

end Reckoner
