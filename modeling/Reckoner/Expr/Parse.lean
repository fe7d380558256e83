import Reckoner.Diagnostic
import Reckoner.Expr.Basic
import Reckoner.Token.Scan

/-!
# Reckoner — reading an expression from tokens

An expression is read by levels: the operands of a level are expressions of the
next tighter one, and operators of one level group to the left. Below the tightest
level stand unary operators, calls, and single tokens or parentheses.

Each reader takes the tokens that are left and answers with what it built and the
tokens behind it (`Parsed`), or says what is wrong and where (`ParseError`). A
result holds the proof that tokens were used up, and the reading ends because of
it. The readers see no end mark: what is said about a missing token depends on how
a list ends only through `ParseError.diagnose`.
-/

namespace Reckoner

/-- The greatest number of arguments a call may have. -/
def maxArguments : Nat := 8

-- ---------------------------------------------------------------------------
-- What may be wrong
-- ---------------------------------------------------------------------------

/-- What a sequence of tokens lacks to be an expression. -/
inductive ParseFault where
  /-- An operand was expected. -/
  | operand
  /-- The arguments of a call are not closed. -/
  | closingCall
  /-- A parenthesis around an expression is not closed. -/
  | closingGroup
  /-- A call has more arguments than it may have. -/
  | tooManyArguments
  /-- Something follows a complete expression. -/
  | leftover
deriving Repr, DecidableEq

/-- A fault, and the tokens from the one on at which it shows. -/
structure ParseError where
  fault : ParseFault
  remaining : List Token
deriving DecidableEq

namespace ParseError

/-- How the token at which a fault shows is named. -/
private def foundText : Option Token → String
  | some t => s!"`{t.lexeme}`"
  | none => "end of input"

/-- What is said about a fault that shows at a token, or at the end. -/
def message (e : ParseError) : String :=
  let found := foundText e.remaining.head?
  match e.fault with
  | .operand => "expected expression, found " ++ found
  | .closingCall => "expected `)` after arguments, found " ++ found
  | .closingGroup => "expected `)` after expression, found " ++ found
  | .tooManyArguments => s!"too many arguments: a call accepts at most {maxArguments}"
  | .leftover => "expected end of expression, found " ++ found

/-- The diagnostic for a fault in tokens that end with a given mark. -/
def diagnose (endMark : Token) (e : ParseError) : Diagnostic :=
  let found := e.remaining.headD endMark
  { stage := .syntactic, message := e.message, line := some found.line, span := some found.span }

end ParseError

-- ---------------------------------------------------------------------------
-- Readers
-- ---------------------------------------------------------------------------

/-- What a reader built from the front of `tokens`, and the tokens it left. -/
structure Parsed (α : Type) (tokens : List Token) where
  value : α
  rest : List Token
  shorter : rest.length < tokens.length

namespace Parsed

/-- A result seen from a longer list of tokens. -/
def weaken {α β : Type} {ts us : List Token} (p : Parsed α us) (value : β)
    (h : us.length ≤ ts.length) : Parsed β ts :=
  ⟨value, p.rest, Nat.lt_of_lt_of_le p.shorter h⟩

end Parsed

/-- The outcome of a reader. -/
abbrev Reading (α : Type) (tokens : List Token) := Except ParseError (Parsed α tokens)

namespace Expr

mutual

/-- An expression whose operators bind at least as tightly as a level. -/
def parseLevel (l : Level) (ts : List Token) : Reading Expr ts :=
  match parseOperand l ts with
  | .error e => .error e
  | .ok left => parseChain l left
termination_by (ts.length, 2 * l.height + 4)
decreasing_by
  · exact Prod.Lex.right _ (by omega)
  · exact Prod.Lex.left _ _ left.shorter

/-- An operand of the operators of a level. -/
def parseOperand (l : Level) (ts : List Token) : Reading Expr ts :=
  match _h : l.tighter? with
  | some tighter => parseLevel tighter ts
  | none => parseUnary ts
termination_by (ts.length, 2 * l.height + 3)
decreasing_by
  · have := Level.height_tighter _h
    exact Prod.Lex.right _ (by omega)
  · exact Prod.Lex.right _ (by omega)

/-- The operators of a level that follow its first operand, with their right
operands, grouped to the left. -/
def parseChain {ts : List Token} (l : Level) (left : Parsed Expr ts) : Reading Expr ts :=
  match _h : left.rest with
  | [] => .ok left
  | t :: rest =>
    match Connective.ofKind? t.kind with
    | none => .ok left
    | some c =>
      if c.level = l then
        match parseOperand l rest with
        | .error e => .error e
        | .ok right =>
          parseChain l (right.weaken (join c left.value right.value)
            (by have := left.shorter; simp only [_h, List.length_cons] at this; omega))
      else .ok left
termination_by (left.rest.length, 0)
decreasing_by
  · simp only [_h, List.length_cons]
    exact Prod.Lex.left _ _ (by omega)
  · have := right.shorter
    simp only [_h, List.length_cons, Parsed.weaken]
    exact Prod.Lex.left _ _ (by omega)

/-- Operators in front of an operand; the one next to it applies first. -/
def parseUnary (ts : List Token) : Reading Expr ts :=
  match ts with
  | [] => .error ⟨.operand, []⟩
  | t :: rest =>
    match UnaryOp.ofKind? t.kind with
    | some op =>
      match parseUnary rest with
      | .error e => .error e
      | .ok operand => .ok (operand.weaken (applyUnary op t operand.value) (by simp))
    | none =>
      match parsePrimary t rest with
      | .error e => .error e
      | .ok callee => parseCalls callee
termination_by (ts.length, 2)
decreasing_by
  · exact Prod.Lex.left _ _ (by simp)
  · exact Prod.Lex.right _ (by omega)
  · exact Prod.Lex.left _ _ callee.shorter

/-- A single token, or an expression in parentheses. -/
def parsePrimary (t : Token) (ts : List Token) : Reading Expr (t :: ts) :=
  if t.kind = .leftParen then
    match parseLevel .or ts with
    | .error e => .error e
    | .ok inner =>
      match _h : inner.rest with
      | [] => .error ⟨.closingGroup, []⟩
      | closing :: rest =>
        if closing.kind = .rightParen then
          .ok ⟨parenthesize t closing inner.value, rest,
            by have := inner.shorter; simp only [_h, List.length_cons] at this ⊢; omega⟩
        else .error ⟨.closingGroup, closing :: rest⟩
  else
    match ofToken? t with
    | some e => .ok ⟨e, ts, by simp⟩
    | none => .error ⟨.operand, t :: ts⟩
termination_by (ts.length + 1, 0)

/-- The calls that follow a callee. -/
def parseCalls {ts : List Token} (callee : Parsed Expr ts) : Reading Expr ts :=
  match _h : callee.rest with
  | [] => .ok callee
  | t :: rest =>
    if t.kind = .leftParen then
      match parseArguments rest with
      | .error e => .error e
      | .ok args =>
        parseCalls (args.weaken (applyCall callee.value args.value.1 args.value.2)
          (by have := callee.shorter; simp only [_h, List.length_cons] at this; omega))
    else .ok callee
termination_by (callee.rest.length, 0)
decreasing_by
  · simp only [_h, List.length_cons]
    exact Prod.Lex.left _ _ (by omega)
  · have := args.shorter
    simp only [_h, List.length_cons, Parsed.weaken]
    exact Prod.Lex.left _ _ (by omega)

/-- The arguments of a call behind its opening parenthesis, and the closing one. -/
def parseArguments (ts : List Token) : Reading (List Expr × Token) ts :=
  match ts with
  | [] => parseArgument 0 []
  | t :: rest =>
    if t.kind = .rightParen then .ok ⟨([], t), rest, by simp⟩
    else parseArgument 0 (t :: rest)
termination_by (ts.length, 18)

/-- The arguments of a call from one on that has `count` before it. -/
def parseArgument (count : Nat) (ts : List Token) : Reading (List Expr × Token) ts :=
  if maxArguments ≤ count then .error ⟨.tooManyArguments, ts⟩
  else
    match parseLevel .or ts with
    | .error e => .error e
    | .ok arg =>
      match _h : arg.rest with
      | [] => .error ⟨.closingCall, []⟩
      | t :: rest =>
        if t.kind = .comma then
          match parseArgument (count + 1) rest with
          | .error e => .error e
          | .ok more =>
            .ok (more.weaken (arg.value :: more.value.1, more.value.2)
              (by have := arg.shorter; simp only [_h, List.length_cons] at this; omega))
        else if t.kind = .rightParen then
          .ok ⟨([arg.value], t), rest,
            by have := arg.shorter; simp only [_h, List.length_cons] at this; omega⟩
        else .error ⟨.closingCall, t :: rest⟩
termination_by (ts.length, 17)
decreasing_by
  · exact Prod.Lex.right _ (by decide)
  · have := arg.shorter
    simp only [_h, List.length_cons] at this
    exact Prod.Lex.left _ _ (by omega)

end

/-- The expression that a whole list of tokens, without end marks, forms. -/
def ofTokens (ts : List Token) : Except ParseError Expr :=
  match parseLevel .or ts with
  | .error e => .error e
  | .ok e =>
    match e.rest with
    | [] => .ok e.value
    | t :: rest => .error ⟨.leftover, t :: rest⟩

/-- The mark at which a list of tokens ends: its first end mark, or one made up
behind the last token. -/
def endMark (ts : List Token) : Token :=
  let made : Token := match ts.getLast? with
    | some t => Token.endMark t.line t.span.stop
    | none => Token.endMark 1 0
  (ts.find? (·.kind = .endOfInput)).getD made

/-- The tokens in front of the first end mark. -/
def body (ts : List Token) : List Token :=
  ts.takeWhile (·.kind ≠ .endOfInput)

/-- The expression that a list of tokens forms, up to its first end mark. -/
def parse (ts : List Token) : Except Diagnostic Expr :=
  (ofTokens (body ts)).mapError (ParseError.diagnose (endMark ts))

/-- The expression that a text stands for. -/
def ofSource (source : String) : Except Diagnostic Expr :=
  (Token.scan source).bind parse

end Expr

end Reckoner
