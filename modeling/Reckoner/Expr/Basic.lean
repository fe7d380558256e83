import Reckoner.Token.Basic

/-!
# Reckoner — expressions

The tree that an expression is read as. Every node knows its **place**: the bytes
it covers and the line it is reported at. Parentheses are kept as nodes of their
own, and a call keeps the token that closes it.

The operators that join two operands fall into six levels, from `or`, which binds
loosest, to `*` and `/`, which bind tightest; `Level.tighter?` walks down them.
-/

namespace Reckoner

/-- Operators on one operand. -/
inductive UnaryOp where
  | negate
  | not
deriving Repr, DecidableEq, Inhabited

/-- Operators that need the values of both operands. -/
inductive BinaryOp where
  | add
  | sub
  | mul
  | div
  | equal
  | notEqual
  | less
  | lessEqual
  | greater
  | greaterEqual
deriving Repr, DecidableEq, Inhabited

/-- Operators that may leave their right operand alone. -/
inductive LogicalOp where
  | and
  | or
deriving Repr, DecidableEq, Inhabited

/-- How an operator is written. -/
def UnaryOp.symbol : UnaryOp → String
  | .negate => "-"
  | .not => "!"

/-- How an operator is written. -/
def BinaryOp.symbol : BinaryOp → String
  | .add => "+"
  | .sub => "-"
  | .mul => "*"
  | .div => "/"
  | .equal => "=="
  | .notEqual => "!="
  | .less => "<"
  | .lessEqual => "<="
  | .greater => ">"
  | .greaterEqual => ">="

/-- How an operator is written. -/
def LogicalOp.symbol : LogicalOp → String
  | .and => "and"
  | .or => "or"

-- ---------------------------------------------------------------------------
-- Operators between two operands
-- ---------------------------------------------------------------------------

/-- How tightly an operator between two operands binds, loosest first. -/
inductive Level where
  | or
  | and
  | equality
  | comparison
  | term
  | factor
deriving Repr, DecidableEq, Inhabited

/-- The next tighter level; the operands of the tightest are unary expressions. -/
def Level.tighter? : Level → Option Level
  | .or => some .and
  | .and => some .equality
  | .equality => some .comparison
  | .comparison => some .term
  | .term => some .factor
  | .factor => none

/-- How many levels are at least as tight. -/
def Level.height : Level → Nat
  | .or => 6
  | .and => 5
  | .equality => 4
  | .comparison => 3
  | .term => 2
  | .factor => 1

theorem Level.height_tighter {l t : Level} (h : l.tighter? = some t) :
    t.height < l.height := by
  cases l <;> cases h <;> decide

/-- An operator between two operands. -/
inductive Connective where
  | binary (op : BinaryOp)
  | logical (op : LogicalOp)
deriving Repr, DecidableEq, Inhabited

namespace Connective

/-- How tightly an operator binds. -/
def level : Connective → Level
  | .logical .or => .or
  | .logical .and => .and
  | .binary .equal | .binary .notEqual => .equality
  | .binary .less | .binary .lessEqual | .binary .greater | .binary .greaterEqual => .comparison
  | .binary .add | .binary .sub => .term
  | .binary .mul | .binary .div => .factor

/-- The operator that a token between two operands stands for. -/
def ofKind? : TokenKind → Option Connective
  | .keyword .or => some (.logical .or)
  | .keyword .and => some (.logical .and)
  | .equalEqual => some (.binary .equal)
  | .bangEqual => some (.binary .notEqual)
  | .less => some (.binary .less)
  | .lessEqual => some (.binary .lessEqual)
  | .greater => some (.binary .greater)
  | .greaterEqual => some (.binary .greaterEqual)
  | .plus => some (.binary .add)
  | .minus => some (.binary .sub)
  | .star => some (.binary .mul)
  | .slash => some (.binary .div)
  | _ => none

end Connective

/-- The operator that a token in front of an operand stands for. -/
def UnaryOp.ofKind? : TokenKind → Option UnaryOp
  | .bang => some .not
  | .minus => some .negate
  | _ => none

-- ---------------------------------------------------------------------------
-- Trees
-- ---------------------------------------------------------------------------

/-- Where a node stands: the bytes it covers and the line it is reported at. -/
structure Place where
  span : Span
  line : Nat
deriving Repr, DecidableEq, Inhabited

/-- An expression. -/
inductive Expr where
  | literal (value : Literal) (place : Place)
  | var (name : String) (place : Place)
  /-- An expression in parentheses. -/
  | group (inner : Expr) (place : Place)
  | unary (op : UnaryOp) (operand : Expr) (place : Place)
  | binary (op : BinaryOp) (left right : Expr) (place : Place)
  | logical (op : LogicalOp) (left right : Expr) (place : Place)
  /-- A call, with the parenthesis that closes it. -/
  | call (callee : Expr) (args : List Expr) (closing : Token) (place : Place)
deriving Inhabited

namespace Expr

/-- Where an expression stands. -/
def place : Expr → Place
  | literal _ p | var _ p | group _ p | unary _ _ p | binary _ _ _ p | logical _ _ _ p
  | call _ _ _ p => p

/-- The bytes that an expression covers. -/
def span (e : Expr) : Span := e.place.span

/-- The line at which an expression is reported. -/
def line (e : Expr) : Nat := e.place.line

/-- Two operands joined by an operator. The node covers both and is reported at the
line of the left one. -/
def join (c : Connective) (left right : Expr) : Expr :=
  let place : Place := ⟨⟨left.span.start, right.span.stop⟩, left.line⟩
  match c with
  | .binary op => .binary op left right place
  | .logical op => .logical op left right place

/-- An operand behind its operator, reported at the operator. -/
def applyUnary (op : UnaryOp) (operator : Token) (operand : Expr) : Expr :=
  .unary op operand ⟨⟨operator.span.start, operand.span.stop⟩, operator.line⟩

/-- A call, reported at the parenthesis that closes it. -/
def applyCall (callee : Expr) (args : List Expr) (closing : Token) : Expr :=
  .call callee args closing ⟨⟨callee.span.start, closing.span.stop⟩, closing.line⟩

/-- An expression between two parentheses, reported at the first. -/
def parenthesize (opening closing : Token) (inner : Expr) : Expr :=
  .group inner ⟨⟨opening.span.start, closing.span.stop⟩, opening.line⟩

/-- The expression that a token is on its own: a keyword with a value, a number or a
string (nil when the token carries no literal), or a variable. -/
def ofToken? (t : Token) : Option Expr :=
  let place : Place := ⟨t.span, t.line⟩
  match t.kind with
  | .keyword .true => some (.literal (.bool true) place)
  | .keyword .false => some (.literal (.bool false) place)
  | .keyword .nil => some (.literal .nil place)
  | .number | .string => some (.literal (t.literal.getD .nil) place)
  | .identifier => some (.var t.lexeme place)
  | _ => none

end Expr

end Reckoner
