import Reckoner.Proofs.Tree

/-!
# Reckoner — the grammar of expressions

Which lists of tokens are expressions, and as which trees, said without reading them:

    expression → or
    or         → and ( "or" and )*
    and        → equality ( "and" equality )*
    equality   → comparison ( ("!=" | "==") comparison )*
    comparison → term ( (">" | ">=" | "<" | "<=") term )*
    term       → factor ( ("-" | "+") factor )*
    factor     → unary ( ("/" | "*") unary )*
    unary      → ("!" | "-") unary | call
    call       → primary ( "(" arguments? ")" )*
    arguments  → expression ( "," expression )*
    primary    → NUMBER | STRING | "true" | "false" | "nil" | IDENTIFIER | "(" expression ")"

A repetition is stated by its last step, so that a chain of operators is the tree of
all but its last operand, joined to that operand: chains fold to the left.
-/

namespace Reckoner.Grammar

-- ---------------------------------------------------------------------------
-- Categories and their operators
-- ---------------------------------------------------------------------------

/-- The categories of the grammar, loosest first. -/
inductive Category where
  | expression
  | level (l : Level)
  | unary
  | call
  | primary
deriving DecidableEq

/-- The category of the operands of a level. -/
def operandOf : Level → Category
  | .or => .level .and
  | .and => .level .equality
  | .equality => .level .comparison
  | .comparison => .level .term
  | .term => .level .factor
  | .factor => .unary

/-- The operators of each level. -/
inductive Operator : Level → TokenKind → Connective → Prop
  | or : Operator .or (.keyword .or) (.logical .or)
  | and : Operator .and (.keyword .and) (.logical .and)
  | notEqual : Operator .equality .bangEqual (.binary .notEqual)
  | equal : Operator .equality .equalEqual (.binary .equal)
  | greater : Operator .comparison .greater (.binary .greater)
  | greaterEqual : Operator .comparison .greaterEqual (.binary .greaterEqual)
  | less : Operator .comparison .less (.binary .less)
  | lessEqual : Operator .comparison .lessEqual (.binary .lessEqual)
  | sub : Operator .term .minus (.binary .sub)
  | add : Operator .term .plus (.binary .add)
  | div : Operator .factor .slash (.binary .div)
  | mul : Operator .factor .star (.binary .mul)

/-- The operators in front of an operand. -/
inductive Sign : TokenKind → UnaryOp → Prop
  | not : Sign .bang .not
  | negate : Sign .minus .negate

/-- The tokens that are expressions on their own. A number or a string stands for the
literal it carries, or for nil. -/
inductive Atom : Token → Expr → Prop
  | number {t : Token} (h : t.kind = .number) :
      Atom t (.literal (t.literal.getD .nil) ⟨t.span, t.line⟩)
  | string {t : Token} (h : t.kind = .string) :
      Atom t (.literal (t.literal.getD .nil) ⟨t.span, t.line⟩)
  | true {t : Token} (h : t.kind = .keyword .true) :
      Atom t (.literal (.bool .true) ⟨t.span, t.line⟩)
  | false {t : Token} (h : t.kind = .keyword .false) :
      Atom t (.literal (.bool .false) ⟨t.span, t.line⟩)
  | nil {t : Token} (h : t.kind = .keyword .nil) : Atom t (.literal .nil ⟨t.span, t.line⟩)
  | identifier {t : Token} (h : t.kind = .identifier) : Atom t (.var t.lexeme ⟨t.span, t.line⟩)

-- ---------------------------------------------------------------------------
-- Derivations
-- ---------------------------------------------------------------------------

mutual

/-- Tokens derive from a category, as a tree. -/
inductive Derives : Category → List Token → Expr → Prop
  | expression {ts : List Token} {e : Expr} (h : Derives (.level .or) ts e) :
      Derives .expression ts e
  | operand {l : Level} {ts : List Token} {e : Expr} (h : Derives (operandOf l) ts e) :
      Derives (.level l) ts e
  | join {l : Level} {ts us : List Token} {t : Token} {a b : Expr} {c : Connective}
      (ha : Derives (.level l) ts a) (ht : Operator l t.kind c)
      (hb : Derives (operandOf l) us b) :
      Derives (.level l) (ts ++ t :: us) (.join c a b)
  | sign {ts : List Token} {t : Token} {e : Expr} {op : UnaryOp}
      (ht : Sign t.kind op) (h : Derives .unary ts e) :
      Derives .unary (t :: ts) (.applyUnary op t e)
  | unsigned {ts : List Token} {e : Expr} (h : Derives .call ts e) : Derives .unary ts e
  | apply {ts us : List Token} {t u : Token} {f : Expr} {args : List Expr}
      (hf : Derives .call ts f) (ht : t.kind = .leftParen) (hargs : Arguments us args)
      (hmax : args.length ≤ 8) (hu : u.kind = .rightParen) :
      Derives .call (ts ++ t :: (us ++ [u])) (.applyCall f args u)
  | uncalled {ts : List Token} {e : Expr} (h : Derives .primary ts e) : Derives .call ts e
  | atom {t : Token} {e : Expr} (h : Atom t e) : Derives .primary [t] e
  | group {ts : List Token} {t u : Token} {e : Expr}
      (ht : t.kind = .leftParen) (h : Derives .expression ts e) (hu : u.kind = .rightParen) :
      Derives .primary (t :: (ts ++ [u])) (.parenthesize t u e)

/-- Tokens are the arguments of a call, with commas between them. -/
inductive Arguments : List Token → List Expr → Prop
  | none : Arguments [] []
  | one {ts : List Token} {e : Expr} (h : Derives .expression ts e) : Arguments ts [e]
  | more {ts us : List Token} {t : Token} {e : Expr} {es : List Expr}
      (h : Derives .expression ts e) (ht : t.kind = .comma) (hs : Arguments us es)
      (hne : es ≠ []) : Arguments (ts ++ t :: us) (e :: es)

end

end Reckoner.Grammar
