import Reckoner.Position
import Reckoner.Number.Shortest

/-!
# Reckoner — tokens

The words an expression is made of. A **token** has a kind, the piece of text it
was read from (its lexeme), the literal it denotes if it denotes one, and its
place in the text. A token may also be made by hand, and nothing then ties its
kind to its lexeme.
-/

namespace Reckoner

/-- A constant that an expression may hold. -/
inductive Literal where
  | number (value : Float)
  | string (value : String)
  | bool (value : Bool)
  | nil
deriving DecidableEq, Inhabited

/-- The written form of a literal; a string stands for itself, without quotes. -/
def Literal.text : Literal → String
  | .number value => Number.text value
  | .string value => value
  | .bool value => if value then "true" else "false"
  | .nil => "nil"

/-- A name with a meaning of its own. -/
inductive Keyword where
  | and
  | or
  | true
  | false
  | nil
deriving Repr, DecidableEq, Inhabited

/-- The keyword that a name is, if it is one. -/
def Keyword.ofName? : String → Option Keyword
  | "and" => some .and
  | "or" => some .or
  | "true" => some .true
  | "false" => some .false
  | "nil" => some .nil
  | _ => none

/-- The kinds of token. -/
inductive TokenKind where
  | identifier
  | number
  | string
  | keyword (word : Keyword)
  | leftParen
  | rightParen
  | leftBracket
  | rightBracket
  | comma
  | dot
  | semicolon
  | plus
  | minus
  | star
  | slash
  | bang
  | bangEqual
  | equal
  | equalEqual
  | greater
  | greaterEqual
  | less
  | lessEqual
  /-- Stands behind the last token of a text. -/
  | endOfInput
deriving Repr, DecidableEq, Inhabited

/-- How a keyword is named in a token listing. -/
def Keyword.label : Keyword → String
  | .and => "And"
  | .or => "Or"
  | .true => "True"
  | .false => "False"
  | .nil => "Nil"

/-- How a kind is named in a token listing. -/
def TokenKind.label : TokenKind → String
  | .identifier => "Identifier"
  | .number => "Number"
  | .string => "String"
  | .keyword word => "Keyword(" ++ word.label ++ ")"
  | .leftParen => "LParen"
  | .rightParen => "RParen"
  | .leftBracket => "LBracket"
  | .rightBracket => "RBracket"
  | .comma => "Comma"
  | .dot => "Dot"
  | .semicolon => "Semicolon"
  | .plus => "Plus"
  | .minus => "Minus"
  | .star => "Star"
  | .slash => "Slash"
  | .bang => "Bang"
  | .bangEqual => "BangEqual"
  | .equal => "Equal"
  | .equalEqual => "EqualEqual"
  | .greater => "Greater"
  | .greaterEqual => "GreaterEqual"
  | .less => "Less"
  | .lessEqual => "LessEqual"
  | .endOfInput => "Eof"

/-- One word of an expression. -/
structure Token where
  kind : TokenKind
  lexeme : String
  literal : Option Literal
  /-- The line on which the token starts. -/
  line : Nat
  span : Span
deriving DecidableEq, Inhabited

namespace Token

/-- The token that stands behind a text which ends at a given place. -/
def endMark (line offset : Nat) : Token :=
  ⟨.endOfInput, "", none, line, ⟨offset, offset⟩⟩

/-- The line of a token listing. -/
def text (t : Token) : String :=
  s!"{t.kind.label} `{t.lexeme}`"
    ++ t.literal.elim "" (" = " ++ ·.text)
    ++ s!" (line {t.line})"

end Token

end Reckoner
