import Reckoner.Diagnostic
import Reckoner.Token.Basic

/-!
# Reckoner — splitting a text into tokens

The scanner skips blanks and cuts the longest token off the front of what is left,
until nothing is left or the front is no token. What a token is depends on its
characters alone (`Lexeme.cut`, `Lexeme.literal`); the positions are laid over the
cut afterwards (`Token.scanFrom`).
-/

namespace Reckoner

/-- Why a text does not split into tokens. -/
inductive ScanError where
  /-- No token starts with this character. -/
  | unexpected (c : Char)
  /-- A string literal is never closed. -/
  | unterminated
deriving Repr, DecidableEq

/-- What is said about a text that does not split. -/
def ScanError.message : ScanError → String
  | .unexpected c => s!"unexpected token `{c}`"
  | .unterminated => "unterminated string"

namespace Lexeme

-- ---------------------------------------------------------------------------
-- Character classes
-- ---------------------------------------------------------------------------

/-- The characters that separate tokens and mean nothing else. -/
def isBlank (c : Char) : Bool :=
  c = ' ' || c = '\t' || c = '\r' || c = '\n'

/-- A name starts with an ASCII letter or an underscore. -/
def isNameStart (c : Char) : Bool := c.isAlpha || c = '_'

/-- A name goes on with ASCII letters, ASCII digits and underscores. -/
def isNamePart (c : Char) : Bool := c.isAlphanum || c = '_'

-- ---------------------------------------------------------------------------
-- Cutting one lexeme
-- ---------------------------------------------------------------------------

/-- The kind of a whole name. -/
def nameKind (name : List Char) : TokenKind :=
  match Keyword.ofName? (String.ofList name) with
  | some word => .keyword word
  | none => .identifier

/-- An operator that may be followed by an equals sign. -/
def withEqual (joined alone : TokenKind) : List Char → TokenKind × List Char
  | '=' :: _ => (joined, ['='])
  | _ => (alone, [])

/-- The characters that continue a number behind its first digit: digits, and a
point only when a digit follows it. -/
def numberTail (rest : List Char) : List Char :=
  let whole := rest.takeWhile Char.isDigit
  match rest.dropWhile Char.isDigit with
  | '.' :: d :: more =>
    if d.isDigit then whole ++ '.' :: d :: more.takeWhile Char.isDigit else whole
  | _ => whole

/-- The characters that continue a string behind its first quote, the closing quote
included. There are no escapes. -/
def stringTail? (rest : List Char) : Option (List Char) :=
  let body := rest.takeWhile (· ≠ '"')
  if body.length < rest.length then some (body ++ ['"']) else none

/-- The token at the front of `c :: rest`, where `c` is no blank: its kind, and the
characters of `rest` that belong to it. -/
def cut (c : Char) (rest : List Char) : Except ScanError (TokenKind × List Char) :=
  match c with
  | '(' => .ok (.leftParen, [])
  | ')' => .ok (.rightParen, [])
  | '[' => .ok (.leftBracket, [])
  | ']' => .ok (.rightBracket, [])
  | ',' => .ok (.comma, [])
  | '.' => .ok (.dot, [])
  | ';' => .ok (.semicolon, [])
  | '+' => .ok (.plus, [])
  | '-' => .ok (.minus, [])
  | '*' => .ok (.star, [])
  | '/' => .ok (.slash, [])
  | '!' => .ok (withEqual .bangEqual .bang rest)
  | '=' => .ok (withEqual .equalEqual .equal rest)
  | '<' => .ok (withEqual .lessEqual .less rest)
  | '>' => .ok (withEqual .greaterEqual .greater rest)
  | '"' =>
    match stringTail? rest with
    | some tail => .ok (.string, tail)
    | none => .error .unterminated
  | c =>
    if isNameStart c then
      let tail := rest.takeWhile isNamePart
      .ok (nameKind (c :: tail), tail)
    else if c.isDigit then .ok (.number, numberTail rest)
    else .error (.unexpected c)

/-- The literal that a lexeme of given kind denotes: the value of a number, the
text between the quotes of a string. -/
def literal (kind : TokenKind) (lexeme : List Char) : Option Literal :=
  match kind with
  | .number =>
    let (whole, rest) := Number.splitDigits lexeme
    some (.number (Number.ofDigits false whole (rest.drop 1) 0))
  | .string => some (.string (String.ofList (lexeme.tail.dropLast)))
  | _ => none

end Lexeme

namespace Token

-- ---------------------------------------------------------------------------
-- Scanning
-- ---------------------------------------------------------------------------

/-- The token of given kind whose lexeme stands between two positions. -/
def ofLexeme (kind : TokenKind) (lexeme : List Char) (start stop : Position) : Token :=
  ⟨kind, String.ofList lexeme, Lexeme.literal kind lexeme, start.line, start.spanTo stop⟩

/-- The refusal of `c :: rest`, which stands at a given position. A character is
reported where it stands; an open string reaches to the end of the text, and the
line reported is the last one. -/
def refuse (start : Position) (c : Char) (rest : List Char) (error : ScanError) : Diagnostic :=
  let stop := start.advance c
  let stop' := stop.after rest
  match error with
  | .unexpected _ =>
    { stage := .lexical, message := error.message
      line := some start.line, span := some (start.spanTo stop) }
  | .unterminated =>
    { stage := .lexical, message := error.message
      line := some stop'.line, span := some (start.spanTo stop') }

/-- The tokens of a text that starts at a given position, the end mark last. -/
def scanFrom (start : Position) : List Char → Except Diagnostic (List Token)
  | [] => .ok [endMark start.line start.offset]
  | c :: rest =>
    if Lexeme.isBlank c then scanFrom (start.advance c) rest
    else
      match Lexeme.cut c rest with
      | .error error => .error (refuse start c rest error)
      | .ok (kind, tail) =>
        let stop := (start.advance c).after tail
        match scanFrom stop (rest.drop tail.length) with
        | .error diagnostic => .error diagnostic
        | .ok later => .ok (ofLexeme kind (c :: tail) start stop :: later)
termination_by text => text.length

/-- The tokens of a text, the end mark last. -/
def scan (source : String) : Except Diagnostic (List Token) :=
  scanFrom .origin source.toList

end Token

end Reckoner
