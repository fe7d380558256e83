/-!
# Reckoner — texts without terminal controls

What is left of a text that is shown where control sequences have no meaning. A
sequence starts with the escape character and is taken out whole; so is every other
control character that is no blank. A tab or the end of a line inside a sequence
breaks it off: from there on text is shown up to the next control character, which is
read as part of the sequence again, unless a character beyond ASCII stands between.
-/

namespace Reckoner.Text

/-- What part of a control sequence is being read. -/
inductive ControlState where
  /-- No sequence is open. -/
  | ground
  /-- Behind the escape character. -/
  | escape
  /-- Behind the escape character and a character between space and slash. -/
  | designation
  /-- Behind an opening bracket, up to a letter. -/
  | sequence
  /-- At the front of a device control. -/
  | device
  /-- Among the parameters of a device control. -/
  | deviceParameters
  /-- Behind the parameters of a device control. -/
  | deviceDesignation
  /-- In a text that ends with the byte 9C. -/
  | string
  /-- In a text that ends with a bell. -/
  | command
deriving Repr, DecidableEq

namespace ControlState

/-- The state behind a character of an open sequence. An escape character starts a
new one, and cancel and substitute end any. -/
def next (c : Char) (state : ControlState) : ControlState :=
  let isMiddle := ' ' ≤ c ∧ c ≤ '/'
  let isParameter := '0' ≤ c ∧ c ≤ '?'
  let isFinal := '@' ≤ c ∧ c ≤ '~'
  if c = '\x1b' then escape
  else if c = '\x18' ∨ c = '\x1a' then ground
  else
    match state with
    | ground => ground
    | escape =>
      if isMiddle then designation
      else if c = '[' then sequence
      else if c = ']' then command
      else if c = 'P' then device
      else if c = 'X' ∨ c = '^' ∨ c = '_' then string
      else if isParameter ∨ isFinal then ground
      else escape
    | designation => if isParameter ∨ isFinal then ground else designation
    | sequence => if isFinal then ground else sequence
    | device =>
      if isMiddle then deviceDesignation
      else if isParameter then deviceParameters
      else if isFinal then string
      else device
    | deviceParameters =>
      if isMiddle then deviceDesignation
      else if '<' ≤ c ∧ c ≤ '~' then string
      else deviceParameters
    | deviceDesignation => if isParameter ∨ isFinal then string else deviceDesignation
    | string => if 0x9C ∈ String.utf8EncodeChar c then ground else string
    | command => if c = '\x07' then ground else command

/-- Whether a blank inside an open sequence is shown. -/
def showsBlanks : ControlState → Bool
  | ground | escape | designation | sequence => true
  | device | deviceParameters | deviceDesignation | string | command => false

end ControlState

/-- Blanks that move the place where text is shown. -/
private def isFormatBlank (c : Char) : Bool :=
  c = '\t' || c = '\n' || c = '\x0c' || c = '\r'

/-- Whether a character of plain text is shown. -/
private def isShown (c : Char) : Bool :=
  if c < ' ' then isFormatBlank c else c ≠ '\x7f'

/-- What is shown of a text. The sequence left open in front of it, if there is one,
is in a given state; `inText` says whether it is broken off. -/
private def dropControlsFrom (inText : Bool) (state : ControlState) : List Char → List Char
  | [] => []
  | c :: rest =>
    if (inText || state = .ground) && isShown c || state.showsBlanks && isFormatBlank c then
      c :: dropControlsFrom true (if c.toNat < 0x80 then state else .ground) rest
    else dropControlsFrom false (state.next c) rest

/-- A text without control sequences and without control characters that are no
blanks. -/
def dropControls (s : String) : String :=
  String.ofList (dropControlsFrom false .ground s.toList)

end Reckoner.Text
