import Reckoner.Text.Alphanumeric
import Reckoner.Text.Blank

/-!
# Reckoner — which texts are patterns

A condition on the value of a field may hold a **pattern**, a regular expression.
Records are never matched against one here, so all that counts is which texts are
patterns: a text that is none makes its whole filter void.

A pattern is matched byte by byte by a finite automaton that knows the classes of
ASCII only. So it must not ask for classes of Unicode or for letters regardless of
case, unless it gives up Unicode with the flag `u`; and without Unicode, it must not
ask for bytes beyond ASCII. It also must not be nested too deeply.

In a filter a pattern stands between braces and commas, so it holds neither a comma
nor a closing brace, and an opening brace that counts repetitions is never closed.
-/

namespace Reckoner.Log.Pattern

/-- How many nodes of a pattern may stand inside one another. -/
def maxDepth : Nat := 250

-- ---------------------------------------------------------------------------
-- Flags and blanks
-- ---------------------------------------------------------------------------

/-- The flags that decide which texts are patterns. -/
structure Flags where
  /-- `i`: letters are matched regardless of case. -/
  caseless : Bool := false
  /-- `u`: characters are matched, not bytes. -/
  unicode : Bool := true
  /-- `x`: white space and comments between the parts mean nothing. -/
  spaced : Bool := false
deriving Repr, DecidableEq, Inhabited

/-- What is left of a text. -/
abbrev Tail (cs : List Char) := { rest : List Char // rest.length ≤ cs.length }

namespace Tail

/-- A whole text. -/
def all (cs : List Char) : Tail cs := ⟨cs, Nat.le_refl _⟩

/-- What is left of a part is left of the whole. -/
def behind {cs ds : List Char} (t : Tail ds) (h : ds.length ≤ cs.length) : Tail cs :=
  ⟨t.1, Nat.le_trans t.2 h⟩

/-- What follows a first character. -/
def cons {cs : List Char} (c : Char) (t : Tail cs) : Tail (c :: cs) :=
  t.behind (by simp)

end Tail

/-- A text without the white space and the comments in front of it. -/
def dropBlanks (inComment : Bool) : (cs : List Char) → Tail cs
  | [] => .all []
  | c :: rest =>
    if inComment then (dropBlanks (c ≠ '\n') rest).cons c
    else if Text.isWhiteSpace c then (dropBlanks false rest).cons c
    else if c = '#' then (dropBlanks true rest).cons c
    else .all (c :: rest)

namespace Flags

/-- A text without what means nothing in front of it. -/
def skip (f : Flags) (cs : List Char) : Tail cs :=
  if f.spaced then dropBlanks false cs else .all cs

/-- The character that decides what a hyphen in front of a text means: the first one
that means something. A comment is looked into: its first character decides. -/
def peek? (f : Flags) (cs : List Char) : Option Char :=
  if f.spaced then
    match cs.dropWhile Text.isWhiteSpace with
    | [] => cs.head?
    | '#' :: comment => (comment.dropWhile Text.isWhiteSpace).head? <|> cs.head?
    | c :: _ => some c
  else cs.head?

/-- The flags after letters have been switched on, and those behind a hyphen off. -/
def set (f : Flags) (letters : List Char) : Flags :=
  let value (letter : Char) (old : Bool) : Bool :=
    if letter ∈ letters then letter ∈ letters.takeWhile (· ≠ '-') else old
  { caseless := value 'i' f.caseless
    unicode := value 'u' f.unicode
    spaced := value 'x' f.spaced }

end Flags

-- ---------------------------------------------------------------------------
-- Single characters
-- ---------------------------------------------------------------------------

/-- The parts of a pattern that have no parts. -/
inductive Atom where
  /-- One character; `byte` if it is written as a byte in hexadecimal digits. -/
  | literal (code : Nat) (byte : Bool)
  | anyCharacter
  /-- The front or the end of a line or of the text. -/
  | lineEdge
  /-- The front or the end of a word, or any place that is neither. -/
  | wordEdge
  /-- A class that has a letter, or all characters outside it. -/
  | shorthand (negated : Bool)
deriving Repr, DecidableEq

namespace Atom

/-- Whether a part can be matched. -/
def isSupported (f : Flags) : Atom → Bool
  | literal code byte => if f.unicode then !f.caseless else !(byte && 0x80 ≤ code)
  | anyCharacter => f.unicode
  | lineEdge => true
  | wordEdge => !f.unicode
  | shorthand negated => !f.unicode && !negated

/-- Whether a part can be matched as a member of a class. -/
def isMember (f : Flags) : Atom → Bool
  | literal code _ => if f.unicode then !f.caseless else code < 0x80
  | shorthand negated => !f.unicode && !negated
  | anyCharacter | lineEdge | wordEdge => false

end Atom

/-- The value of a hexadecimal digit. -/
def hexDigit? (c : Char) : Option Nat :=
  if c.isDigit then some (c.toNat - '0'.toNat)
  else if 'a' ≤ c ∧ c ≤ 'f' then some (c.toNat - 'a'.toNat + 10)
  else if 'A' ≤ c ∧ c ≤ 'F' then some (c.toNat - 'A'.toNat + 10)
  else none

/-- The value of so many more hexadecimal digits behind a value. -/
def hexNumber? (f : Flags) (value : Nat) : Nat → (cs : List Char) → Option (Nat × Tail cs)
  | 0, cs => some (value, f.skip cs)
  | count + 1, cs =>
    match f.skip cs with
    | ⟨[], _⟩ => none
    | ⟨c :: rest, h⟩ => do
      let digit ← hexDigit? c
      let (value, tail) ← hexNumber? f (16 * value + digit) count rest
      return (value, tail.behind (by simp only [List.length_cons] at h; omega))

/-- The character whose code is written in so many digits. -/
def hexLiteral? (f : Flags) (count : Nat) (cs : List Char) : Option (Atom × Tail cs) := do
  let (code, tail) ← hexNumber? f 0 count cs
  if code.isValidChar then return (.literal code (count = 2), tail) else none

/-- What stands behind a backslash. -/
def escaped? (f : Flags) : (cs : List Char) → Option (Atom × Tail cs)
  | [] => none
  | c :: rest =>
    let single (a : Atom) : Option (Atom × Tail (c :: rest)) := some (a, (Tail.all rest).cons c)
    let hex (count : Nat) := (hexLiteral? f count rest).map fun (a, t) => (a, t.cons c)
    match c with
    | 'x' => hex 2
    | 'u' => hex 4
    | 'U' => hex 8
    | 'd' | 's' | 'w' => single (.shorthand false)
    | 'D' | 'S' | 'W' => single (.shorthand true)
    | 'a' => single (.literal 0x07 false)
    | 't' => single (.literal 0x09 false)
    | 'n' => single (.literal 0x0A false)
    | 'v' => single (.literal 0x0B false)
    | 'f' => single (.literal 0x0C false)
    | 'r' => single (.literal 0x0D false)
    | 'A' | 'z' => single .lineEdge
    | 'b' | 'B' | '<' | '>' => single .wordEdge
    | c => if c.toNat < 0x80 ∧ !c.isAlphanum then single (.literal c.toNat false) else none

-- ---------------------------------------------------------------------------
-- Groups
-- ---------------------------------------------------------------------------

/-- What an opening parenthesis begins. -/
inductive Opening where
  /-- A group, perhaps with a name, and the flags inside it. -/
  | group (name : Option (List Char)) (flags : Flags)
  /-- A change of flags up to the end of the group around it. -/
  | change (flags : Flags)

/-- Whether a text may name a group. -/
def isGroupName : List Char → Bool
  | [] => false
  | c :: rest =>
    (c = '_' || Text.isAlphabetic c)
      && rest.all fun c =>
        c = '_' || c = '.' || c = '[' || c = ']' || Text.alphanumericRanges.has c

/-- Whether letters between a question mark and what ends them are flags. -/
def areFlags (letters : List Char) : Bool :=
  letters.all (· ∈ "imsUuRx-".toList) && letters.Nodup && letters.getLast? ≠ some '-'

/-- What is left of a text behind its first characters up to one that stops it. -/
def behind? (stop : Char → Bool) (cs : List Char) : Option (Char × Tail cs) :=
  match h : cs.dropWhile fun c => !stop c with
  | [] => none
  | c :: rest =>
    some (c, ⟨rest, by
      have := (List.dropWhile_suffix (l := cs) fun c => !stop c).length_le
      rw [h, List.length_cons] at this
      omega⟩)

/-- A group that has a name, from behind the bracket in front of the name. -/
def named? (f : Flags) (cs : List Char) : Option (Opening × Tail cs) := do
  let (_, tail) ← behind? (· = '>') cs
  let name := cs.takeWhile (· ≠ '>')
  if isGroupName name then return (.group (some name) f, tail) else none

/-- Flags, from behind the question mark: those of a group, or a change of flags,
which is not empty. -/
def flagged? (f : Flags) (cs : List Char) : Option (Opening × Tail cs) := do
  let (stop, tail) ← behind? (fun c => c = ':' || c = ')') cs
  let letters := cs.takeWhile fun c => !(c = ':' || c = ')')
  if !areFlags letters then none
  else if stop = ':' then return (.group none (f.set letters), tail)
  else if letters = [] then none
  else return (.change (f.set letters), tail)

/-- What an opening parenthesis begins. Looking around is not supported. -/
def opening? (f : Flags) (cs : List Char) : Option (Opening × Tail cs) :=
  match f.skip cs with
  | ⟨'?' :: '!' :: _, _⟩ | ⟨'?' :: '=' :: _, _⟩ => none
  | ⟨'?' :: '<' :: '!' :: _, _⟩ | ⟨'?' :: '<' :: '=' :: _, _⟩ => none
  | ⟨'?' :: 'P' :: '<' :: rest, h⟩ | ⟨'?' :: '<' :: rest, h⟩ =>
    (named? f rest).map fun (o, t) => (o, t.behind (by simp only [List.length_cons] at h; omega))
  | ⟨'?' :: rest, h⟩ =>
    (flagged? f rest).map fun (o, t) => (o, t.behind (by simp only [List.length_cons] at h; omega))
  | tail => some (.group none f, tail)

-- ---------------------------------------------------------------------------
-- Classes
-- ---------------------------------------------------------------------------

/-- The names of the classes of ASCII. -/
def classNames : List String :=
  ["alnum", "alpha", "ascii", "blank", "cntrl", "digit", "graph", "lower", "print", "punct",
    "space", "upper", "word", "xdigit"]

/-- A class of ASCII between colons, from behind its opening bracket, and whether it
is negated. -/
def namedClass? (cs : List Char) : Option (Bool × Tail cs) :=
  match cs with
  | ':' :: rest =>
    let (negated, name) : Bool × List Char := match rest with
      | '^' :: name => (true, name.takeWhile (· ≠ ':'))
      | name => (false, name.takeWhile (· ≠ ':'))
    let used := name.length + if negated then 1 else 0
    if String.ofList name ∈ classNames ∧ [':', ']'].isPrefixOf (rest.drop used) then
      some (negated, ⟨rest.drop (used + 2), by simp; omega⟩)
    else none
  | _ => none

/-- One character of a class, or what stands behind a backslash. -/
def member? (f : Flags) (c : Char) (rest : List Char) : Option (Atom × Tail rest) :=
  if c = '\\' then escaped? f rest else some (.literal c.toNat false, .all rest)

/-- A range of characters in a class, or a single member. A hyphen in front of a closing
bracket or of another hyphen makes no range. -/
def range? (f : Flags) (c : Char) (rest : List Char) : Option (Tail rest) := do
  let (first, tail) ← member? f c rest
  let single := if first.isMember f then some (f.skip tail.1 |>.behind tail.2) else none
  match f.skip tail.1 with
  | ⟨'-' :: more, h⟩ =>
    if f.peek? more = some ']' ∨ f.peek? more = some '-' then single
    else
      match f.skip more with
      | ⟨[], _⟩ => none
      | ⟨d :: last, h'⟩ => do
        let (second, tail') ← member? f d last
        match first, second with
        | .literal low _, .literal high _ =>
          if low ≤ high ∧ first.isMember f ∧ second.isMember f then
            some (tail'.behind (by
              have := tail.2
              simp only [List.length_cons] at h h'
              omega))
          else none
        | _, _ => none
  | _ => single

-- ---------------------------------------------------------------------------
-- Nesting
-- ---------------------------------------------------------------------------

/-- The depth of parts side by side: two or more of them make a node of their own. -/
def depthOf : List Nat → Nat
  | [] => 0
  | [depth] => depth
  | depths => depths.foldl max 0 + 1

/-- A class that is still open. -/
structure Bracket where
  /-- Whether nothing but hyphens has been read, which then stand for themselves. -/
  isFresh : Bool := true
  /-- The depths of the members read. -/
  members : List Nat := []
  /-- The depth of what stands in front of an operator between classes. -/
  left : Option Nat := none
deriving Repr, DecidableEq

namespace Bracket

/-- The class with one more member. -/
def add (b : Bracket) (depth : Nat) (isFresh : Bool) : Bracket :=
  { b with members := depth :: b.members, isFresh }

/-- The depth of what has been read. -/
def depth (b : Bracket) : Nat :=
  let right := depthOf b.members
  b.left.elim right fun left => max left right + 1

end Bracket

/-- A group that is still open, or the whole pattern. -/
structure Sequence where
  /-- The depths of the parts read since the last bar, the latest first; a change of
  flags has none, and cannot be repeated. -/
  parts : List (Option Nat) := []
  /-- The depths of the alternatives in front of the last bar. -/
  alternatives : List Nat := []
deriving Repr, DecidableEq

namespace Sequence

/-- The sequence with one more part. -/
def add (s : Sequence) (depth : Option Nat) : Sequence := { s with parts := depth :: s.parts }

/-- The sequence behind one more bar. -/
def bar (s : Sequence) : Sequence :=
  ⟨[], depthOf (s.parts.map (·.getD 0)) :: s.alternatives⟩

/-- The depth of what has been read. -/
def depth (s : Sequence) : Nat := depthOf s.bar.alternatives

end Sequence

-- ---------------------------------------------------------------------------
-- Reading
-- ---------------------------------------------------------------------------

/-- How far a pattern has been read. -/
structure State where
  flags : Flags := {}
  /-- The names given to groups. -/
  names : List (List Char) := []
  /-- The innermost group. -/
  sequence : Sequence := {}
  /-- The groups around it, with the flags that hold behind the group inside. -/
  groups : List (Flags × Sequence) := []
  /-- The classes that are open, from the inside out. -/
  brackets : List Bracket := []

namespace State

/-- The state with one more part in the innermost group. -/
def add (s : State) (depth : Option Nat) : State := { s with sequence := s.sequence.add depth }

/-- The state behind an opening bracket. A class of bytes cannot be negated. -/
def openBracket? (s : State) (cs : List Char) : Option (State × Tail cs) :=
  match s.flags.skip cs with
  | ⟨'^' :: rest, h⟩ =>
    if s.flags.unicode then
      some ({ s with brackets := {} :: s.brackets },
        (Tail.all rest).behind (by simp only [List.length_cons] at h; omega))
    else none
  | tail => some ({ s with brackets := {} :: s.brackets }, tail)

/-- The state behind a bracket that closes the innermost class. -/
def closeBracket (s : State) (b : Bracket) : List Bracket → State
  | [] => { s.add (some (b.depth + 1)) with brackets := [] }
  | outer :: rest => { s with brackets := outer.add (b.depth + 1) false :: rest }

/-- One step inside classes, of which `b` is the innermost. -/
def stepInside? (s : State) (b : Bracket) (outer : List Bracket) (c : Char)
    (rest : List Char) : Option (State × Tail rest) :=
  let withMember (isFresh : Bool) : State := { s with brackets := b.add 0 isFresh :: outer }
  if b.isFresh ∧ (c = '-' ∨ c = ']' ∧ b.members = []) then
    if (Atom.literal c.toNat false).isMember s.flags then some (withMember (c = '-'), .all rest)
    else none
  else if c = '[' then
    match namedClass? rest with
    | some (negated, tail) =>
      if if s.flags.unicode then !s.flags.caseless else !negated then
        some (withMember false, tail)
      else none
    | none => { s with brackets := { b with isFresh := false } :: outer }.openBracket? rest
  else if c = ']' then some (s.closeBracket b outer, .all rest)
  else if (c = '&' ∨ c = '-' ∨ c = '~') ∧ rest.head? = some c then
    some ({ s with brackets := ⟨false, [], some b.depth⟩ :: outer }, ⟨rest.tail, by simp⟩)
  else (range? s.flags c rest).map fun tail => (withMember false, tail)

/-- One step outside classes. -/
def stepOutside? (s : State) (c : Char) (rest : List Char) : Option (State × Tail rest) :=
  let atom (a : Atom) (tail : Tail rest) : Option (State × Tail rest) :=
    if a.isSupported s.flags then some (s.add (some 0), tail) else none
  match c with
  | '(' => do
    match ← opening? s.flags rest with
    | (.change flags, tail) => return ({ s.add none with flags }, tail)
    | (.group none flags, tail) =>
      return ({ s with flags, sequence := {}, groups := (s.flags, s.sequence) :: s.groups }, tail)
    | (.group (some name) flags, tail) =>
      if name ∈ s.names then none
      else
        return ({ s with
          flags, names := name :: s.names, sequence := {}
          groups := (s.flags, s.sequence) :: s.groups }, tail)
  | ')' =>
    match s.groups with
    | [] => none
    | (flags, sequence) :: groups =>
      some ({ s with flags, groups, sequence := sequence.add (some (s.sequence.depth + 1)) },
        .all rest)
  | '|' => some ({ s with sequence := s.sequence.bar }, .all rest)
  | '[' => s.openBracket? rest
  | '?' | '*' | '+' =>
    match s.sequence.parts with
    | some depth :: parts =>
      let repeated := { s with sequence.parts := some (depth + 1) :: parts }
      match rest with
      | '?' :: more => some (repeated, (Tail.all more).cons '?')
      | rest => some (repeated, .all rest)
    | _ => none
  | '\x7b' => none
  | '\\' => do
    let (a, tail) ← escaped? s.flags rest
    atom a tail
  | '.' => atom .anyCharacter (.all rest)
  | '^' | '$' => atom .lineEdge (.all rest)
  | c => atom (.literal c.toNat false) (.all rest)

/-- One step of the reading. -/
def step? (s : State) (c : Char) (rest : List Char) : Option (State × Tail rest) :=
  match s.brackets with
  | [] => s.stepOutside? c rest
  | b :: outer => s.stepInside? b outer c rest

/-- Whether a pattern may end here. -/
def isComplete (s : State) : Bool :=
  s.groups.isEmpty && s.brackets.isEmpty && s.sequence.depth ≤ maxDepth

/-- Whether a text completes a pattern. -/
def accepts (s : State) (cs : List Char) : Bool :=
  match s.flags.skip cs with
  | ⟨[], _⟩ => s.isComplete
  | ⟨c :: rest, _h⟩ =>
    match s.step? c rest with
    | none => false
    | some (next, tail) => next.accepts tail.1
termination_by cs.length
decreasing_by
  have := tail.2
  simp only [List.length_cons] at _h
  omega

end State

/-- Whether a text is a pattern. -/
def isPattern (cs : List Char) : Bool := State.accepts {} cs

end Reckoner.Log.Pattern
