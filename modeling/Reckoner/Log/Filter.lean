import Reckoner.Log.Pattern
import Reckoner.Log.Record
import Reckoner.Number.Decimal
import Reckoner.Text.Alphanumeric
import Reckoner.Text.Blank

/-!
# Reckoner — which records are logged

A filter is written as a list of directives between commas. A directive may name a
target, a span in brackets with conditions on fields, and after an equals sign the
least severity it lets through: `info`, `store=debug`, `store[load{id}]=trace`. A
record is judged by the most specific directive that applies to it: the one with the
longest target, and among those the one with the most fields; a directive that is
written again replaces the earlier one.

Records are never made inside spans here, so a directive for a span, or for the
value of a field, lets nothing through.
-/

namespace Reckoner.Log

/-- The least severity that is let through; nothing, if there is none. -/
abbrev Threshold := Option Severity

/-- The rank of a severity, the most urgent first. -/
def Severity.rank : Severity → Nat
  | .error => 1
  | .warn => 2
  | .info => 3
  | .debug => 4
  | .trace => 5

/-- A condition on a field: that it is there, and perhaps what its value is. -/
structure FieldCondition where
  name : String
  value : Option String
deriving Repr, DecidableEq, Inhabited

/-- One part of a filter. -/
structure Directive where
  target : Option String := none
  span : Option String := none
  fields : List FieldCondition := []
  threshold : Threshold := some .trace
deriving Repr, DecidableEq, Inhabited

-- ---------------------------------------------------------------------------
-- Reading
-- ---------------------------------------------------------------------------

/-- The threshold that a word or a digit names. -/
def threshold? (word : String) : Option Threshold :=
  let digits := match word.toList with
    | '+' :: digits => digits
    | digits => digits
  let number? : Option Nat :=
    if digits ≠ [] ∧ digits.all Char.isDigit then some (Nat.ofDigitChars 10 digits 0) else none
  match number?, String.ofList (word.toList.map Char.toLower) with
  | some 0, _ | _, "off" => some none
  | some 1, _ | _, "" | _, "error" => some (some .error)
  | some 2, _ | _, "warn" => some (some .warn)
  | some 3, _ | _, "info" => some (some .info)
  | some 4, _ | _, "debug" => some (some .debug)
  | some 5, _ | _, "trace" => some (some .trace)
  | _, _ => none

/-- A stretch of a text between two byte offsets, if neither falls inside a character. -/
def slice? (start stop : Nat) : List Char → Option (List Char)
  | [] => if start = 0 ∧ stop = 0 then some [] else none
  | c :: rest =>
    if 0 < start then
      if c.utf8Size ≤ start then slice? (start - c.utf8Size) (stop - c.utf8Size) rest else none
    else if stop = 0 then some []
    else if c.utf8Size ≤ stop then (slice? 0 (stop - c.utf8Size) rest).map (c :: ·)
    else none

/-- The value that a condition on a field asks for: a number, or a pattern. -/
def isFieldValue (text : List Char) : Bool :=
  (Number.ofText? (String.ofList text)).isSome || Pattern.isPattern text

/-- A condition on a field as it stands between braces. -/
def FieldCondition.parse? (text : List Char) : Option FieldCondition :=
  let name := String.ofList (text.takeWhile (· ≠ '='))
  match text.dropWhile (· ≠ '=') with
  | [] => if text = [] then none else some ⟨name, none⟩
  | _ :: rest =>
    let value := rest.takeWhile (· ≠ '=')
    if isFieldValue value then some ⟨name, some (String.ofList value)⟩ else none

namespace Directive

/-- A directive is read from its text without the white space around it, but what it
names is taken from the text as it was written, at the same offsets. So white space in
front of a directive shifts all that it names. -/
structure Source where
  written : List Char

namespace Source

/-- What is named between two offsets. -/
def piece? (s : Source) (start stop : Nat) : Option String :=
  (slice? start stop s.written).map String.ofList

/-- What is named from an offset on. -/
def fromOffset? (s : Source) (start : Nat) : Option String :=
  s.piece? start (String.ofList s.written).utf8ByteSize

end Source

/-- How many bytes characters take. -/
private def width (cs : List Char) : Nat := (String.ofList cs).utf8ByteSize

/-- The threshold that starts at an offset; nothing stands for all severities. -/
def withThreshold? (s : Source) (d : Directive) (offset : Nat) : Option Directive := do
  let word ← s.fromOffset? offset
  if word = "" then return { d with threshold := some .trace }
  else return { d with threshold := ← threshold? word }

/-- What follows the bracket that closes a span, at an offset: nothing, or a
threshold. -/
def afterSpan? (s : Source) (d : Directive) (offset : Nat) : List Char → Option Directive
  | [] => some d
  | '=' :: _ => withThreshold? s d (offset + 1)
  | _ => none

/-- A span with its conditions, from an offset behind its opening bracket. -/
def inSpan? (s : Source) (d : Directive) (offset : Nat) (text : List Char) :
    Option Directive := do
  let stop := offset + width (text.takeWhile fun c => c ≠ ']' ∧ c ≠ '\x7b')
  let name ← s.piece? offset stop
  match text.dropWhile fun c => c ≠ ']' ∧ c ≠ '\x7b' with
  | [] => none
  | ']' :: rest => afterSpan? s { d with span := some name } (stop + 1) rest
  | _ :: rest =>
    let stop' := stop + 1 + width (rest.takeWhile (· ≠ '\x7d'))
    match rest.dropWhile (· ≠ '\x7d') with
    | _ :: ']' :: rest' =>
      let condition ← FieldCondition.parse? (← slice? (stop + 1) stop' s.written)
      let span := if name = "" then none else some name
      afterSpan? s { d with span, fields := [condition] } (stop' + 2) rest'
    | _ => none

/-- Characters that may start a target. -/
private def startsTarget (c : Char) : Bool :=
  c = '-' || c = ':' || c = '_' || Text.alphanumericRanges.has c

/-- The directive that a text stands for, if it stands for one. A text with nothing
but a threshold in it is a directive for all targets. -/
def parse? (text : String) : Option Directive := do
  let s : Source := ⟨text.toList⟩
  match Text.trimChars s.written with
  | [] => none
  | '[' :: rest => inSpan? s {} 1 rest
  | c :: rest =>
    let cs := c :: rest
    if startsTarget c then
      let stop := width (cs.takeWhile fun c => c ≠ '=' ∧ c ≠ '[')
      match cs.dropWhile fun c => c ≠ '=' ∧ c ≠ '[' with
      | [] =>
        match threshold? text with
        | some threshold => return { threshold }
        | none => return { target := some text }
      | mark :: rest =>
        let d : Directive := { target := some (← s.piece? 0 stop) }
        if mark = '=' then withThreshold? s d (stop + 1) else inSpan? s d (stop + 1) rest
    else none

end Directive

/-- A filter: its directives, in the order in which they are written. -/
abbrev Filter := List Directive

/-- The filter that a text stands for, if all its parts are directives. -/
def Filter.parse? (text : String) : Option Filter :=
  ((text.splitOn ",").filter (· ≠ "")).mapM Directive.parse?

-- ---------------------------------------------------------------------------
-- Judging
-- ---------------------------------------------------------------------------

namespace Directive

/-- Whether a directive says anything about records outside spans. -/
def isPlain (d : Directive) : Bool :=
  d.span.isNone && d.fields.all (·.value.isNone)

/-- Whether a directive is about a record: its target starts with the directive's,
and it has the fields named. -/
def appliesTo (d : Directive) (r : Record) : Bool :=
  d.isPlain && d.target.all (fun target => target.toList.isPrefixOf r.target.toList)
    && d.fields.all fun f =>
      f.name = "message" || r.fields.any (·.1 = f.name) || f.name ∈ r.unshown

/-- How specific a directive is: whether it names a target and how long that is,
then how many fields it names. -/
def specificity (d : Directive) : Nat × Nat :=
  (d.target.elim 0 (·.utf8ByteSize + 1), d.fields.length)

/-- Whether the first directive goes before the second, or takes its place: it is more
specific, or as specific and its fields do not come earlier in the alphabet. -/
def precedes (d e : Directive) : Bool :=
  let (a, b) := d.specificity
  let (a', b') := e.specificity
  let later := (compare (e.fields.map (·.name)) (d.fields.map (·.name))).isLE
  a' < a || a' = a && (b' < b || b' = b && later)

end Directive

namespace Filter

/-- The directive that judges a record: the first in order of precedence among those
that apply, and of equal ones the last. -/
def judge? (filter : Filter) (r : Record) : Option Directive :=
  (filter.filter (·.appliesTo r)).foldl
    (fun best d =>
      match best with
      | some b => if d.precedes b then some d else some b
      | none => some d)
    none

/-- Whether a record is logged. -/
def admits (filter : Filter) (r : Record) : Bool :=
  match filter.judge? r with
  | some d => d.threshold.any fun least => r.severity.rank ≤ least.rank
  | none => false

/-- The lines of the records that are logged. -/
def lines (filter : Filter) (records : List Record) : List String :=
  (records.filter filter.admits).map Record.text

end Filter

end Reckoner.Log
