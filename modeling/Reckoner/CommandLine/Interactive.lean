import Reckoner.CommandLine.Output
import Reckoner.Evaluation
import Reckoner.Text.Blank
import Reckoner.Text.Cluster

/-!
# Reckoner — answering line by line

Each line of the input is an expression of its own, evaluated in the same
environment; what one line does has no effect on the next. A few words that start
with a colon are orders. The session ends at the end of the input, at an order to
quit, or at a line that is no text.

* `Interactive.respond` — what one line is answered;
* `Interactive.round` — what is done around it, once for each line;
* `Interactive.run` — what a whole input is answered.
-/

namespace Reckoner.CommandLine.Interactive

/-- A line of input, without what ends it and without what was taken back. -/
inductive Line where
  | text (chars : List Char)
  /-- A line whose bytes are no UTF-8. -/
  | malformed
deriving Repr, DecidableEq

/-- What a line is answered, and whether the session goes on; if not, with what
success it ends. -/
structure Response where
  output : Output
  ending : Option UInt8 := none

/-- What a session needs to know. -/
structure Setting where
  env : Environment
  filter : Log.Filter

/-- Recorded before each attempt to read a line. -/
def reading : Log.Record :=
  { severity := .debug
    target := "rustyline"
    message := "stdin is not a tty"
    unshown := ["log.target", "log.module_path", "log.file", "log.line"] }

/-- The failure at a line that is no text. -/
def malformedInput : Failure := .io "stream did not contain valid UTF-8"

/-- What the text of a line is answered, the white space around it left out. -/
def respondTo (s : Setting) (text : String) : Response :=
  if text = ":quit" ∨ text = ":exit" then { output := {}, ending := some 0 }
  else if text = "" then { output := {} }
  else if text = ":env" then { output := .line (" ".intercalate s.env.names) }
  else
    let (outcome, events) := evaluateAlone s.env text
    { output := .ofOutcome s.filter outcome events }

/-- What a line is answered. -/
def respond (s : Setting) : Line → Response
  | .text chars => respondTo s (String.ofList (Text.trimChars chars))
  | .malformed => { output := .errorLine malformedInput.text, ending := some 1 }

/-- What is logged of an attempt to read a line. -/
def attempt (filter : Log.Filter) : Output := .logged filter [reading]

/-- One round of a session, wherever its lines come from and its output goes: the attempt
to read a line is logged, the next line is answered, and what comes later follows unless
the session ends there. -/
def round {m : Type → Type} [Monad m] (s : Setting) (write : Output → m Unit)
    (next : m (Option Line)) (later : m UInt8) : m UInt8 := do
  write (attempt s.filter)
  match ← next with
  | none => return 0
  | some line =>
    let response := respond s line
    write response.output
    match response.ending with
    | some exit => return exit
    | none => later

/-- The rounds that take their lines from a list and put their output behind what is
written already. -/
def rounds (s : Setting) (lines : List Line) : StateM Output UInt8 :=
  round s (fun output => modify (· ++ output)) (pure lines.head?) <|
    match lines with
    | [] => pure 0 -- never comes: the session ends where the lines do
    | _ :: rest => rounds s rest

/-- The session that a list of lines makes. -/
def run (s : Setting) (lines : List Line) : Result :=
  let (exit, output) := (rounds s lines).run {}
  ⟨output, exit⟩

-- ---------------------------------------------------------------------------
-- Lines
-- ---------------------------------------------------------------------------

/-- The characters of a line without its ending: a newline, and a carriage return in
front of it. -/
def stripEnding (line : List Char) : List Char :=
  match line.reverse with
  | '\n' :: '\r' :: rest => rest.reverse
  | '\n' :: rest => rest.reverse
  | _ => line

/-- Pieces of a list that end with a given element each, but perhaps for the last. -/
def splitAfter {α : Type} [DecidableEq α] (stop : α) : List α → List (List α)
  | [] => []
  | x :: rest =>
    if x = stop then [x] :: splitAfter stop rest
    else
      match splitAfter stop rest with
      | [] => [[x]]
      | piece :: pieces => (x :: piece) :: pieces

/-- The lines of a text. -/
def linesOf (text : List Char) : List Line :=
  (splitAfter '\n' text).map fun line => .text (Text.applyBackspaces (stripEnding line))

/-- The lines of an input, of which only the last may be no text. -/
def linesOfBytes (bytes : ByteArray) : List Line :=
  match String.fromUTF8? bytes with
  | some text => linesOf text.toList
  | none => upToMalformed (splitAfter 10 bytes.toList)
where
  /-- The lines up to the first that is no text. -/
  upToMalformed : List (List UInt8) → List Line
    | [] => []
    | line :: rest =>
      match String.fromUTF8? ⟨line.toArray⟩ with
      | some text => linesOf text.toList ++ upToMalformed rest
      | none => [.malformed]

end Reckoner.CommandLine.Interactive
