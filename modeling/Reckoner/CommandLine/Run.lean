import Reckoner.CommandLine.Help
import Reckoner.CommandLine.Interactive
import Reckoner.Prelude
import Reckoner.Text.Controls

/-!
# Reckoner — what the command line does

The result of a whole run of the program as a function of its arguments and of what
it can read: nothing here reads or writes by itself.
-/

namespace Reckoner.CommandLine

/-- Why a file cannot be read: the number that the system gives to the reason. -/
structure SystemError where
  code : Nat
deriving Repr, DecidableEq, Inhabited

/-- How a reason is put into words. -/
def SystemError.text (e : SystemError) : String :=
  let reason := match e.code with
    | 2 => "No such file or directory"
    | 5 => "Input/output error"
    | 13 => "Permission denied"
    | 20 => "Not a directory"
    | 21 => "Is a directory"
    | 36 => "File name too long"
    | 40 => "Too many levels of symbolic links"
    | code => s!"Unknown error {code}"
  s!"{reason} (os error {e.code})"

/-- What a run can read. -/
structure Inputs where
  /-- The content of the file that a path names. -/
  file : String → Except SystemError ByteArray
  stdin : ByteArray

/-- The filter that the two variables of the system ask for: the first one that is set
and can be read as a filter; without one nothing is logged. -/
def filterOf (own general : Option String) : Log.Filter :=
  ((own.bind Log.Filter.parse?) <|> (general.bind Log.Filter.parse?)).getD []

/-- The environment of a run: the names bound on the command line, around them the
functions of the library unless they are left out. -/
def Invocation.environment (inv : Invocation) : Environment :=
  let base := if inv.bare then .empty else (Environment.prelude 0).inside
  base.extend (inv.bindings.map Binding.pair)

/-- Success if the output is not about a failure. -/
private def exitOf {ε α : Type} : Except ε α → UInt8
  | .ok _ => 0
  | .error _ => 1

/-- The evaluation of one text. -/
def evaluateText (filter : Log.Filter) (env : Environment) (source : String) : Result :=
  let (outcome, events) := evaluateAlone env source
  ⟨.ofOutcome filter outcome events, exitOf outcome⟩

/-- The text of a file, or why there is none. -/
def fileText (content : Except SystemError ByteArray) : Except Failure String :=
  match content with
  | .error e => .error (.io e.text)
  | .ok bytes =>
    match String.fromUTF8? bytes with
    | some text => .ok text
    | none => .error Interactive.malformedInput

/-- The listing of the tokens of a text. -/
def listTokens (filter : Log.Filter) (source : String) : Result :=
  match Token.scan source with
  | .ok tokens =>
    let log := Output.logged filter [(Event.scanned tokens.length).record]
    ⟨log ++ { stdout := String.join (tokens.map (·.text ++ "\n")) }, 0⟩
  | .error d => ⟨.errorLine d.text, 1⟩

/-- The result of an invocation. The text of a file is evaluated without the white
space around it. -/
def Invocation.perform (inv : Invocation) (filter : Log.Filter) (inputs : Inputs) : Result :=
  match inv.command with
  | .eval expression => evaluateText filter inv.environment expression
  | .run path =>
    match fileText (inputs.file path) with
    | .ok text => evaluateText filter inv.environment (Text.trim text)
    | .error failure => ⟨.errorLine failure.text, 1⟩
  | .tokens expression => listTokens filter expression
  | .repl =>
    Interactive.run ⟨inv.environment, filter⟩ (Interactive.linesOfBytes inputs.stdin)

/-- A word set off from the text around it, as a terminal shows it. -/
def highlight (word : String) : String := "\x1b[1m" ++ word ++ "\x1b[0m"

/-- The report of arguments that are refused. Control sequences are taken out of it as
a whole: one that an argument leaves open ends with the next highlight. -/
def UsageError.report (e : UsageError) : Result :=
  let hint := "For more information, try '" ++ highlight "--help" ++ "'."
  ⟨.errorLine (Text.dropControls ("error: " ++ e.message highlight ++ "\n\n" ++ hint)), 2⟩

/-- The result of a run of the program. -/
def run (args : List String) (filter : Log.Filter) (inputs : Inputs) : Result :=
  match Arguments.parse args with
  | .error e => e.report
  | .ok (.help topic) => ⟨.line (helpText topic), 0⟩
  | .ok .version => ⟨.line versionText, 0⟩
  | .ok (.invoke inv) => inv.perform filter inputs

end Reckoner.CommandLine
