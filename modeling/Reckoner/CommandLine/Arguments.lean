import Reckoner.Number.Decimal
import Reckoner.Text.Blank
import Reckoner.Value

/-!
# Reckoner — the arguments of the command line

    eep [--var NAME=VALUE]... [--bare] [eval EXPRESSION | run PATH | tokens EXPRESSION | repl]

Options may stand in front of a command and behind it, where they belong to the
command. Arguments are read from left to right. A value or an operand that has been
read is **pending**: it is looked at only when the next option or operand is
accepted, or at the end, so a later argument that nothing can accept is refused
first. A command is read to its end before what is pending in front of it is looked
at. Behind `--` there are only operands.

* `Arguments.parse` — what a list of arguments asks for, or why it is refused;
* `Binding.decode` — the value that a text after the equals sign stands for.
-/

namespace Reckoner.CommandLine

-- ---------------------------------------------------------------------------
-- Bindings
-- ---------------------------------------------------------------------------

/-- A name and the text it is bound to. -/
structure Binding where
  name : String
  text : String
deriving Repr, DecidableEq, Inhabited

/-- Why a text is no binding. -/
inductive BindingFault where
  /-- It has no equals sign. -/
  | noEquals (text : String)
  /-- There is nothing in front of the equals sign. -/
  | noName
deriving Repr, DecidableEq

/-- What is said about a text that is no binding. -/
def BindingFault.message : BindingFault → String
  | noEquals text => s!"expected NAME=VALUE, found `{text}`"
  | noName => "binding name must not be empty"

namespace Binding

/-- The binding that a text stands for: the first equals sign divides it, and the
name is taken without the white space around it. -/
def parse (text : String) : Except BindingFault Binding :=
  let cs := text.toList
  match cs.dropWhile (· ≠ '=') with
  | [] => .error (.noEquals text)
  | _ :: value =>
    let name := Text.trimChars (cs.takeWhile (· ≠ '='))
    if name = [] then .error .noName
    else .ok ⟨String.ofList name, String.ofList value⟩

/-- The value that a text stands for: one of three words, a number, or itself. -/
def decode : String → Value
  | "true" => .bool true
  | "false" => .bool false
  | "nil" => .nil
  | text =>
    match Number.ofText? text with
    | some x => .number x
    | none => .string text

/-- What a binding binds. -/
def pair (b : Binding) : String × Value := (b.name, decode b.text)

end Binding

-- ---------------------------------------------------------------------------
-- Requests and refusals
-- ---------------------------------------------------------------------------

/-- The names of the commands. -/
inductive CommandName where
  | eval
  | run
  | tokens
  | repl
  | help
deriving Repr, DecidableEq, Inhabited

/-- The command that a word names, in exactly this spelling. -/
def CommandName.ofString? : String → Option CommandName
  | "eval" => some .eval
  | "run" => some .run
  | "tokens" => some .tokens
  | "repl" => some .repl
  | "help" => some .help
  | _ => none

/-- What is to be done. -/
inductive Command where
  | eval (expression : String)
  | run (path : String)
  | tokens (expression : String)
  | repl
deriving Repr, DecidableEq, Inhabited

/-- A command and the environment it is done in. -/
structure Invocation where
  bindings : List Binding
  /-- Whether the functions of the library are left out. -/
  bare : Bool
  command : Command
deriving Repr, DecidableEq, Inhabited

/-- What a list of arguments asks for. -/
inductive Request where
  | invoke (invocation : Invocation)
  /-- The help about a command, or about the program. -/
  | help (topic : Option CommandName)
  | version
deriving Repr, DecidableEq, Inhabited

/-- The operands that commands take. -/
inductive Operand where
  | expression
  | path
deriving Repr, DecidableEq

/-- How an operand is shown. -/
def Operand.label : Operand → String
  | expression => "<EXPRESSION>"
  | path => "<PATH>"

/-- Why a list of arguments is refused. -/
inductive UsageError where
  | badBinding (text : String) (fault : BindingFault)
  /-- An option or an operand lacks its value. -/
  | missingValue (owner : String)
  /-- A flag is given a value. -/
  | unwantedValue (flag value : String)
  | repeatedFlag (flag : String)
  | unexpectedArgument (argument : String)
  | unknownCommand (name : String)
  | missingOperand (operand : Operand)
deriving Repr, DecidableEq

/-- How the option that binds a name is shown. -/
def bindingOption : String := "--var <NAME=VALUE>"

/-- What is said about arguments that are refused. Words in question are set off by
`mark`; what a fault of a binding quotes is not. -/
def UsageError.message (mark : String → String) : UsageError → String
  | badBinding text fault =>
    s!"invalid value '{mark text}' for '{mark bindingOption}': {fault.message}"
  | missingValue owner => s!"a value is required for '{mark owner}' but none was supplied"
  | unwantedValue flag value =>
    s!"unexpected value '{mark value}' for '{mark flag}' found; no more were expected"
  | repeatedFlag flag => s!"the argument '{mark flag}' cannot be used multiple times"
  | unexpectedArgument argument => s!"unexpected argument '{mark argument}' found"
  | unknownCommand name => s!"unrecognized subcommand '{mark name}'"
  | missingOperand operand =>
    s!"the following required arguments were not provided:\n  {mark operand.label}"

-- ---------------------------------------------------------------------------
-- Reading one level
-- ---------------------------------------------------------------------------

/-- Where options are read: in front of a command, or behind one that may take an
operand. -/
inductive ArgumentLevel where
  | top
  | command (operand : Option Operand)
deriving Repr, DecidableEq

/-- What has been read but not yet looked at. -/
inductive Pending where
  | nothing
  /-- An option that binds a name, perhaps still without its value. -/
  | binding (text : Option String)
  | operand (kind : Operand) (text : String)
deriving Repr, DecidableEq

/-- What has been read on a level. -/
structure Gathered where
  bindings : List Binding := []
  bare : Bool := false
  operand : Option String := none
  pending : Pending := .nothing
deriving Repr, DecidableEq

namespace Gathered

/-- Accepts the text of a binding. -/
def bind (g : Gathered) (text : String) : Except UsageError Gathered :=
  match Binding.parse text with
  | .ok b => .ok { g with bindings := g.bindings ++ [b] }
  | .error fault => .error (.badBinding text fault)

/-- Looks at what is pending. -/
def settle (g : Gathered) : Except UsageError Gathered :=
  let settled := { g with pending := .nothing }
  match g.pending with
  | .nothing => .ok settled
  | .binding none => .error (.missingValue bindingOption)
  | .binding (some text) => settled.bind text
  | .operand .path "" => .error (.missingValue Operand.path.label)
  | .operand _ text => .ok { settled with operand := some text }

/-- Whether an operand has been read. -/
def hasOperand (g : Gathered) : Bool :=
  g.operand.isSome || (match g.pending with | .operand _ _ => true | _ => false)

end Gathered

/-- Where the reading of a level stops. -/
inductive Stop where
  | finished
  | command (name : CommandName) (rest : List String)
  | help
  | version
deriving Repr, DecidableEq

/-- The forms an argument may have. -/
inductive ArgumentForm where
  | separator
  | long (name : String) (value : Option String)
  /-- Letters behind a single hyphen, of which the first is looked at. -/
  | short (letter : Char)
  | plain
deriving Repr, DecidableEq

/-- The form of an argument. A hyphen on its own is an operand. -/
def ArgumentForm.of (arg : String) : ArgumentForm :=
  match arg.toList with
  | ['-', '-'] => .separator
  | '-' :: '-' :: cs =>
    let value := match cs.dropWhile (· ≠ '=') with
      | _ :: value => some (String.ofList value)
      | [] => none
    .long (String.ofList (cs.takeWhile (· ≠ '='))) value
  | '-' :: c :: _ => .short c
  | _ => .plain

namespace ArgumentLevel

/-- Whether the level stands in front of a command. -/
def isTop : ArgumentLevel → Bool
  | top => true
  | command _ => false

/-- A flag that was given without a value, or its refusal. -/
private def flag (name : String) (value : Option String) (g : Gathered) :
    Except UsageError Gathered :=
  match value with
  | some v => .error (.unwantedValue name v)
  | none => g.settle

/-- A letter behind a hyphen. -/
private def letter (level : ArgumentLevel) (c : Char) (g : Gathered) :
    Except UsageError (Gathered × Stop) :=
  if c = 'h' then g.settle.map (·, .help)
  else if c = 'V' ∧ level.isTop then g.settle.map (·, .version)
  else .error (.unexpectedArgument (String.ofList ['-', c]))

/-- An operand, behind `--` or not. -/
private def operand (level : ArgumentLevel) (trailing : Bool) (arg : String) (g : Gathered) :
    Except UsageError Gathered :=
  match level with
  | top =>
    if trailing ∧ (CommandName.ofString? arg).isSome then .error (.unexpectedArgument arg)
    else .error (.unknownCommand arg)
  | command none => .error (.unexpectedArgument arg)
  | command (some kind) =>
    if g.hasOperand then .error (.unexpectedArgument arg)
    else g.settle.map fun g => { g with pending := .operand kind arg }

/-- The command at which the reading of a level stops, if an argument names one. -/
private def command? (level : ArgumentLevel) (g : Gathered) (arg : String) :
    Option CommandName :=
  if level.isTop ∧ g.pending ≠ .binding none then CommandName.ofString? arg else none

/-- Reads the arguments of a level. -/
def read (level : ArgumentLevel) (trailing : Bool) (g : Gathered) :
    List String → Except UsageError (Gathered × Stop)
  | [] => .ok (g, .finished)
  | arg :: rest =>
    if trailing then do read level trailing (← level.operand trailing arg g) rest
    else
      match level.command? g arg with
      | some name => .ok (g, .command name rest)
      | none =>
        match ArgumentForm.of arg with
        | .separator => read level true g rest
        | .long "var" (some text) => do read level trailing (← (← g.settle).bind text) rest
        | .long "var" none => do
          read level trailing { ← g.settle with pending := .binding none } rest
        | .long "bare" value => do
          let g ← flag "--bare" value g
          if g.bare then .error (.repeatedFlag "--bare")
          else read level trailing { g with bare := true } rest
        | .long "help" value => (flag "--help" value g).map (·, .help)
        | .long "version" value =>
          if level.isTop then (flag "--version" value g).map (·, .version)
          else .error (.unexpectedArgument "--version")
        | .long name _ => .error (.unexpectedArgument ("--" ++ name))
        | .short c => level.letter c g
        | .plain =>
          if g.pending = .binding none then
            read level trailing { g with pending := .binding (some arg) } rest
          else do read level trailing (← level.operand trailing arg g) rest

end ArgumentLevel

-- ---------------------------------------------------------------------------
-- Reading everything
-- ---------------------------------------------------------------------------

namespace CommandName

/-- The operand of a command. -/
def operand : CommandName → Option Operand
  | eval | tokens => some .expression
  | run => some .path
  | repl | help => none

/-- A command with its operand. -/
def toCommand : CommandName → Option String → Except UsageError Command
  | eval, some expression => .ok (.eval expression)
  | tokens, some expression => .ok (.tokens expression)
  | run, some path => .ok (.run path)
  | eval, none | tokens, none => .error (.missingOperand .expression)
  | run, none => .error (.missingOperand .path)
  | repl, _ | help, _ => .ok .repl

end CommandName

namespace Arguments

/-- What is asked for behind `help`: at most the name of one command. -/
private def helpTopic : List String → Except UsageError Request
  | [] => .ok (.help none)
  | topic :: rest =>
    match CommandName.ofString? topic, rest with
    | none, _ => .error (.unknownCommand topic)
    | some name, [] => .ok (.help (some name))
    | some _, more :: _ => .error (.unknownCommand more)

/-- A command as it is to be done. Bindings behind a command take the place of those
in front of it. -/
private def invocation (top sub : Gathered) (command : Command) : Request :=
  .invoke
    { bindings := if sub.bindings = [] then top.bindings else sub.bindings
      bare := top.bare || sub.bare
      command }

/-- What a list of arguments asks for. Without a command it asks for `repl`. -/
def parse (args : List String) : Except UsageError Request := do
  match ← ArgumentLevel.top.read false {} args with
  | (_, .help) => return .help none
  | (_, .version) => return .version
  | (_, .command .help rest) => helpTopic rest
  | (top, .finished) => return invocation (← top.settle) {} .repl
  | (top, .command name rest) =>
    match ← (ArgumentLevel.command name.operand).read false {} rest with
    | (_, .help) => return .help (some name)
    | (_, .version) => return .version
    | (sub, _) =>
      let sub ← sub.settle
      let command ← name.toCommand sub.operand
      return invocation (← top.settle) sub command

end Arguments

end Reckoner.CommandLine
