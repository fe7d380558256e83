import Reckoner.CommandLine.Arguments

/-!
# Reckoner — what the program says about itself

A page of help for the program and for each of its commands: what it is for, its usage,
and tables of the words that may stand there.
-/

namespace Reckoner.CommandLine

/-- Words under a heading, and what is said about each of them. -/
structure HelpTable where
  heading : String
  rows : List (String × String)

/-- A page of help. -/
structure HelpPage where
  about : String
  usage : String
  tables : List HelpTable

/-- A table in two columns, the first as wide as its longest word. -/
def HelpTable.text (t : HelpTable) : String :=
  let width := t.rows.foldl (fun width (word, _) => max width word.length) 0
  let row := fun (word, about) => "\n  " ++ word.pushn ' ' (width - word.length) ++ "  " ++ about
  t.heading ++ ":" ++ String.join (t.rows.map row)

/-- The parts of a page, with a blank line between them. -/
def HelpPage.text (p : HelpPage) : String :=
  "\n\n".intercalate ([p.about, "Usage: " ++ p.usage] ++ p.tables.map HelpTable.text)

/-- The name of the program. -/
def programName : String := "eep"

namespace CommandName

/-- All commands, in the order in which they are listed. -/
def all : List CommandName := [eval, run, tokens, repl, help]

/-- The word that names a command. -/
def word : CommandName → String
  | eval => "eval"
  | run => "run"
  | tokens => "tokens"
  | repl => "repl"
  | help => "help"

/-- A command is asked for by its word. -/
theorem ofString?_word (name : CommandName) : ofString? name.word = some name := by
  cases name <;> rfl

/-- What a command is for. -/
def about : CommandName → String
  | eval => "Evaluate an expression and print its value"
  | run => "Evaluate the expression stored in a file"
  | tokens => "Print the tokens scanned from an expression"
  | repl => "Start an interactive session"
  | help => "Print this message or the help of the given subcommand(s)"

end CommandName

/-- The options that may stand in front of a command and behind it. Room is left where an
option has no letter. -/
def options : List (String × String) :=
  [("    " ++ bindingOption,
      "Bind a variable, e.g. `--var x=3`. Numbers, true/false and nil are decoded; " ++
        "anything else is bound as a string"),
    ("    --bare", "Do not install the built-in function prelude"),
    ("-h, --help", "Print help")]

/-- The page about a command, or about the program. -/
def helpPage : Option CommandName → HelpPage
  | none =>
    { about := "Evaluate single expressions"
      usage := programName ++ " [OPTIONS] [COMMAND]"
      tables :=
        [⟨"Commands", CommandName.all.map fun name => (name.word, name.about)⟩,
          ⟨"Options", options ++ [("-V, --version", "Print version")]⟩] }
  | some .help =>
    { about := CommandName.help.about
      usage := programName ++ " help [COMMAND]..."
      tables := [⟨"Arguments", [("[COMMAND]...", "Print help for the subcommand(s)")]⟩] }
  | some name =>
    let operands := name.operand.toList.map Operand.label
    { about := name.about
      usage := " ".intercalate ([programName, name.word, "[OPTIONS]"] ++ operands)
      tables :=
        operands.map (fun operand => ⟨"Arguments", [(operand, "")]⟩) ++ [⟨"Options", options⟩] }

/-- The help about a command, or about the program. -/
def helpText (topic : Option CommandName) : String := (helpPage topic).text

/-- The name of the program and its version. -/
def versionText : String := programName ++ " 0.1.0"

end Reckoner.CommandLine
