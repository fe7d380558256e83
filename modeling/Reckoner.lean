import Reckoner.Main
import Reckoner.Proofs.Grammar.Soundness
import Reckoner.Session
import Reckoner.Proofs.Extent
import Reckoner.Proofs.Grammar.Derivation
import Reckoner.Proofs.Grammar.Completeness
import Reckoner.Proofs.Grammar.Acceptance
import Reckoner.Proofs.Scanning.Lexeme
import Reckoner.Proofs.Scanning.Stretch
import Reckoner.Proofs.Source.Locality
import Reckoner.Proofs.Evaluation.Gist
import Reckoner.Proofs.Evaluation.Origin
import Reckoner.Proofs.Evaluation.Steady
import Reckoner.Proofs.Source.Blame
import Reckoner.Proofs.Grammar.Writing
import Reckoner.Proofs.Source.RoundTrip
import Reckoner.Proofs.Scanning.Refusal
import Reckoner.Proofs.Source.Coverage
import Reckoner.Proofs.Grammar.Placement
import Reckoner.Proofs.Source.Layout
import Reckoner.Proofs.Evaluation.Calls
import Reckoner.Proofs.Source.Calls
import Reckoner.Proofs.Evaluation.Confinement
import Reckoner.Proofs.Source.Confinement
import Reckoner.Proofs.Evaluation.Outcomes
import Reckoner.Proofs.Environment.Layers
import Reckoner.Proofs.Source.Dependence
import Reckoner.Proofs.Environment.History
import Reckoner.Proofs.Scanning.Concatenation
import Reckoner.Proofs.Source.LongestMatch
import Reckoner.Proofs.Grammar.Yield
import Reckoner.Proofs.CommandLine.Lines
import Reckoner.Proofs.CommandLine.Transcript
import Reckoner.Proofs.Grammar.Hopeless
import Reckoner.Proofs.Grammar.EndMark
import Reckoner.Proofs.Evaluation.Unreached
import Reckoner.Proofs.Environment.Names
import Reckoner.Proofs.Evaluation.Substitution
import Reckoner.Proofs.Source.Positions
import Reckoner.Proofs.Grammar.Replacement
import Reckoner.Proofs.Source.Parentheses
import Reckoner.Proofs.CommandLine.File
import Reckoner.Proofs.Evaluation.Chains
import Reckoner.Proofs.Number.Bits
import Reckoner.Proofs.Number.Order
import Reckoner.Proofs.Number.Nearest
import Reckoner.Proofs.Number.Shortest
import Reckoner.Proofs.Number.Text
import Reckoner.Proofs.Text.Trimming
import Reckoner.Proofs.Source.Numbers
import Reckoner.Proofs.CommandLine.Options
import Reckoner.Proofs.CommandLine.Handing
import Reckoner.Proofs.CommandLine.Bindings
import Reckoner.Proofs.Environment.Prelude
import Reckoner.Proofs.Builtin.Extremum
import Reckoner.Proofs.Builtin.Answers
import Reckoner.Proofs.CommandLine.Listing
import Reckoner.Proofs.Cursor.Walk
import Reckoner.Proofs.Cursor.Steps
import Reckoner.Proofs.Cursor.Progress
