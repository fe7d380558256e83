import Mathlib.Data.List.TakeWhile
import Reckoner.CommandLine.Run
import Reckoner.Proofs.CommandLine.Lines
import Reckoner.Proofs.Evaluation.Gist
import Reckoner.Proofs.Source.Reading

/-!
# Reckoner — a session line by line

An interactive session prints what its lines are answered one by one, up to a line that ends
it, and it succeeds. A line is answered alike wherever it stands: what went before it, failures
included, leaves nothing behind. So two inputs, one behind the other, print what each of them
prints.

A filter may ask for the record of each attempt to read a line; these stand in front of the
answers, and the last one belongs to the attempt that finds no line or the line that ends the
session.

Main results:

* `run_ofString` — the session that lines make;
* `repl_line_by_line` — what the command line prints for an input, and for two inputs with a
  newline between them.
-/

namespace Reckoner.CommandLine

open Interactive

namespace Output

/-- Pieces of output one behind the other, on each of the two streams. -/
def join (pieces : List Output) : Output :=
  ⟨String.join (pieces.map stdout), String.join (pieces.map stderr)⟩

@[simp] theorem join_nil : join [] = {} := rfl

@[simp] theorem join_cons (a : Output) (rest : List Output) :
    join (a :: rest) = a ++ join rest := by
  ext1 <;> exact String.join_cons

/-- Pieces behind other pieces are written behind them. -/
theorem join_append (as bs : List Output) : join (as ++ bs) = join as ++ join bs := by
  induction as with
  | nil => simp
  | cons a rest ih => rw [List.cons_append, join_cons, join_cons, ih, append_assoc]

end Output

-- ---------------------------------------------------------------------------
-- Answers
-- ---------------------------------------------------------------------------

/-- Whether a line ends the session. -/
def quits (line : String) : Bool := Text.trim line = ":quit" ∨ Text.trim line = ":exit"

/-- What a line is answered by itself, the white space around it left out: nothing if there
is nothing else, the names bound for `:env`, and otherwise what `eval` prints. -/
def Invocation.answer (inv : Invocation) (filter : Log.Filter) (inputs : Inputs)
    (line : String) : Output :=
  let text := Text.trim line
  if text = "" then {}
  else if text = ":env" then .line (" ".intercalate inv.environment.names)
  else (Invocation.perform { inv with command := .eval text } filter inputs).output

/-- Attempts leave nothing behind if the filter does not admit their records. -/
theorem attempt_eq_empty {filter : Log.Filter} (h : filter.admits reading = false) :
    attempt filter = {} :=
  Output.logged_eq_empty (by simpa using h)

-- ---------------------------------------------------------------------------
-- Sessions
-- ---------------------------------------------------------------------------

section Session

variable (inv : Invocation) (filter : Log.Filter) (inputs : Inputs)

/-- A line that ends the session is answered with nothing else. -/
theorem respond_of_quits {line : String} (h : quits line) :
    respond ⟨inv.environment, filter⟩ (.ofString line) = { output := {}, ending := some 0 } := by
  rw [respond_ofString, respondTo, if_pos (by simpa [quits] using h)]

/-- Any other line is answered by itself, and the session goes on. -/
theorem respond_of_not_quits {line : String} (h : quits line = false) :
    respond ⟨inv.environment, filter⟩ (.ofString line) =
      { output := inv.answer filter inputs line } := by
  rw [respond_ofString, respondTo, if_neg (by simpa [quits] using h), Invocation.answer]
  by_cases hempty : Text.trim line = ""
  · rw [if_pos hempty, if_pos hempty]
  · by_cases henv : Text.trim line = ":env"
    · rw [if_neg hempty, if_pos henv, if_neg hempty, if_pos henv]
    · rw [if_neg hempty, if_neg henv, if_neg hempty, if_neg henv]
      rfl

/-- **The session that lines make.** Each line is answered by itself, up to the first one that
ends the session; no failure ends it. -/
theorem run_ofString (ls : List String) :
    Interactive.run ⟨inv.environment, filter⟩ (ls.map .ofString) =
      ⟨.join ((ls.takeWhile (!quits ·)).map fun line =>
          attempt filter ++ inv.answer filter inputs line) ++ attempt filter, 0⟩ := by
  induction ls with
  | nil => simp [run_nil]
  | cons line rest ih =>
    cases hquits : quits line with
    | true =>
      have hends := respond_of_quits inv filter hquits
      rw [List.map_cons, run_cons_of_ending (congrArg Response.ending hends), hends]
      simp [hquits]
    | false =>
      have hgoes := respond_of_not_quits inv filter inputs hquits
      rw [List.map_cons, run_cons (congrArg Response.ending hgoes), hgoes, ih]
      simp [hquits, Output.append_assoc]

/-- What the lines of two texts are answered, if the first text does not end the session. -/
theorem join_answers_append {a b : String} (h : ∀ line ∈ lines a, quits line = false) :
    Output.join (((lines (a ++ "\n" ++ b)).takeWhile (!quits ·)).map (inv.answer filter inputs)) =
      .join (((lines a).takeWhile (!quits ·)).map (inv.answer filter inputs)) ++
        .join (((lines b).takeWhile (!quits ·)).map (inv.answer filter inputs)) := by
  have hall : ∀ line ∈ lines a, (!quits line) = true := fun line hline => by rw [h line hline]; rfl
  have hself : (lines a).takeWhile (!quits ·) = lines a := List.takeWhile_eq_self_iff.2 hall
  rw [hself, ← Output.join_append, ← List.map_append]
  rcases lines_append a b with hlines | hlines
  · rw [hlines, List.takeWhile_append_of_pos hall]
  · have hblank : quits "" = false := by decide
    have hnothing : inv.answer filter inputs "" = {} := by
      rw [Invocation.answer]
      exact if_pos (by decide)
    rw [hlines, List.takeWhile_append_of_pos hall, List.takeWhile_cons_of_pos (by rw [hblank]; rfl)]
    simp [Output.join_append, hnothing]

end Session

section Input

variable {args : List String} {inv : Invocation} {filter : Log.Filter} {text : String}

/-- What the command line prints for an input. -/
theorem run_toUTF8 (hargs : Arguments.parse args = .ok (.invoke inv)) (hrepl : inv.command = .repl)
    (filter : Log.Filter) (inputs : Inputs) (htext : Text.backspace ∉ text.toList) :
    run args filter { inputs with stdin := text.toUTF8 } =
      ⟨.join (((lines text).takeWhile (!quits ·)).map fun line =>
          attempt filter ++ inv.answer filter inputs line) ++ attempt filter, 0⟩ := by
  rw [run, hargs]
  simp only [Invocation.perform, hrepl]
  rw [run_linesOfBytes _ htext, run_ofString inv filter inputs]

/-- What it prints if the attempts to read a line are not recorded. -/
theorem run_toUTF8_of_not_admits (hargs : Arguments.parse args = .ok (.invoke inv))
    (hrepl : inv.command = .repl) (inputs : Inputs) (hquiet : filter.admits reading = false)
    (htext : Text.backspace ∉ text.toList) :
    run args filter { inputs with stdin := text.toUTF8 } =
      ⟨.join (((lines text).takeWhile (!quits ·)).map (inv.answer filter inputs)), 0⟩ := by
  simpa [attempt_eq_empty hquiet] using run_toUTF8 hargs hrepl filter inputs htext

end Input

/-- **A session answers line by line.** What it prints for a text are the answers to its lines,
up to the first that ends the session, each behind the record of the attempt to read it, and it
succeeds. With these records not asked for, an input behind another adds what it prints by
itself. -/
theorem repl_line_by_line {args : List String} {inv : Invocation}
    (hargs : Arguments.parse args = .ok (.invoke inv)) (hrepl : inv.command = .repl)
    (filter : Log.Filter) (inputs : Inputs) :
    (∀ text : String, Text.backspace ∉ text.toList →
      run args filter { inputs with stdin := text.toUTF8 } =
        ⟨.join (((lines text).takeWhile (!quits ·)).map fun line =>
            attempt filter ++ inv.answer filter inputs line) ++ attempt filter, 0⟩) ∧
    (filter.admits reading = false →
      (∀ text : String, Text.backspace ∉ text.toList →
        run args filter { inputs with stdin := text.toUTF8 } =
          ⟨.join (((lines text).takeWhile (!quits ·)).map (inv.answer filter inputs)), 0⟩) ∧
      ∀ a b : String, Text.backspace ∉ a.toList → Text.backspace ∉ b.toList →
        (∀ line ∈ lines a, quits line = false) →
        (run args filter { inputs with stdin := (a ++ "\n" ++ b).toUTF8 }).output =
          (run args filter { inputs with stdin := a.toUTF8 }).output ++
            (run args filter { inputs with stdin := b.toUTF8 }).output) := by
  refine ⟨fun text => run_toUTF8 hargs hrepl filter inputs, fun hquiet => ?_⟩
  have hplain {text : String} (htext : Text.backspace ∉ text.toList) :=
    run_toUTF8_of_not_admits hargs hrepl inputs hquiet htext
  refine ⟨fun text => hplain, fun a b ha hb hstays => ?_⟩
  have hab : Text.backspace ∉ (a ++ "\n" ++ b).toList := by
    have hnewline : Text.backspace ≠ '\n' := by decide
    simp [ha, hb, hnewline]
  rw [hplain hab, hplain ha, hplain hb, join_answers_append inv filter inputs hstays]

/-- The names bound, a blank line, a failure, a value, an order to quit, and a line that is
never read. -/
theorem repl_line_by_line_quit :
    Arguments.parse ["--bare", "--var", "x=nil"] = .ok (.invoke ⟨[⟨"x", "nil"⟩], true, .repl⟩) ∧
      run ["--bare", "--var", "x=nil"] []
          ⟨fun _ => .error ⟨2⟩, ":env\n\n#\nx\n :quit\r\nx".toUTF8⟩ =
        ⟨⟨"x\nnil\n", "lex error: line 1: unexpected token `#`\n"⟩, 0⟩ := by
  have hargs : Arguments.parse ["--bare", "--var", "x=nil"] =
      .ok (.invoke ⟨[⟨"x", "nil"⟩], true, .repl⟩) := by decide
  let inv : Invocation := ⟨[⟨"x", "nil"⟩], true, .repl⟩
  let inputs : Inputs := ⟨fun _ => .error ⟨2⟩, .empty⟩
  have hnames : inv.answer [] inputs ":env" = .line "x" := rfl
  have hblank : inv.answer [] inputs "" = {} := rfl
  -- `#` is refused, and `x` is read as a name
  have hrefused : Expr.ofSource "#" =
      .error { stage := .lexical, message := "unexpected token `#`", line := some 1
               span := some ⟨0, 1⟩ } := by
    rw [Expr.ofSource, Token.scan, Token.scanFrom.eq_def]
    rfl
  have hsplits : Token.Splits [] .origin "x".toList [⟨.identifier, "x", none, 1, ⟨0, 1⟩⟩] :=
    @Token.Splits.token _ _ _ [] _ _ _ rfl rfl <| .done _
  have hread : Expr.ofSource "x" = .ok _ :=
    ofSource_eq_ok_iff.2 ⟨_, hsplits, (Grammar.Derives.atom (.identifier rfl)).toExpression⟩
  have hlogged (events : List Log.Record) : Output.logged [] events = {} :=
    Output.logged_eq_empty fun _ _ => rfl
  have hfailure : inv.answer [] inputs "#" =
      .errorLine "lex error: line 1: unexpected token `#`" := by
    show Output.ofOutcome [] (evaluateAlone _ "#").1 (evaluateAlone _ "#").2 = _
    rw [evaluateAlone, evaluateSource_of_error hrefused, Output.ofOutcome, hlogged]
    rfl
  have hvalue : inv.answer [] inputs "x" = .line "nil" := by
    show Output.ofOutcome [] (evaluateAlone _ "x").1 (evaluateAlone _ "x").2 = _
    rw [evaluateAlone, evaluateSource_of_ok hread, Expr.evaluate]
    exact congrArg (· ++ Output.line "nil") (hlogged _)
  obtain ⟨-, hquiet⟩ := @repl_line_by_line _ inv hargs rfl [] inputs
  obtain ⟨hplain, -⟩ := hquiet (by decide)
  have hrun := hplain ":env\n\n#\nx\n :quit\r\nx" (by decide)
  have hanswered : (lines ":env\n\n#\nx\n :quit\r\nx").takeWhile (!quits ·) =
      [":env", "", "#", "x"] := by decide
  refine ⟨hargs, hrun.trans ?_⟩
  rw [hanswered]
  simp only [List.map_cons, List.map_nil, hnames, hblank, hfailure, hvalue]
  rfl

end Reckoner.CommandLine
