import Reckoner.CommandLine.Run
import Reckoner.Proofs.Source.Surroundings

/-!
# Reckoner — the lines of a file

`run` leaves out the white space around the text of a file before it evaluates the text. The
value is that of the text itself, but lines count from the first one that is not blank: a
failure is reported at a line that is lower by the blank lines in front than where it stands in
the file.

Main results:

* `Invocation.environment_steady` — whatever is bound on the command line, functions are steady;
* `run_evaluates_trimmed` — how what `run` prints relates to the text of the file.
-/

namespace Reckoner.CommandLine

open Lexeme

-- ---------------------------------------------------------------------------
-- Environments
-- ---------------------------------------------------------------------------

/-- No functions can be bound on the command line. -/
theorem Binding.isPlain_decode (text : String) : (decode text).IsPlain := by
  unfold decode
  split
  case h_4 => split <;> trivial
  all_goals trivial

/-- The functions that an expression on the command line can come upon are steady. -/
theorem Invocation.environment_steady {σ : Type} (inv : Invocation) (host : Host σ) :
    inv.environment.Steady host := by
  have hplain : ∀ pair ∈ inv.bindings.map Binding.pair, pair.2.IsPlain := by
    intro pair hpair
    obtain ⟨b, -, rfl⟩ := List.mem_map.1 hpair
    exact Binding.isPlain_decode b.text
  unfold Invocation.environment
  by_cases hbare : inv.bare = true
  · rw [if_pos hbare]
    exact (Environment.empty_steady host).extend hplain
  · rw [if_neg hbare]
    exact (Environment.prelude_steady 0 host).inside.extend hplain

-- ---------------------------------------------------------------------------
-- Files
-- ---------------------------------------------------------------------------

theorem fileText_toUTF8 (text : String) : fileText (.ok text.toUTF8) = .ok text := by
  have hread : String.fromUTF8? text.toUTF8 = some text := dif_pos text.isValidUTF8
  rw [fileText, hread]

/-- **What `run` makes of a file.** The white space around the text of a file consists of blanks.
Then `run` evaluates what is between them, in the environment of the command line. What this
comes to is what the text of the file comes to, apart from lines: it has the same value, or fails
with the same message. The failure of a function is the same. Otherwise the file's text fails at
a line that is higher by the newlines in front, and by those behind too if it is refused at its
end; and where a note says on which line a call was closed, that line is higher as well. So the
failure is printed alike if there are no newlines in front of the expression, and none behind one
that is refused at its end. -/
theorem run_evaluates_trimmed {args : List String} {inv : Invocation} {path : String}
    (hargs : Arguments.parse args = .ok (.invoke inv)) (hrun : inv.command = .run path)
    (filter : Log.Filter) {inputs : Inputs} {source lead trail : String}
    (hfile : inputs.file path = .ok source.toUTF8)
    (hsource : source = lead ++ Text.trim source ++ trail)
    (hlead : ∀ c ∈ lead.toList, isBlank c) (htrail : ∀ c ∈ trail.toList, isBlank c) :
    let trimmed := Text.trim source
    run args filter inputs = evaluateText filter inv.environment trimmed ∧
      Surrounded lead trimmed trail (evaluateAlone inv.environment trimmed).1
        (evaluateAlone inv.environment source).1 ∧
      ('\n' ∉ lead.toList → (CutShort trimmed → '\n' ∉ trail.toList) →
        (evaluateAlone inv.environment source).1.mapError Failure.text =
          (evaluateAlone inv.environment trimmed).1.mapError Failure.text) := by
  intro trimmed
  have hsurrounded := @evaluateAlone_surrounded trimmed lead trail hlead htrail _
    (inv.environment_steady Host.none)
  rw [← hsource] at hsurrounded
  refine ⟨?_, hsurrounded, hsurrounded.text_eq⟩
  rw [run, hargs]
  simp only [Invocation.perform, hrun, hfile, fileText_toUTF8]
  rfl

/-- A string that is called, with an empty line in front of it and a newline behind it. -/
theorem run_evaluates_trimmed_empty_line :
    let inv : Invocation := ⟨[⟨"x", "1"⟩], false, .run "f"⟩
    let inputs : Inputs := ⟨fun _ => .ok "\n\"\"()\n".toUTF8, .empty⟩
    Arguments.parse ["--var", "x=1", "run", "f"] = .ok (.invoke inv) ∧
      run ["--var", "x=1", "run", "f"] [] inputs =
        evaluateText [] inv.environment "\"\"()" ∧
      Surrounded "\n" "\"\"()" "\n" (evaluateAlone inv.environment "\"\"()").1
        (evaluateAlone inv.environment "\n\"\"()\n").1 := by
  intro inv inputs
  have hargs : Arguments.parse ["--var", "x=1", "run", "f"] = .ok (.invoke inv) := by decide
  have htrim : Text.trim "\n\"\"()\n" = "\"\"()" := by decide
  have hblank : ∀ c ∈ "\n".toList, isBlank c := List.all_eq_true.1 rfl
  have hrun := @run_evaluates_trimmed _ inv "f" hargs rfl [] inputs "\n\"\"()\n" "\n" "\n" rfl
    (by rw [htrim]; rfl) hblank hblank
  rw [htrim] at hrun
  exact ⟨hargs, hrun.1, hrun.2.1⟩

/-- Without a log, all that is left of a text that is refused is the diagnostic. -/
theorem evaluateText_of_error {source : String} {d : Diagnostic}
    (h : Expr.ofSource source = .error d) (env : Environment) :
    evaluateText [] env source = ⟨.errorLine d.text, 1⟩ := by
  unfold evaluateText evaluateAlone
  rw [evaluateSource_of_error h]
  have hlogged (records : List Log.Record) : Output.logged [] records = {} :=
    Output.logged_eq_empty fun _ _ => rfl
  simp only [Output.ofOutcome, hlogged, Output.empty_append]
  rfl

/-- `#` on the second line of a file is reported at the first line, and at the second one when
the text of the file is given as an expression. -/
theorem run_reports_line_of_trimmed :
    let inputs : Inputs := ⟨fun _ => .ok "\n#".toUTF8, .empty⟩
    (∀ c ∈ "\n".toList, isBlank c) ∧ "\n#" = "\n" ++ Text.trim "\n#" ∧
      run ["run", "f"] [] inputs = ⟨.errorLine "lex error: line 1: unexpected token `#`", 1⟩ ∧
      run ["eval", "\n#"] [] inputs =
        ⟨.errorLine "lex error: line 2: unexpected token `#`", 1⟩ := by
  intro inputs
  have hblank : ∀ c ∈ "\n".toList, isBlank c := List.all_eq_true.1 rfl
  have htrim : Text.trim "\n#" = "#" := by decide
  have hscan : Token.scan "#" = .error
      { stage := .lexical, message := "unexpected token `#`", line := some 1
        span := some ⟨0, 1⟩ } := by
    rw [Token.scan, Token.scanFrom.eq_def]
    rfl
  have hscan' : Token.scan "\n#" = .error
      { stage := .lexical, message := "unexpected token `#`", line := some 2
        span := some ⟨1, 2⟩ } :=
    (Token.scan_blanks_append hblank "#").trans (by rw [hscan]; rfl)
  have hrun : Arguments.parse ["run", "f"] = .ok (.invoke ⟨[], false, .run "f"⟩) := by decide
  have heval : Arguments.parse ["eval", "\n#"] = .ok (.invoke ⟨[], false, .eval "\n#"⟩) := by decide
  refine ⟨hblank, by rw [htrim]; rfl, ?_, ?_⟩
  · rw [run, hrun]
    simp only [Invocation.perform, inputs, fileText_toUTF8, htrim]
    rw [evaluateText_of_error (show Expr.ofSource "#" = _ by rw [Expr.ofSource, hscan]; rfl)]
    rfl
  · rw [run, heval]
    simp only [Invocation.perform]
    rw [evaluateText_of_error (show Expr.ofSource "\n#" = _ by rw [Expr.ofSource, hscan']; rfl)]
    rfl

end Reckoner.CommandLine
