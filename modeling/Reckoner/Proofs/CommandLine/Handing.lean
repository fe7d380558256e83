import Reckoner.Proofs.CommandLine.Options

/-!
# Reckoner — what a command line hands over

Options may stand in front of a command and behind it. The texts of the options are handed over to
the command in their order, those in front only if there are none behind, and a text that is no
binding makes the whole command line a usage error, be it handed over or not
(`HandsOver.parse`).
-/

namespace Reckoner.CommandLine

open ArgumentLevel

-- ---------------------------------------------------------------------------
-- Command lines
-- ---------------------------------------------------------------------------

/-- What a command asks for with its operand. -/
inductive Asks : CommandName → Option String → Command → Prop
  | eval (expression : String) : Asks .eval (some expression) (.eval expression)
  | run {path : String} (h : path ≠ "") : Asks .run (some path) (.run path)
  | tokens (expression : String) : Asks .tokens (some expression) (.tokens expression)
  | repl : Asks .repl none .repl

/-- A command line that gives texts to bind and hands them over, maybe with the flag, to a
command. Those behind the command, if there are any, are handed over in place of those in front
of it. -/
inductive HandsOver : List String → List String → List String → Bool → Command → Prop
  | session {args texts : List String} {bare : Bool} (h : Gives args texts bare none) :
      HandsOver args texts texts bare .repl
  | command {front behind ts us : List String} {word : String} {name : CommandName} {b c : Bool}
      {operand : Option String} {command : Command} (hfront : Gives front ts b none)
      (hname : CommandName.ofString? word = some name) (hbehind : Gives behind us c operand)
      (hasks : Asks name operand command) :
      HandsOver (front ++ word :: behind) (ts ++ us) (if us = [] then ts else us) (b || c) command

/-- What is read whatever stands behind some arguments is read of them alone. -/
theorem ArgumentLevel.read_whole {level : ArgumentLevel} {g : Gathered} {args : List String}
    {result : List String → Except UsageError (Gathered × Stop)}
    (h : ∀ rest, read level false g (args ++ rest) = result rest) :
    read level false g args = result [] := by
  have hnothing := h []
  rwa [List.append_nil] at hnothing

namespace Arguments

variable {args rest : List String} {g sub : Gathered} {e : UsageError} {name : CommandName}
  {operand : Option String} {command : Command}

/-- What is refused in front of a command is refused as a whole. -/
theorem parse_error (h : read .top false {} args = .error e) : parse args = .error e := by
  unfold parse
  rw [h]
  rfl

/-- Without a command, the whole line is options, and what is pending is looked at in the end. -/
theorem parse_session (h : read .top false {} args = .ok (g, .finished)) :
    parse args = (do
      let top ← g.settle
      return .invoke ⟨top.bindings, top.bare, .repl⟩) := by
  have hparse : parse args = (do
      let top ← g.settle
      return .invoke ⟨top.bindings, top.bare || false, .repl⟩) := by
    unfold parse
    rw [h]
    rfl
  simp only [hparse, Bool.or_false]

/-- What is refused behind a command is refused before anything in front of it is looked at. -/
theorem parse_command_error (hasks : Asks name operand command)
    (h : read .top false {} args = .ok (g, .command name rest))
    (hsub : read (.command name.operand) false {} rest = .error e) : parse args = .error e := by
  unfold parse
  rw [h]
  cases hasks <;>
  · simp only [bind, Except.bind, hsub]

/-- Behind a command everything is looked at first, then what is pending in front of it. -/
theorem parse_command (hasks : Asks name operand command)
    (h : read .top false {} args = .ok (g, .command name rest))
    (hsub : read (.command name.operand) false {} rest = .ok (sub, .finished)) :
    parse args = (do
      let sub ← sub.settle
      let command ← name.toCommand sub.operand
      let top ← g.settle
      return .invoke ⟨if sub.bindings = [] then top.bindings else sub.bindings,
        top.bare || sub.bare, command⟩) := by
  unfold parse
  rw [h]
  cases hasks <;>
  · simp only [bind, Except.bind, hsub]
    rfl

end Arguments

/-- What comes of the arguments of one level: all texts are bindings, and once what is pending has
been looked at, they have been read; or one text is none, and it is refused at once or when it is
looked at. -/
theorem Gives.outcome {level : ArgumentLevel} {args texts : List String} {bare : Bool}
    {operand : Option String} (h : Gives args texts bare operand)
    (hready : Ready level {} bare operand) :
    (∃ bs, List.Forall₂ (fun text b => Binding.parse text = .ok b) texts bs ∧
      ∃ g : Gathered, g.pending ≠ .binding none ∧ g.settle = .ok ⟨bs, bare, operand, .nothing⟩ ∧
        ∀ rest, read level false {} (args ++ rest) = read level false g rest) ∨
    ∃ text ∈ texts, ∃ fault, Binding.parse text = .error fault ∧
      ((∀ rest, read level false {} (args ++ rest) = .error (.badBinding text fault)) ∨
        ∃ g : Gathered, g.pending ≠ .binding none ∧
          g.settle = .error (.badBinding text fault) ∧
          ∀ rest, read level false {} (args ++ rest) = read level false g rest) := by
  have hreads := h.reads hready
  have hgiven : Gathered.giving {} texts bare operand =
      (do return ⟨← bindAll texts, bare, operand, .nothing⟩) := rfl
  rw [hgiven] at hreads
  rcases bindAll_spec texts with ⟨bs, hall, hbs⟩ | ⟨text, hmem, fault, hbad, hall⟩
  · rw [hall] at hreads
    rcases hreads with ⟨e, he, -⟩ | hgoes
    · cases he
    · exact .inl ⟨bs, hbs, hgoes⟩
  · rw [hall] at hreads
    rcases hreads with ⟨e, he, hrefused⟩ | hgoes
    · cases he
      exact .inr ⟨text, hmem, fault, hbad, .inl hrefused⟩
    · exact .inr ⟨text, hmem, fault, hbad, .inr hgoes⟩

theorem Asks.toCommand {name : CommandName} {operand : Option String} {command : Command}
    (h : Asks name operand command) : name.toCommand operand = .ok command := by
  cases h <;> rfl

/-- The operand that a command asks for is one that it takes. -/
theorem Asks.ready {name : CommandName} {operand : Option String} {command : Command} {bare : Bool}
    (h : Asks name operand command) : Ready (.command name.operand) {} bare operand := by
  refine ⟨nofun, fun _ => rfl, fun text htext => ⟨rfl, ?_⟩⟩
  cases h with
  | eval | tokens => exact ⟨.expression, rfl, nofun⟩
  | run hpath =>
    cases htext
    exact ⟨.path, rfl, fun _ => hpath⟩
  | repl => cases htext

/-- What stands behind a command is read to its end, and then what is pending in front of it is
looked at. -/
theorem Gives.parse_behind {args behind us : List String} {name : CommandName} {c : Bool}
    {operand : Option String} {command : Command} {g : Gathered} (h : Gives behind us c operand)
    (hasks : Asks name operand command)
    (hread : read .top false {} args = .ok (g, .command name behind)) :
    (∃ text ∈ us, ∃ fault, Binding.parse text = .error fault ∧
      Arguments.parse args = .error (.badBinding text fault)) ∨
    ∃ cs, List.Forall₂ (fun text b => Binding.parse text = .ok b) us cs ∧
      Arguments.parse args = (do
        let top ← g.settle
        return .invoke ⟨if cs = [] then top.bindings else cs, top.bare || c, command⟩) := by
  rcases h.outcome hasks.ready with ⟨cs, hcs, sub, -, hsettle, hgoes⟩ |
    ⟨text, hmem, fault, hbad, hrefused | ⟨sub, -, hsettle, hgoes⟩⟩
  · refine .inr ⟨cs, hcs, ?_⟩
    rw [Arguments.parse_command hasks hread (read_whole hgoes), hsettle]
    simp only [bind, Except.bind, hasks.toCommand]
  · exact .inl ⟨text, hmem, fault, hbad,
      Arguments.parse_command_error hasks hread (read_whole hrefused)⟩
  · refine .inl ⟨text, hmem, fault, hbad, ?_⟩
    rw [Arguments.parse_command hasks hread (read_whole hgoes), hsettle]
    rfl

theorem Ready.start {bare : Bool} : Ready .top {} bare none := ⟨nofun, fun _ => rfl, nofun⟩

/-- Without a command, the program asks for a session. -/
theorem Gives.parse_session {args texts : List String} {bare : Bool}
    (h : Gives args texts bare none) :
    (∃ text ∈ texts, ∃ fault, Binding.parse text = .error fault ∧
      Arguments.parse args = .error (.badBinding text fault)) ∨
    ∃ bs, List.Forall₂ (fun text b => Binding.parse text = .ok b) texts bs ∧
      Arguments.parse args = .ok (.invoke ⟨bs, bare, .repl⟩) := by
  rcases h.outcome .start with ⟨bs, hbs, g, -, hsettle, hgoes⟩ |
    ⟨text, hmem, fault, hbad, hrefused | ⟨g, -, hsettle, hgoes⟩⟩
  · refine .inr ⟨bs, hbs, ?_⟩
    rw [Arguments.parse_session (read_whole hgoes), hsettle]
    rfl
  · exact .inl ⟨text, hmem, fault, hbad, Arguments.parse_error (read_whole hrefused)⟩
  · refine .inl ⟨text, hmem, fault, hbad, ?_⟩
    rw [Arguments.parse_session (read_whole hgoes), hsettle]
    rfl

/-- **Texts are handed over in their order.** A command line asks for its command with the
bindings that the handed texts stand for, unless one of the given texts is no binding: then it is
refused because of such a text. -/
theorem HandsOver.parse {args given texts : List String} {bare : Bool} {command : Command}
    (h : HandsOver args given texts bare command) :
    (∃ text ∈ given, ∃ fault, Binding.parse text = .error fault ∧
      Arguments.parse args = .error (.badBinding text fault)) ∨
    ∃ bs, List.Forall₂ (fun text b => Binding.parse text = .ok b) texts bs ∧
      (∀ text ∈ given, ∃ b, Binding.parse text = .ok b) ∧
      Arguments.parse args = .ok (.invoke ⟨bs, bare, command⟩) := by
  cases h with
  | session hgives =>
    rcases hgives.parse_session with hbad | ⟨bs, hbs, hparse⟩
    · exact .inl hbad
    · exact .inr ⟨bs, hbs, exists_of_parsed hbs, hparse⟩
  | @command front behind ts us word name b c operand command hfront hname hbehind hasks =>
    have hstop {g : Gathered} (hpending : g.pending ≠ .binding none)
        (hgoes : ∀ rest, read .top false {} (front ++ rest) = read .top false g rest) :
        read .top false {} (front ++ word :: behind) = .ok (g, .command name behind) :=
      (hgoes _).trans (read_command hname hpending behind)
    rcases hfront.outcome .start with ⟨bs, hbs, g, hpending, hsettle, hgoes⟩ |
      ⟨text, hmem, fault, hbad, hrefused | ⟨g, hpending, hsettle, hgoes⟩⟩
    · rcases hbehind.parse_behind hasks (hstop hpending hgoes) with
        ⟨text, hmem, hbad⟩ | ⟨cs, hcs, hparse⟩
      · exact .inl ⟨text, List.mem_append_right ts hmem, hbad⟩
      · refine .inr ⟨if cs = [] then bs else cs, ?_, ?_, ?_⟩
        · cases hcs with
          | nil => exact hbs
          | cons hc hcs => exact .cons hc hcs
        · exact List.forall_mem_append.2 ⟨exists_of_parsed hbs, exists_of_parsed hcs⟩
        · rw [hparse, hsettle]
          rfl
    · exact .inl ⟨text, List.mem_append_left us hmem, fault, hbad,
        Arguments.parse_error (hrefused _)⟩
    · -- a text in front that is pending is looked at last
      rcases hbehind.parse_behind hasks (hstop hpending hgoes) with
        ⟨text, hmem, hbad⟩ | ⟨cs, -, hparse⟩
      · exact .inl ⟨text, List.mem_append_right ts hmem, hbad⟩
      · refine .inl ⟨text, List.mem_append_left us hmem, fault, hbad, ?_⟩
        rw [hparse, hsettle]
        rfl

end Reckoner.CommandLine
