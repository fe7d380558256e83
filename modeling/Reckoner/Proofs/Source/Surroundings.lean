import Reckoner.Proofs.Evaluation.Gist
import Reckoner.Proofs.Evaluation.Steady
import Reckoner.Proofs.Grammar.EndMark
import Reckoner.Proofs.Grammar.Placement
import Reckoner.Proofs.Scanning.Concatenation
import Reckoner.Proofs.Scanning.Refusal
import Reckoner.Proofs.Source.Reading

/-!
# Reckoner — blanks around a text

What a text comes to does not depend on blanks in front of it and behind it, except for the lines
that are reported. Newlines in front raise all of them. Newlines behind are noticed only if the
text is **cut short**: if what is wrong with it is missing at its end, where it is reported.

Main results:

* `Expr.ofTokens_shift` — tokens that stand further on are read alike;
* `ofSource_surrounded_of_ok`, `ofSource_surrounded_of_error` — a text with blanks around it is
  read as the same tree further on, or refused with the same message;
* `evaluateAlone_surrounded` — what evaluating it comes to.
-/

namespace Reckoner

open Grammar Lexeme

-- ---------------------------------------------------------------------------
-- Tokens further on
-- ---------------------------------------------------------------------------

/-- A fault, with the tokens from it on further on. -/
def ParseError.shift (x : Extent) (e : ParseError) : ParseError :=
  { e with remaining := e.remaining.map (·.shift x) }

theorem ParseError.message_shift (x : Extent) (e : ParseError) :
    (e.shift x).message = e.message := by
  obtain ⟨fault, remaining⟩ := e
  -- what is found is named by its lexeme
  cases remaining <;> cases fault <;> rfl

/-- Tokens that stand further on are read as the tree that does, or rejected at the same one. -/
theorem Expr.ofTokens_shift (x : Extent) (ts : List Token) :
    ofTokens (ts.map (·.shift x)) = ((ofTokens ts).map (·.shift x)).mapError (·.shift x) := by
  cases h : ofTokens ts with
  | ok e => exact ofTokens_eq_ok_iff.2 ((ofTokens_eq_ok_iff.1 h).shift x)
  | error e =>
    have hunplaced := ofTokens_unplaced (ts.map (·.shift x))
    rw [List.map_map, show Token.unplaced ∘ (·.shift x) = Token.unplaced from rfl,
      ofTokens_unplaced, h] at hunplaced
    cases h' : ofTokens (ts.map (·.shift x)) with
    | ok e' => rw [h'] at hunplaced; cases hunplaced
    | error e' =>
      rw [h'] at hunplaced
      obtain ⟨hfault, hremaining⟩ := ParseError.mk.inj (Except.error.inj hunplaced)
      -- both faults show at as many tokens from the end
      have hlength : e'.remaining.length = (e.remaining.map (·.shift x)).length := by
        simpa using (congrArg List.length hremaining).symm
      have hsame : e'.remaining <:+ e.remaining.map (·.shift x) :=
        List.suffix_of_suffix_length_le (remaining_suffix h') ((remaining_suffix h).map _)
          (Nat.le_of_eq hlength)
      have hremaining : e'.remaining = e.remaining.map (·.shift x) := hsame.eq_of_length hlength
      show Except.error e' = Except.error (e.shift x)
      rw [ParseError.shift, ← hremaining, hfault]

-- ---------------------------------------------------------------------------
-- Texts cut short
-- ---------------------------------------------------------------------------

/-- What is wrong with a text is missing at its end: the quote that closes a string, or what would
complete an expression. -/
inductive CutShort (source : String) : Prop
  | quote (hordinary : OrdinaryOutside source.toList) (hodd : ¬ Even (source.toList.count '"'))
  | expression {tokens : List Token} (hscan : Token.scan source = .ok tokens)
      (h : FailsAtEnd (Expr.body tokens))

/-- The same diagnostic so many lines further down, apart from the span. -/
structure Diagnostic.Lowered (lines : Nat) (d d' : Diagnostic) : Prop where
  stage_eq : d'.stage = d.stage
  message_eq : d'.message = d.message
  notes_eq : d'.notes = d.notes
  line_eq : d'.line = d.line.map (· + lines)

/-- What a text comes to by itself, and what it comes to with blanks around it. -/
inductive Surrounded (lead source trail : String) :
    Except Failure Value → Except Failure Value → Prop
  | value (v : Value) : Surrounded lead source trail (.ok v) (.ok v)
  /-- The expression fails further down, save for the failure of a function. -/
  | failed {f f' : Failure} (h : f.Moved (Extent.of lead.toList) f') :
      Surrounded lead source trail (.error f) (.error f')
  /-- The text is refused for something in it, further down. -/
  | refused {d d' : Diagnostic} (hin : ¬ CutShort source)
      (h : d.Lowered (lead.toList.count '\n') d') :
      Surrounded lead source trail (.error (.diagnostic d)) (.error (.diagnostic d'))
  /-- The text is refused at its end, further down. -/
  | cutShort {d d' : Diagnostic} (hend : CutShort source)
      (h : d.Lowered (lead.toList.count '\n' + trail.toList.count '\n') d') :
      Surrounded lead source trail (.error (.diagnostic d)) (.error (.diagnostic d'))

-- ---------------------------------------------------------------------------
-- Texts with blanks around them
-- ---------------------------------------------------------------------------

section Surrounded

variable {source lead trail : String} (hlead : ∀ c ∈ lead.toList, isBlank c)
  (htrail : ∀ c ∈ trail.toList, isBlank c)

include hlead htrail

/-- A text that splits does so with blanks around it, into the same tokens further on. -/
theorem Token.Splits.surrounded {ts : List Token} (h : Token.Splits [] .origin source.toList ts) :
    Token.Splits [] .origin (lead ++ source ++ trail).toList
      (ts.map (·.shift (Extent.of lead.toList))) := by
  have hmoved := h.shift (Extent.of lead.toList)
  rw [← Position.after_eq_shift] at hmoved
  rw [String.toList_append, String.toList_append, List.append_assoc]
  exact .blanks hlead (hmoved.append_blanks_nil htrail)

/-- A text that the scanner refuses is refused with blanks around it. -/
theorem scan_surrounded_of_error {d : Diagnostic} (h : Token.scan source = .error d) :
    ∃ d', Token.scan (lead ++ source ++ trail) = .error d' ∧
      Surrounded lead source trail (.error (.diagnostic d)) (.error (.diagnostic d')) := by
  -- blanks in front move what is said of the text with the blanks behind it
  have hwhole (d₁ : Diagnostic) (h₁ : Token.scan (source ++ trail) = .error d₁) :
      Token.scan (lead ++ source ++ trail) = .error (d₁.shift (Extent.of lead.toList)) := by
    rw [String.append_assoc, Token.scan_blanks_append hlead, h₁]
    rfl
  rcases ((Token.scan_verdict source).2.1 d).1 h with
    ⟨before, c, after, hfirst, rfl⟩ | ⟨hordinary, hodd, before, after, hcs, hafter, rfl⟩
  · obtain ⟨houtside, hforeign, hbefore⟩ := firstForeign_iff.1 hfirst
    have hfirst' : FirstForeign (source ++ trail).toList before c (after ++ trail.toList) := by
      rw [String.toList_append]
      exact firstForeign_iff.2 ⟨houtside.append _, hforeign, hbefore⟩
    have htrailing := ((Token.scan_verdict (source ++ trail)).2.1 _).2
      (.inl ⟨before, c, _, hfirst', rfl⟩)
    refine ⟨_, hwhole _ htrailing, .refused (fun hcut => ?_) ⟨rfl, rfl, rfl, rfl⟩⟩
    cases hcut with
    | quote hordinary _ => exact hordinary.not_foreign houtside hforeign
    | expression hscan _ => cases h.symm.trans hscan
  · have hnoquote : '"' ∉ trail.toList := fun hmem => absurd (htrail '"' hmem) (by decide)
    have hcs' : (source ++ trail).toList = before ++ '"' :: (after ++ trail.toList) := by
      rw [String.toList_append, hcs, List.append_assoc, List.cons_append]
    have hordinary' : OrdinaryOutside (source ++ trail).toList := by
      rw [String.toList_append]
      exact hordinary.append_blanks htrail
    have hodd' : ¬ Even ((source ++ trail).toList.count '"') := by
      rwa [String.toList_append, List.count_append, List.count_eq_zero_of_not_mem hnoquote]
    have htrailing := ((Token.scan_verdict (source ++ trail)).2.1 _).2
      (.inr ⟨hordinary', hodd', before, _, hcs', by simp [hafter, hnoquote], rfl⟩)
    have hlines : 1 + (source ++ trail).toList.count '\n' + lead.toList.count '\n' =
        1 + source.toList.count '\n' + (lead.toList.count '\n' + trail.toList.count '\n') := by
      rw [String.toList_append, List.count_append]
      omega
    exact ⟨_, hwhole _ htrailing, .cutShort (.quote hordinary hodd)
      ⟨rfl, rfl, rfl, congrArg some hlines⟩⟩

/-- A text that stands for an expression does so with blanks around it. -/
theorem ofSource_surrounded_of_ok {e : Expr} (h : Expr.ofSource source = .ok e) :
    Expr.ofSource (lead ++ source ++ trail) = .ok (e.shift (Extent.of lead.toList)) := by
  obtain ⟨ts, hts, hd⟩ := ofSource_eq_ok_iff.1 h
  exact ofSource_eq_ok_iff.2 ⟨_, hts.surrounded hlead htrail, hd.shift _⟩

omit hlead htrail in
/-- A text that splits is read from its tokens, and ends where it ends. -/
theorem ofSource_of_splits {ts : List Token} (hts : Token.Splits [] .origin source.toList ts) :
    Expr.ofSource source = (Expr.ofTokens ts).mapError (ParseError.diagnose
      (Token.endMark (Position.origin.after source.toList).line
        (Position.origin.after source.toList).offset)) := by
  have hscan : Token.scan source = .ok _ := Token.scanFrom_eq_ok_iff.2 ⟨ts, hts, rfl⟩
  have hmark := endMark_append_marked (fun _ ht => hts.ne_endOfInput ht)
    (show (Token.endMark (Position.origin.after source.toList).line
      (Position.origin.after source.toList).offset).kind = .endOfInput from rfl) []
  rw [Expr.ofSource, hscan]
  show Expr.parse _ = _
  rw [Expr.parse, body_splits hts, hmark]

/-- A text that is refused is refused with blanks around it, with the same message. -/
theorem ofSource_surrounded_of_error {d : Diagnostic} (h : Expr.ofSource source = .error d) :
    ∃ d', Expr.ofSource (lead ++ source ++ trail) = .error d' ∧
      Surrounded lead source trail (.error (.diagnostic d)) (.error (.diagnostic d')) := by
  cases hscan : Token.scan source with
  | error d₁ =>
    rw [Expr.ofSource, hscan] at h
    cases h
    obtain ⟨d', hd', hsurrounded⟩ := scan_surrounded_of_error hlead htrail hscan
    refine ⟨d', ?_, hsurrounded⟩
    rw [Expr.ofSource, hd']
    rfl
  | ok tokens =>
    obtain ⟨ts, hts, rfl⟩ := Token.scanFrom_eq_ok_iff.1 hscan
    rw [ofSource_of_splits hts] at h
    have hwhole := ofSource_of_splits (hts.surrounded hlead htrail)
    rw [Expr.ofTokens_shift] at hwhole
    cases hread : Expr.ofTokens ts with
    | ok _ => rw [hread] at h; cases h
    | error e =>
      rw [hread] at h hwhole
      cases h
      refine ⟨_, hwhole, ?_⟩
      obtain ⟨fault, remaining⟩ := e
      cases remaining with
      | nil =>
        have hcut : CutShort source := .expression hscan ⟨fault, by rwa [body_splits hts]⟩
        refine .cutShort hcut ⟨rfl, ParseError.message_shift _ _, rfl, congrArg some ?_⟩
        show (Position.origin.after (lead ++ source ++ trail).toList).line =
          (Position.origin.after source.toList).line +
            (lead.toList.count '\n' + trail.toList.count '\n')
        simp only [Position.after_line, String.toList_append, List.count_append]
        omega
      | cons t rest =>
        refine .refused (fun hcut => ?_) ⟨rfl, ParseError.message_shift _ _, rfl, rfl⟩
        cases hcut with
        | quote _ hodd => exact hodd ((Token.exists_scan_iff source).1 ⟨_, hscan⟩).1
        | expression hscan' hend =>
          cases hscan.symm.trans hscan'
          obtain ⟨fault', hend⟩ := hend
          rw [body_splits hts] at hend
          cases hread.symm.trans hend

omit hlead htrail in
theorem evaluateAlone_eq_account (env : Environment) (source : String) :
    (evaluateAlone env source).1 =
      (account id (evaluateSource env Host.none source ⟨(), #[]⟩)).1 := by
  unfold evaluateAlone
  cases evaluateSource env Host.none source ⟨(), #[]⟩ <;> rfl

/-- **What a text comes to with blanks around it.** In an environment of steady functions it has
the same value, or fails with the same message and at a line that is higher by the newlines in
front, and by those behind too if the text is refused at its end. -/
theorem evaluateAlone_surrounded {env : Environment} (henv : env.Steady Host.none) :
    Surrounded lead source trail (evaluateAlone env source).1
      (evaluateAlone env (lead ++ source ++ trail)).1 := by
  obtain ⟨functions, hsteady, henv⟩ := henv
  rw [evaluateAlone_eq_account, evaluateAlone_eq_account]
  cases h : Expr.ofSource source with
  | error d =>
    obtain ⟨d', hd', hsurrounded⟩ := ofSource_surrounded_of_error hlead htrail h
    rw [evaluateSource_of_error h, evaluateSource_of_error hd']
    exact hsurrounded
  | ok e =>
    have hwhole := ofSource_surrounded_of_ok hlead htrail h
    rw [account_evaluateSource id h, account_evaluateSource id hwhole]
    have hmoved := hsteady.moved henv (Extent.of lead.toList) e ⟨(), #[]⟩ ⟨(), #[]⟩
    generalize e.evaluate env Host.none _ = r at hmoved ⊢
    generalize (e.shift _).evaluate env Host.none _ = r' at hmoved ⊢
    cases hmoved with
    | ok => exact .value _
    | error hf => exact .failed hf

end Surrounded

-- ---------------------------------------------------------------------------
-- What is printed
-- ---------------------------------------------------------------------------

theorem Diagnostic.Lowered.text_eq {d d' : Diagnostic} (h : d.Lowered 0 d') : d'.text = d.text := by
  have hline : d'.line = d.line := by
    rw [h.line_eq]
    cases d.line <;> rfl
  unfold Diagnostic.text
  rw [h.stage_eq, h.message_eq, h.notes_eq, hline]

theorem OperandFault.shift_of_lines {x : Extent} (hx : x.lines = 0) (fault : OperandFault) :
    fault.shift x = fault := by
  cases fault with
  | callee => simp [OperandFault.shift, hx]
  | negation | addition | numbers => rfl

/-- Lines are all that the text of a failure tells of places. -/
theorem Failure.Moved.text_eq {x : Extent} {f f' : Failure} (h : f.Moved x f')
    (hx : x.lines = 0) : f'.text = f.text := by
  cases h with
  | passed => rfl
  | placed fault p =>
    rw [OperandFault.shift_of_lines hx]
    have hline : (p.shift x).line = p.line + 0 := congrArg (p.line + ·) hx
    exact Diagnostic.Lowered.text_eq ⟨rfl, rfl, rfl, congrArg some hline⟩

/-- Without newlines around a text, nothing that is printed is different. -/
theorem Surrounded.text_eq {lead source trail : String} {x x' : Except Failure Value}
    (h : Surrounded lead source trail x x') (hlead : '\n' ∉ lead.toList)
    (htrail : CutShort source → '\n' ∉ trail.toList) :
    x'.mapError Failure.text = x.mapError Failure.text := by
  have hnone : lead.toList.count '\n' = 0 := List.count_eq_zero_of_not_mem hlead
  cases h with
  | value => rfl
  | failed h => exact congrArg Except.error (h.text_eq hnone)
  | refused _ h =>
    rw [hnone] at h
    exact congrArg Except.error h.text_eq
  | cutShort hend h =>
    rw [hnone, List.count_eq_zero_of_not_mem (htrail hend)] at h
    exact congrArg Except.error h.text_eq

end Reckoner
