import Reckoner.Proofs.Evaluation.Gist
import Reckoner.Proofs.Evaluation.Steady
import Reckoner.Proofs.Source.Locality

/-!
# Reckoner — failures point at what fails

When the evaluation of a text fails at runtime and the failure has a span, the piece of
the text under that span fails by itself, and in the same way
(`evaluateSource_blames`). The failure is that of a node (`Host.Steady.origin`); the
piece that the node covers stands for the same node further to the front
(`ofSource_piece`); and that node fails as the one further on does
(`Host.Steady.moved`).
-/

namespace Reckoner

open Grammar

variable {σ : Type} {env : Environment} {host : Host σ} {functions : Function → Prop}

-- ---------------------------------------------------------------------------
-- Texts that are refused
-- ---------------------------------------------------------------------------

theorem stage_of_scanFrom {p : Position} {cs : List Char} {d : Diagnostic}
    (h : Token.scanFrom p cs = .error d) : d.stage = .lexical := by
  fun_induction Token.scanFrom p cs with
  | case1 => cases h
  | case2 _ _ _ _ ih => exact ih h
  | case3 _ _ _ _ error =>
    cases h
    cases error <;> rfl
  | case4 _ _ _ _ _ _ _ _ _ hlater ih =>
    cases h
    exact ih hlater
  | case5 => cases h

/-- A text that stands for no expression is refused before the runtime. -/
theorem stage_of_ofSource {source : String} {d : Diagnostic} (h : Expr.ofSource source = .error d) :
    d.stage ≠ .runtime := by
  unfold Expr.ofSource at h
  cases hscan : Token.scan source with
  | error _ =>
    rw [hscan] at h
    cases h
    rw [stage_of_scanFrom hscan]
    nofun
  | ok ts =>
    rw [hscan] at h
    change Expr.parse ts = .error d at h
    unfold Expr.parse at h
    cases hread : Expr.ofTokens (Expr.body ts) with
    | error _ =>
      rw [hread] at h
      cases h
      nofun
    | ok _ => rw [hread] at h; cases h

/-- A text whose evaluation fails at runtime stands for an expression, and evaluating
that fails. -/
theorem evaluate_of_evaluateSource {source : String} {s s₁ : Run σ} {d : Diagnostic}
    (h : evaluateSource env host source s = .error (.diagnostic d) s₁) (hd : d.stage = .runtime) :
    ∃ e s' s₁', Expr.ofSource source = .ok e ∧
      e.evaluate env host s' = .error (.diagnostic d) s₁' := by
  cases hsource : Expr.ofSource source with
  | error d' =>
    have hne := stage_of_ofSource hsource
    rw [evaluateSource_of_error hsource] at h
    cases h
    exact absurd hd hne
  | ok e =>
    rw [evaluateSource_of_ok hsource] at h
    cases he : e.evaluate env host { s with events := s.events ++ (readSource source).1 } with
    | ok _ _ => rw [he] at h; cases h
    | error f s₁' =>
      rw [he] at h
      cases h
      exact ⟨e, _, s₁', rfl, he⟩

-- ---------------------------------------------------------------------------
-- The piece under the span
-- ---------------------------------------------------------------------------

/-- A node that fails from one run, with its own failure, fails from every run, and so
does the same node further to the front. -/
theorem Host.Steady.fails_of_shift (h : host.Steady functions)
    (henv : ∀ name, (env.get name).From functions) {m : Expr} {x : Extent} {s s₁ : Run σ}
    {fault : OperandFault}
    (hn : (m.shift x).evaluate env host s = .error (fault.failure (m.shift x).place) s₁)
    (s' : Run σ) :
    ∃ d s₁', m.evaluate env host s' = .error (.diagnostic d) s₁' ∧ d.stage = .runtime ∧
      d.message = fault.message ∧ d.span = some m.span ∧ d.line = some m.line := by
  have hm := h.moved henv x m s' s
  rw [hn] at hm
  generalize hr : m.evaluate env host s' = r at hm
  cases hm with
  | @error f _ s₁' _ hf _ =>
    generalize hfailure : fault.failure (m.shift x).place = failure at hf
    cases hf with
    | passed hunplaced =>
      -- the failure of a node does say where it lies
      have hnone := hunplaced _ hfailure.symm
      cases hnone
    | placed fault' p =>
      have hd := Diagnostic.mk.inj (Failure.diagnostic.inj hfailure)
      obtain ⟨-, hmessage, hline, hspan, -⟩ := hd
      rw [OperandFault.message_shift] at hmessage
      have hspan : (m.shift x).span = p.span.shift x := Option.some.inj hspan
      have hline : (m.shift x).line = p.line + x.lines := Option.some.inj hline
      rw [Expr.span_shift] at hspan
      rw [Expr.line_shift] at hline
      exact ⟨_, s₁', rfl, rfl, hmessage.symm, congrArg some (Span.shift_injective hspan.symm),
        congrArg some (Nat.add_right_cancel hline.symm)⟩

/-- **Failures point at what fails.** The functions of the prelude are steady. And where
the functions of an environment are: if the evaluation of a text fails at runtime with a
span, then the span is not empty and cuts the text at boundaries of characters, and the
piece under it, evaluated in the same environment from any run, fails at runtime with
the same message, with a span over the whole piece, and on a line that is lower by the
newlines before the piece. -/
theorem evaluateSource_blames (host : Host σ) :
    (∀ firstIdentity, (Environment.prelude firstIdentity).Steady host) ∧
    ∀ (env : Environment), env.Steady host →
    ∀ (source : String) (s s₁ : Run σ) (d : Diagnostic) (span : Span),
      evaluateSource env host source s = .error (.diagnostic d) s₁ → d.stage = .runtime →
      d.span = some span →
      ∃ before piece after, span.Cuts source before piece after ∧
        span.start < span.stop ∧ span.stop ≤ source.utf8ByteSize ∧
        ∀ s' : Run σ, ∃ d' s₁', evaluateSource env host piece s' = .error (.diagnostic d') s₁' ∧
          d'.stage = .runtime ∧ d'.message = d.message ∧
          d'.span = some ⟨0, span.stop - span.start⟩ ∧
          ∃ line, d'.line = some line ∧ d.line = some (line + before.toList.count '\n') := by
  refine ⟨fun firstIdentity => Environment.prelude_steady firstIdentity host, ?_⟩
  rintro env ⟨functions, hsteady, henv⟩ source s s₁ d span h hstage hspan
  obtain ⟨e, s₂, s₃, hsource, he⟩ := evaluate_of_evaluateSource h hstage
  obtain ⟨n, fault, s₄, s₅, hn, hfault, hfails⟩ := hsteady.origin henv he hspan
  obtain ⟨before, piece, after, hcuts, hne, m, hm, rfl⟩ := ofSource_piece hsource hn
  rw [hfault] at hfails
  cases hfault
  obtain rfl : (m.shift (Extent.of before.toList)).span = span := Option.some.inj hspan
  have hbefore : m.span.start + before.utf8ByteSize = before.utf8ByteSize := by
    have hstart := hcuts.start_eq
    rwa [Expr.span_shift, Span.shift, Extent.bytes_of] at hstart
  refine ⟨before, piece, after, hcuts, hcuts.start_lt_stop hne, hcuts.stop_le, fun s' => ?_⟩
  obtain ⟨d', s₁', hd', hstage', hmessage', hspan', hline'⟩ :=
    hsteady.fails_of_shift henv hfails { s' with events := s'.events ++ (readSource piece).1 }
  have hpiece := evaluateSource_of_ok hm env host s'
  rw [hd'] at hpiece
  refine ⟨d', _, hpiece, hstage', hmessage', ?_, m.line, hline', ?_⟩
  · have hzero : m.span.start = 0 := by omega
    have hspan : m.span = ⟨0, m.span.stop⟩ := by rw [← hzero]
    rw [hspan', Expr.span_shift, Span.shift, Nat.add_sub_add_right, hzero, Nat.sub_zero]
    exact congrArg some hspan
  · show some (m.shift _).line = _
    rw [Expr.line_shift]
    rfl

/-- `-nil` on the second line, behind a call whose argument takes up more bytes than
characters. -/
theorem evaluateSource_blames_second_line :
    let source := "len(\"é\") ==\n-nil"
    let env := Environment.prelude 0
    let s : Run Unit := ⟨(), #[]⟩
    ∃ d s₁, env.Steady Host.none ∧
      evaluateSource env Host.none source s = .error (.diagnostic d) s₁ ∧ d.stage = .runtime ∧
      d.span = some ⟨13, 17⟩ ∧
      ∃ before piece after, Span.Cuts ⟨13, 17⟩ source before piece after ∧
        ∀ s' : Run Unit, ∃ d' s₁',
          evaluateSource env Host.none piece s' = .error (.diagnostic d') s₁' ∧
          d'.message = d.message ∧ d'.span = some ⟨0, 4⟩ := by
  intro source env s
  let len : Token := ⟨.identifier, "len", none, 1, ⟨0, 3⟩⟩
  let opening : Token := ⟨.leftParen, "(", none, 1, ⟨3, 4⟩⟩
  let string : Token := ⟨.string, "\"é\"", some (.string "é"), 1, ⟨4, 8⟩⟩
  let closing : Token := ⟨.rightParen, ")", none, 1, ⟨8, 9⟩⟩
  let equal : Token := ⟨.equalEqual, "==", none, 1, ⟨10, 12⟩⟩
  let minus : Token := ⟨.minus, "-", none, 2, ⟨13, 14⟩⟩
  let nil : Token := ⟨.keyword .nil, "nil", none, 2, ⟨14, 17⟩⟩
  have hsplits : Token.Splits [] .origin "len(\"é\") ==\n-nil".toList
      [len, opening, string, closing, equal, minus, nil] :=
    @Token.Splits.token _ _ _ ['e', 'n'] _ _ _ rfl rfl <|
      @Token.Splits.token _ _ _ [] _ _ _ rfl rfl <|
      @Token.Splits.token _ _ _ ['é', '"'] _ _ _ rfl rfl <|
      @Token.Splits.token _ _ _ [] _ _ _ rfl rfl <| .blank rfl <|
      @Token.Splits.token _ _ _ ['='] _ _ _ rfl rfl <| .blank rfl <|
      @Token.Splits.token _ _ _ [] _ _ _ rfl rfl <|
      @Token.Splits.token _ _ _ ['i', 'l'] _ _ _ rfl rfl <| .done _
  have hstring : Derives .primary [string] (.literal (.string "é") ⟨⟨4, 8⟩, 1⟩) :=
    .atom (.string (t := string) rfl)
  have hcall : Derives .call [len, opening, string, closing] _ :=
    @Derives.apply [len] [string] opening closing _ _ (.uncalled (.atom (.identifier rfl))) rfl
      (.one hstring.toExpression) (by decide) rfl
  have hnegate : Derives .unary [minus, nil] _ :=
    .sign .negate (.unsigned (.uncalled (.atom (.nil rfl))))
  have hequal : Derives (.level .equality)
      ([len, opening, string, closing] ++ equal :: [minus, nil]) _ :=
    .join (.operand (.operand (.operand (.operand (.unsigned hcall))))) .equal
      (.operand (.operand (.operand hnegate)))
  have hsource := ofSource_eq_ok_iff.2 ⟨_, hsplits, hequal.toExpression⟩
  have h := evaluateSource_of_ok hsource env Host.none s
  have hsteady := Environment.prelude_steady 0 Host.none
  refine ⟨_, _, hsteady, h.trans rfl, rfl, rfl, ?_⟩
  obtain ⟨before, piece, after, hcuts, -, -, hpiece⟩ :=
    (evaluateSource_blames Host.none).2 env hsteady source s _ _ ⟨13, 17⟩ (h.trans rfl) rfl rfl
  refine ⟨before, piece, after, hcuts, fun s' => ?_⟩
  obtain ⟨d', s₁', hd', -, hmessage, hspan, -⟩ := hpiece s'
  exact ⟨d', s₁', hd', hmessage, hspan⟩

end Reckoner
