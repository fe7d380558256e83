import Reckoner.Proofs.Evaluation.Gist
import Reckoner.Proofs.Grammar.Placement
import Reckoner.Proofs.Scanning.Words
import Reckoner.Proofs.Source.Reading

/-!
# Reckoner — layout does not matter

The lexemes of a text may be laid out anew, with any blanks around them and at least one
between two: that leaves nothing different but the places. The text splits into the same
tokens, is read as the same tree or refused with the same message, and its evaluation comes
to the same in every environment (`gist_evaluateSource_laidOut`).

The property goes through all the stages. The scanner cuts off the lexemes that the blanks
end (`LaidOut.splits`), and a lexeme has one kind and denotes one literal; the readers look
at no places (`Expr.parse_unplaced`), and neither does what an evaluation comes to
(`Simulation.alike_lawful`).
-/

namespace Reckoner

variable {σ : Type}

-- ---------------------------------------------------------------------------
-- Tokens
-- ---------------------------------------------------------------------------

namespace Token

/-- What is read from a lexeme does not depend on where it stands. -/
theorem Faithful.unplaced_eq {t u : Token} (ht : t.Faithful) (hu : u.Faithful)
    (h : t.lexeme = u.lexeme) : t.unplaced = u.unplaced := by
  have hkind := ht.kind_eq h hu.ofKind
  have hliteral : t.literal = u.literal := by
    rw [ht.literal_eq, hu.literal_eq, hkind, h]
  unfold unplaced
  rw [hkind, h, hliteral]

theorem map_unplaced_of_lexemes {ts us : List Token} (hts : ∀ t ∈ ts, t.Faithful)
    (hus : ∀ u ∈ us, u.Faithful) (h : ts.map Token.lexeme = us.map Token.lexeme) :
    ts.map Token.unplaced = us.map Token.unplaced := by
  induction ts generalizing us with
  | nil => rw [List.map_eq_nil_iff.1 h.symm]
  | cons t ts ih =>
    obtain ⟨u, us, rfl, hu, hrest⟩ := List.map_eq_cons_iff.1 h.symm
    obtain ⟨ht, hts⟩ := List.forall_mem_cons.1 hts
    obtain ⟨hu', hus⟩ := List.forall_mem_cons.1 hus
    rw [List.map_cons, List.map_cons, ht.unplaced_eq hu' hu.symm, ih hts hus hrest.symm]

/-- Laid out anew, a text splits into the same tokens. -/
theorem scan_laidOut {source source' : String} {tokens : List Token}
    (hscan : scan source = .ok tokens)
    (hlayout : LaidOut ((tokens.filter (·.kind ≠ .endOfInput)).map Token.lexeme) source') :
    ∃ tokens', scan source' = .ok tokens' ∧
      tokens'.map Token.unplaced = tokens.map Token.unplaced := by
  obtain ⟨ts, hts, rfl⟩ := scanFrom_eq_ok_iff.1 hscan
  rw [hts.filter_marked] at hlayout
  have hwords : ∀ w ∈ ts.map Token.lexeme, ∃ k, Lexeme.OfKind k w.toList := by
    intro w hw
    obtain ⟨t, ht, rfl⟩ := List.mem_map.1 hw
    exact ⟨t.kind, (hts.faithful t ht).ofKind⟩
  obtain ⟨ts', hts', hlexemes⟩ := hlayout.splits hwords .origin
  refine ⟨_, scanFrom_eq_ok_iff.2 ⟨ts', hts', rfl⟩, ?_⟩
  rw [List.map_append, List.map_append, map_unplaced_of_lexemes hts'.faithful hts.faithful hlexemes]
  rfl

end Token

-- ---------------------------------------------------------------------------
-- Trees
-- ---------------------------------------------------------------------------

/-- Texts that split into the same tokens are read as the same tree, or refused with the
same message. -/
theorem ofSource_unplaced {source source' : String} {tokens tokens' : List Token}
    (h : Token.scan source = .ok tokens) (h' : Token.scan source' = .ok tokens')
    (htokens : tokens'.map Token.unplaced = tokens.map Token.unplaced) :
    ((Expr.ofSource source').map Expr.unplaced).mapError Diagnostic.unplaced =
      ((Expr.ofSource source).map Expr.unplaced).mapError Diagnostic.unplaced := by
  rw [Expr.ofSource, Expr.ofSource, h, h']
  show ((Expr.parse tokens').map _).mapError _ = ((Expr.parse tokens).map _).mapError _
  rw [← Expr.parse_unplaced, ← Expr.parse_unplaced, htokens]

-- ---------------------------------------------------------------------------
-- Evaluations
-- ---------------------------------------------------------------------------

/-- The gist of a failure leaves out its place, and more. -/
theorem Failure.gist_unplaced (d : Diagnostic) :
    (Failure.diagnostic d.unplaced).gist = (Failure.diagnostic d).gist := rfl

theorem gist_evaluate_unplaced (env : Environment) (host : Host σ) (e : Expr) (s : Run σ) :
    gist (e.evaluate env host s) = gist (e.unplaced.evaluate env host s) :=
  gist_evaluate_relabel env host _ _ e rfl

/-- **Layout does not matter.** The lexemes of a text, written in their order with blanks
around them and at least one between two, split into the same tokens. The new text is read
exactly when the old one is, as the same tree up to places, and else refused with the same
message. And in every environment, from every state of every host, evaluating it comes to
the same: the same value or the same kind and message of failure, after the same calls with
the same arguments, and with the host in the same state. -/
theorem gist_evaluateSource_laidOut {source source' : String} {tokens : List Token}
    (hscan : Token.scan source = .ok tokens)
    (hlayout : Token.LaidOut
      ((tokens.filter (·.kind ≠ .endOfInput)).map Token.lexeme) source') :
    (∃ tokens', Token.scan source' = .ok tokens' ∧
      tokens'.map Token.unplaced = tokens.map Token.unplaced) ∧
    (∀ e, Expr.ofSource source = .ok e →
      ∃ e', Expr.ofSource source' = .ok e' ∧ e'.unplaced = e.unplaced) ∧
    (∀ d, Expr.ofSource source = .error d →
      ∃ d', Expr.ofSource source' = .error d' ∧ d'.unplaced = d.unplaced) ∧
    ∀ {σ : Type} (env : Environment) (host : Host σ) (s : Run σ),
      gist (evaluateSource env host source' s) = gist (evaluateSource env host source s) := by
  obtain ⟨tokens', hscan', htokens⟩ := Token.scan_laidOut hscan hlayout
  have hread := ofSource_unplaced hscan hscan' htokens
  refine ⟨⟨tokens', hscan', htokens⟩, ?_⟩
  cases h : Expr.ofSource source with
  | ok e =>
    rw [h] at hread
    cases h' : Expr.ofSource source' with
    | error d' => rw [h'] at hread; cases hread
    | ok e' =>
      rw [h'] at hread
      have he : e'.unplaced = e.unplaced := Except.ok.inj hread
      refine ⟨fun _ h => ?_, nofun, fun env host s => ?_⟩
      · cases h
        exact ⟨e', rfl, he⟩
      · rw [gist_evaluateSource h', gist_evaluateSource h, gist_evaluate_unplaced, he,
          ← gist_evaluate_unplaced]
  | error d =>
    rw [h] at hread
    cases h' : Expr.ofSource source' with
    | ok e' => rw [h'] at hread; cases hread
    | error d' =>
      rw [h'] at hread
      have hd : d'.unplaced = d.unplaced := Except.error.inj hread
      refine ⟨nofun, fun _ h => ?_, fun env host s => ?_⟩
      · cases h
        exact ⟨d', rfl, hd⟩
      · rw [gist_evaluateSource_refused h', gist_evaluateSource_refused h,
          ← Failure.gist_unplaced, hd, Failure.gist_unplaced]

/-- A comparison with a string over two lines in it, spread out over four. -/
theorem gist_evaluateSource_spread :
    let tokens : List Token :=
      [⟨.string, "\"a\nb\"", some (.string "a\nb"), 1, ⟨0, 5⟩⟩, ⟨.less, "<", none, 2, ⟨5, 6⟩⟩,
        ⟨.identifier, "c", none, 2, ⟨6, 7⟩⟩, Token.endMark 2 7]
    Token.scan "\"a\nb\"<c" = .ok tokens ∧
      (∃ tokens', Token.scan " \"a\nb\"\n<\r\n\tc " = .ok tokens' ∧
        tokens'.map Token.unplaced = tokens.map Token.unplaced) ∧
      ∀ (env : Environment) (s : Run Unit),
        gist (evaluateSource env Host.none " \"a\nb\"\n<\r\n\tc " s) =
          gist (evaluateSource env Host.none "\"a\nb\"<c" s) := by
  intro tokens
  have hsplits : Token.Splits [] .origin "\"a\nb\"<c".toList tokens.dropLast :=
    @Token.Splits.token _ _ _ ['a', '\n', 'b', '"'] _ _ _ rfl rfl <|
      @Token.Splits.token _ _ _ [] _ _ _ rfl rfl <|
      @Token.Splits.token _ _ _ [] _ _ _ rfl rfl <| .done _
  have hscan : Token.scan "\"a\nb\"<c" = .ok tokens :=
    Token.scanFrom_eq_ok_iff.2 ⟨_, hsplits, rfl⟩
  have hblank {gap : String} (h : gap.toList.all Lexeme.isBlank = true) :
      ∀ c ∈ gap.toList, Lexeme.isBlank c := List.all_eq_true.1 h
  have hc : Token.LaidOut ["c"] ("" ++ "c" ++ " " ++ "") :=
    .cons (hblank rfl) (hblank rfl) (fun h => absurd rfl h) (.none (hblank rfl))
  have hless : Token.LaidOut ["<", "c"] ("" ++ "<" ++ "\r\n\t" ++ "c ") :=
    .cons (hblank rfl) (hblank rfl) (fun _ => by decide) hc
  have hall : Token.LaidOut ["\"a\nb\"", "<", "c"]
      (" " ++ "\"a\nb\"" ++ "\n" ++ "<\r\n\tc ") :=
    .cons (hblank rfl) (hblank rfl) (fun _ => by decide) hless
  obtain ⟨htokens, -, -, hgist⟩ := gist_evaluateSource_laidOut hscan hall
  exact ⟨hscan, htokens, fun env s => hgist env Host.none s⟩

end Reckoner
