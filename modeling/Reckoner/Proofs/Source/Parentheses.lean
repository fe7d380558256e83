import Reckoner.Proofs.Evaluation.Gist
import Reckoner.Proofs.Evaluation.Unreached
import Reckoner.Proofs.Grammar.Placement
import Reckoner.Proofs.Grammar.Replacement
import Reckoner.Proofs.Source.Reading

/-!
# Reckoner — parentheses do not matter

The piece of a text that a node stands for may be put in parentheses: the text is then read as
the same tree with that node in parentheses, and evaluating it comes to the same, down to the
notes of a failure (`ofSource_parenthesized`).

No token around the parentheses changes, since a parenthesis ends every lexeme in front of it and
is one by itself (`Splits.enclose`). The tokens in and behind them stand further on, on the same
lines; so what differs in the tree are spans, and the lines of nodes that begin with the
parentheses. A closing parenthesis stays on its line, and this alone is quoted in a note.
-/

namespace Reckoner

open Grammar Lexeme

variable {σ : Type}

-- ---------------------------------------------------------------------------
-- Tokens in parentheses
-- ---------------------------------------------------------------------------

/-- A piece of a text is put in parentheses: these are tokens of their own, and the tokens of the
text stay the same but stand further on, on the lines where they stood. -/
theorem Token.Splits.enclose {p : Position} {before piece after : List Char}
    {xs ms ys : List Token} (hxs : Token.Splits [] p before xs)
    (hms : Token.Splits [] (p.after before) piece ms)
    (hys : Token.Splits [] ((p.after before).after piece) after ys) :
    ∃ l r : Token, l.kind = .leftParen ∧ r.kind = .rightParen ∧
      Token.Splits [] p (before ++ '(' :: (piece ++ ')' :: after))
        (xs ++ l :: (ms.map (·.shift ⟨1, 0⟩) ++ r :: ys.map (·.shift ⟨2, 0⟩))) := by
  have hopen : (p.after before).after ['('] = (p.after before).shift ⟨1, 0⟩ :=
    Position.after_eq_shift _ _
  have hclose (q : Position) : (q.shift ⟨1, 0⟩).after [')'] = q.shift ⟨2, 0⟩ :=
    Position.after_eq_shift _ _
  have hbehind : Token.Splits [] (((p.after before).after piece).shift ⟨1, 0⟩) (')' :: after)
      (_ :: ys.map (·.shift ⟨2, 0⟩)) :=
    @Token.Splits.token _ _ _ [] after _ _ rfl rfl (by rw [hclose]; exact hys.shift _)
  have hwithin : Token.Splits (')' :: after ++ []) ((p.after before).shift ⟨1, 0⟩) piece
      (ms.map (·.shift ⟨1, 0⟩)) :=
    (hms.shift _).apartBehind (endsLexeme_rightParen.startsApart _)
  have hinner := hwithin.append (by rw [Position.shift_after]; exact hbehind)
  have hparens : Token.Splits [] (p.after before) ('(' :: (piece ++ ')' :: after)) (_ :: _) :=
    @Token.Splits.token _ _ _ [] (piece ++ ')' :: after) _ _ rfl rfl (by rw [hopen]; exact hinner)
  have hfront : Token.Splits (('(' :: (piece ++ ')' :: after)) ++ []) p before xs :=
    hxs.apartBehind (endsLexeme_leftParen.startsApart _)
  exact ⟨_, _, rfl, rfl, hfront.append hparens⟩

-- ---------------------------------------------------------------------------
-- Trees up to places
-- ---------------------------------------------------------------------------

/-- A token without its span. -/
def Token.unspanned (t : Token) : Token := { t with span := default }

/-- A tree without the places of its nodes and without the spans of the tokens that close its
calls: only the lines of these stay, since notes quote them. -/
def Expr.unspanned : Expr → Expr :=
  Expr.relabel ⟨id, id, fun _ => default, Token.unspanned⟩

/-- What a tree up to places takes over from a token: its place only if it may close a call, and
then the line. -/
def Token.contribution (t : Token) : Token :=
  if t.kind = .rightParen then t.unspanned else t.unplaced

theorem Token.contribution_of_rightParen {t : Token} (h : t.kind = .rightParen) :
    t.contribution = t.unspanned :=
  if_pos h

theorem Token.contribution_of_ne {t : Token} (h : t.kind ≠ .rightParen) :
    t.contribution = t.unplaced :=
  if_neg h

/-- Further on in its line, a token contributes the same. -/
theorem Token.map_contribution_shift (bytes : Nat) (ts : List Token) :
    (ts.map (·.shift ⟨bytes, 0⟩)).map Token.contribution = ts.map Token.contribution := by
  rw [List.map_map]
  rfl

theorem Token.kind_contribution (t : Token) : t.contribution.kind = t.kind := by
  unfold contribution
  split <;> rfl

/-- The contributions of tokens fix the tree that they derive. -/
theorem fixes_unspanned :
    Fixes Token.contribution ⟨id, id, fun _ => default, Token.unspanned⟩ := by
  have hkind {t u : Token} (h : u.contribution = t.contribution) : u.kind = t.kind := by
    rw [← Token.kind_contribution, h, Token.kind_contribution]
  refine ⟨⟨fun _ => rfl⟩, hkind, fun {t u} ht h => ?_, fun {t u e} he h => ?_⟩
  · -- a token that may close a call contributes all that such a token is kept for
    have hu := (hkind h).trans ht
    rwa [Token.contribution_of_rightParen ht, Token.contribution_of_rightParen hu] at h
  · -- a token that is a tree by itself contributes all but its place
    have hk := hkind h
    rw [Token.contribution_of_ne he.kind_ne, Token.contribution_of_ne (hk ▸ he.kind_ne)] at h
    obtain ⟨-, hlexeme, hliteral, -⟩ := Token.mk.inj h
    exact he.ofKind hk ⟨fun _ => rfl⟩ (by rw [hliteral]) hlexeme

/-- What a failure says does not depend on places, save for the lines of closing tokens. -/
theorem account_evaluate_unspanned (env : Environment) (host : Host σ) (e : Expr) (s : Run σ) :
    account Failure.wording (e.evaluate env host s) =
      account Failure.wording (e.unspanned.evaluate env host s) :=
  account_evaluate_relabel env host Failure.wording (fun _ => default) Token.unspanned
    (fun _ _ => rfl) (fun _ _ _ => rfl) e rfl

-- ---------------------------------------------------------------------------
-- Texts
-- ---------------------------------------------------------------------------

/-- A text in which the piece of a node is put in parentheses is read as the tree in which the
node is. -/
theorem ofSource_enclosed {source : String} {n : Expr} {ctx : Expr.Context}
    (h : Expr.ofSource source = .ok (ctx.fill n)) :
    ∃ before piece after, n.span.Cuts source before piece after ∧
      ∃ e', Expr.ofSource (before ++ "(" ++ piece ++ ")" ++ after) = .ok e' ∧
        e'.unspanned = (ctx.fill (.group n n.place)).unspanned := by
  obtain ⟨ts, hts, hd⟩ := ofSource_eq_ok_iff.1 h
  obtain ⟨xs, ms, ys, rfl, hm, hreplace⟩ := hd.replace_parenthesized
  -- the piece of the text that the node covers
  obtain ⟨t, rest, hms, hstart, -⟩ := hm.first
  obtain ⟨before, piece, after, hsource, hstart, hstop, hxs, hpiece, hys⟩ :=
    hts.slice ⟨t, rest, hms, hstart⟩ hm.last
  rw [← Position.after_append] at hstop
  refine ⟨.ofList before, .ofList piece, .ofList after,
    Span.cuts_of_append hsource hstart hstop, ?_⟩
  obtain ⟨l, r, hl, hr, hsplits⟩ := hxs.enclose hpiece hys
  -- parentheses that take the place of the node, and look like those in the text
  let l' : Token := { l with span := ⟨n.span.start, n.span.start⟩, line := n.line }
  let r' : Token := { r with span := ⟨n.span.stop, n.span.stop⟩ }
  have hd' := hreplace l' r' hl hr rfl rfl rfl
  have hne : l.kind ≠ .rightParen := by rw [hl]; decide
  have hl' : l.contribution = l'.contribution :=
    (Token.contribution_of_ne hne).trans (@Token.contribution_of_ne l' hne).symm
  have hr' : r.contribution = r'.contribution :=
    (Token.contribution_of_rightParen hr).trans (@Token.contribution_of_rightParen r' hr).symm
  have hlook : (xs ++ l :: (ms.map (·.shift ⟨1, 0⟩) ++ r :: ys.map (·.shift ⟨2, 0⟩))).map
      Token.contribution = (xs ++ l' :: (ms ++ [r']) ++ ys).map Token.contribution := by
    simp only [List.map_append, List.map_cons, Token.map_contribution_shift, hl', hr',
      List.append_assoc, List.cons_append, List.nil_append]
  obtain ⟨e', he', hunspanned⟩ := fixes_unspanned.derives hd' hlook
  refine ⟨e', ofSource_eq_ok_iff.2 ⟨_, ?_, he'⟩, hunspanned⟩
  have htext : (String.ofList before ++ "(" ++ .ofList piece ++ ")" ++ .ofList after).toList =
      before ++ '(' :: (piece ++ ')' :: after) := by simp
  rw [htext]
  exact hsplits

/-- **Parentheses do not matter.** For each node, at any depth, of what a text stands for: the
span of the node cuts the text, and with parentheses around the piece that it covers the text is
read as the same tree with the node in parentheses, up to spans and lines. In every environment,
from every state of every host, both texts come to the same: the same value, or a failure of the
same kind with the same message and notes, after the same calls with the same arguments, and with
the host in the same state. -/
theorem ofSource_parenthesized {source : String} {e n : Expr} {ctx : Expr.Context}
    (h : Expr.ofSource source = .ok e) (hn : ctx.fill n = e) :
    ∃ before piece after, n.span.Cuts source before piece after ∧
      ∃ e', Expr.ofSource (before ++ "(" ++ piece ++ ")" ++ after) = .ok e' ∧
        e'.unspanned = (ctx.fill (.group n n.place)).unspanned ∧
        ∀ {σ : Type} (env : Environment) (host : Host σ) (s : Run σ),
          account Failure.wording
              (evaluateSource env host (before ++ "(" ++ piece ++ ")" ++ after) s) =
            account Failure.wording (evaluateSource env host source s) := by
  subst hn
  obtain ⟨before, piece, after, hcuts, e', he', hunspanned⟩ := ofSource_enclosed h
  refine ⟨before, piece, after, hcuts, e', he', hunspanned, fun {σ} env host s => ?_⟩
  have hgroup : (ctx.fill (.group n n.place)).evaluate env host = (ctx.fill n).evaluate env host :=
    ctx.evaluate_fill_congr (by rw [Expr.evaluate])
  rw [account_evaluateSource _ he', account_evaluateSource _ h, account_evaluate_unspanned,
    hunspanned, ← account_evaluate_unspanned, hgroup]

/-- A call over two lines as an operand. What is called is no function: the failure is reported
at the line of the call, which in parentheses begins one line before it is reported, and the note
says the same. -/
theorem ofSource_parenthesized_callee :
    let call : Expr := .call (.literal (.string "a") ⟨⟨0, 3⟩, 1⟩) []
      ⟨.rightParen, ")", none, 2, ⟨5, 6⟩⟩ ⟨⟨0, 6⟩, 2⟩
    let ctx : Expr.Context := [.binaryLeft .add (.var "b" ⟨⟨9, 10⟩, 2⟩) ⟨⟨0, 10⟩, 2⟩]
    Expr.ofSource "\"a\"(\n) + b" = .ok (ctx.fill call) ∧
      ∃ before piece after, call.span.Cuts "\"a\"(\n) + b" before piece after ∧
        ∃ e', Expr.ofSource (before ++ "(" ++ piece ++ ")" ++ after) = .ok e' ∧
          e'.unspanned = (ctx.fill (.group call call.place)).unspanned ∧
          account Failure.wording (evaluateSource .empty Host.none
              (before ++ "(" ++ piece ++ ")" ++ after) ⟨(), #[]⟩) =
            (.error (.diagnostic
              { stage := .runtime, message := "callee `a` (String) is an illegal function type"
                notes := ["call closed at line 2"] }), (), []) := by
  intro call ctx
  let string : Token := ⟨.string, "\"a\"", some (.string "a"), 1, ⟨0, 3⟩⟩
  let opening : Token := ⟨.leftParen, "(", none, 1, ⟨3, 4⟩⟩
  let closing : Token := ⟨.rightParen, ")", none, 2, ⟨5, 6⟩⟩
  let plus : Token := ⟨.plus, "+", none, 2, ⟨7, 8⟩⟩
  let b : Token := ⟨.identifier, "b", none, 2, ⟨9, 10⟩⟩
  have hsplits : Token.Splits [] .origin "\"a\"(\n) + b".toList
      [string, opening, closing, plus, b] :=
    @Token.Splits.token _ _ _ ['a', '"'] _ _ _ rfl rfl <|
      @Token.Splits.token _ _ _ [] _ _ _ rfl rfl <| .blank rfl <|
      @Token.Splits.token _ _ _ [] _ _ _ rfl rfl <| .blank rfl <|
      @Token.Splits.token _ _ _ [] _ _ _ rfl rfl <| .blank rfl <|
      @Token.Splits.token _ _ _ [] _ _ _ rfl rfl <| .done _
  have hstring : Derives .call [string] (.literal (.string "a") ⟨⟨0, 3⟩, 1⟩) :=
    .uncalled (.atom (.string (t := string) rfl))
  have hcall : Derives .call [string, opening, closing] call :=
    @Derives.apply [string] [] opening closing _ _ hstring rfl .none (by decide) rfl
  have hleft : Derives (.level .term) [string, opening, closing] call :=
    .operand (.operand (.unsigned hcall))
  have hb : Derives .unary [b] (.var "b" ⟨⟨9, 10⟩, 2⟩) :=
    .unsigned (.uncalled (.atom (.identifier (t := b) rfl)))
  have hsum : Derives (.level .term) [string, opening, closing, plus, b] (ctx.fill call) :=
    .join (t := plus) hleft .add (.operand hb)
  have he : Expr.ofSource "\"a\"(\n) + b" = .ok (ctx.fill call) :=
    ofSource_eq_ok_iff.2 ⟨_, hsplits, hsum.toExpression⟩
  obtain ⟨before, piece, after, hcuts, e', he', hunspanned, haccount⟩ :=
    ofSource_parenthesized he rfl
  refine ⟨he, before, piece, after, hcuts, e', he', hunspanned, ?_⟩
  rw [haccount, account_evaluateSource _ he]
  rfl

end Reckoner
