import Reckoner.Proofs.Cursor.Steps
import Reckoner.Proofs.Grammar.Rejection

/-!
# Reckoner — a walk over tokens ends, and in range

The walk of `Reckoner.Proofs.Cursor.Walk` comes to what `Reckoner.Expr.Parse` reads, though
nothing in it says that it ends or that there is a token wherever it looks. There is one lemma
for each procedure, and the lemmas call each other as the readers do: a reader, whose recursion
is known to end, leads the procedure through its calls and loops. How deep the calls go on the way
is not counted: some depth is enough, and beyond it nothing changes (`Settles`).

Main results:

* `level_tracks` — a procedure does what its reader does, and keeps the record in order;
* `walk_in_range` — the walk over any list of tokens.
-/

namespace Reckoner.Cursor

open Reckoner.Expr

variable {α β : Type} {row : Row} {front rest ts : List Token} {n : Nat} {s : State}

-- ---------------------------------------------------------------------------
-- The tables of the walk are those of the readers
-- ---------------------------------------------------------------------------

/-- The operators of a level in the table are its connectives. -/
theorem lookup_operators (l : Level) (k : TokenKind) :
    (operators l).lookup k = (Connective.ofKind? k).filter (·.level = l) := by
  cases k with
  | keyword word => cases word <;> cases l <;> rfl
  | _ => cases l <;> rfl

theorem lookup_signs (k : TokenKind) : signs.lookup k = UnaryOp.ofKind? k := by
  cases k <;> rfl

-- ---------------------------------------------------------------------------
-- Procedures and readers
-- ---------------------------------------------------------------------------

/-- A procedure ends with a result, in a state that has a property, whenever calls may go deep
enough. -/
def Settles (m : Nat → Walk α) (s : State) (r : Except Stop α) (P : State → Prop) : Prop :=
  ∃ s' least, (∀ depth, least ≤ depth → m depth s = some (r, s')) ∧ P s'

section

variable {P Q : State → Prop} {x : Walk α} {m m' : Nat → Walk α} {k : Nat → α → Walk β} {a : α}
  {r : Except Stop α} {r' : Except Stop β} {e : Stop}

/-- What calls nothing ends at every depth. -/
theorem Ends.settles (h : Ends x s r P) : Settles (fun _ => x) s r P := by
  obtain ⟨s', hx, hs'⟩ := h
  exact ⟨s', 0, fun _ _ => hx, hs'⟩

theorem Settles.pure (h : P s) : Settles (fun _ => pure a) s (.ok a) P := (Ends.pure h).settles

/-- The body of a procedure goes one call deeper. -/
theorem Settles.unfold (hm : ∀ depth, m (depth + 1) = m' depth) (h : Settles m' s r P) :
    Settles m s r P := by
  obtain ⟨s', least, hbody, hs'⟩ := h
  refine ⟨s', least + 1, fun depth hdepth => ?_, hs'⟩
  cases depth with
  | zero => exact absurd hdepth (Nat.not_succ_le_zero _)
  | succ depth =>
    rw [hm]
    exact hbody depth (Nat.le_of_succ_le_succ hdepth)

/-- Two procedures settle one behind the other, at any depth that is enough for both. -/
theorem Settles.bind (h : Settles m s (.ok a) P)
    (hk : ∀ s', P s' → Settles (fun depth => k depth a) s' r' Q) :
    Settles (fun depth => m depth >>= k depth) s r' Q := by
  obtain ⟨s', least, hm, hs'⟩ := h
  obtain ⟨s'', least', hr, hs''⟩ := hk s' hs'
  refine ⟨s'', max least least', fun depth hdepth => ?_, hs''⟩
  have hfirst : Ends (m depth) s (.ok a) (· = s') :=
    ⟨s', hm depth (Nat.le_trans (Nat.le_max_left ..) hdepth), rfl⟩
  have hthen : Ends (k depth a) s' r' (· = s'') :=
    ⟨s'', hr depth (Nat.le_trans (Nat.le_max_right ..) hdepth), rfl⟩
  obtain ⟨_, hbind, rfl⟩ := hfirst.bind fun _ h => h ▸ hthen
  exact hbind

/-- Nothing comes behind a procedure that is refused. -/
theorem Settles.bind_error (h : Settles m s (.error e) P) :
    Settles (fun depth => m depth >>= k depth) s (.error e) P := by
  obtain ⟨s', least, hm, hs'⟩ := h
  refine ⟨s', least, fun depth hdepth => ?_, hs'⟩
  have hfirst : Ends (m depth) s (.error e) (· = s') := ⟨s', hm depth hdepth, rfl⟩
  obtain ⟨_, hbind, rfl⟩ := hfirst.bind_error (f := k depth)
  exact hbind

end

/-- A procedure ends as a reader does: with what it built, in front of the tokens it left and with
some token consumed, or refused where the reader fails. -/
def Tracks (row : Row) (f : α → β) (reading : Reading α ts) (m : Nat → Walk β) (s : State) :
    Prop :=
  match reading with
  | .ok r => Settles m s (.ok (f r.value)) fun s' => ∃ front, Ready row front r.rest Point.top s'
  | .error e => Settles m s (.error (.refused (e.diagnose row.mark))) (Sound row)

section

variable {γ δ : Type} {us : List Token} {f : α → β} {g : γ → δ} {reading : Reading α ts}
  {reading' : Reading γ us} {x : Walk β} {m m' : Nat → Walk β} {k : Nat → β → Walk δ}

/-- The body of a procedure does what a reader does. -/
theorem Tracks.unfold (hm : ∀ depth, m (depth + 1) = m' depth) (h : Tracks row f reading m' s) :
    Tracks row f reading m s := by
  cases reading with
  | error e => exact Settles.unfold hm h
  | ok r => exact Settles.unfold hm h

/-- What is done before a procedure does what a reader does. -/
theorem Tracks.after {P : State → Prop} {b : β} (h : Ends x s (.ok b) P)
    (hk : ∀ s', P s' → Tracks row g reading' (fun depth => k depth b) s') :
    Tracks row g reading' (fun depth => x >>= k depth) s := by
  cases reading' with
  | error e => exact h.settles.bind hk
  | ok r => exact h.settles.bind hk

/-- A procedure ends with the tree that its reader builds. -/
theorem Tracks.ok (h : Tracks row f reading m s) {r : Parsed α ts} (hr : reading = .ok r) :
    Settles m s (.ok (f r.value)) fun s' => ∃ front, Ready row front r.rest Point.top s' := by
  subst hr
  exact h

/-- It is refused with the diagnostic of its reader. -/
theorem Tracks.error (h : Tracks row f reading m s) {e : ParseError} (hr : reading = .error e) :
    Settles m s (.error (.refused (e.diagnose row.mark))) (Sound row) := by
  subst hr
  exact h

/-- What is done after a procedure that has come to its end. -/
theorem Tracks.bind (h : Tracks row f reading m s) {r : Parsed α ts} (hr : reading = .ok r)
    (hk : ∀ front s', Ready row front r.rest Point.top s' →
      Tracks row g reading' (fun depth => k depth (f r.value)) s') :
    Tracks row g reading' (fun depth => m depth >>= k depth) s := by
  cases reading' with
  | error e => exact (h.ok hr).bind fun s' ⟨front, hs'⟩ => hk front s' hs'
  | ok r' => exact (h.ok hr).bind fun s' ⟨front, hs'⟩ => hk front s' hs'

/-- Nothing is done after a procedure that was refused. -/
theorem Tracks.bind_error (h : Tracks row f reading m s) {e : ParseError}
    (hr : reading = .error e) :
    Tracks row g (.error e : Reading γ us) (fun depth => m depth >>= k depth) s :=
  (h.error hr).bind_error

/-- Nothing is done where a walk is refused. -/
theorem Tracks.refused {e : ParseError}
    (h : Ends x s (.error (.refused (e.diagnose row.mark))) (Sound row)) :
    Tracks row g (.error e : Reading γ us) (fun depth => x >>= k depth) s :=
  h.settles.bind_error

end

-- ---------------------------------------------------------------------------
-- One lemma for each procedure
-- ---------------------------------------------------------------------------

/-- The point at which an operand of a level begins. -/
def operandPoint (l : Level) : Point :=
  match l.tighter? with
  | some tighter => .level tighter
  | none => .unary

/-- The operands of a level begin at a point of a lower rank. -/
theorem rank_operandPoint_lt_level (l : Level) :
    (operandPoint l).rank < (Point.level l).rank := by
  cases l <;> decide

theorem rank_operandPoint_lt_turn (l : Level) : (operandPoint l).rank < Point.turn.rank := by
  cases l <;> decide

/-- What comes next is neither a parenthesis nor an expression on its own. -/
theorem primary_ends_error (h : Ready row front rest n s) (hn : Point.primary.rank < n)
    (hparen : (rest.headD row.mark).kind ≠ .leftParen)
    (hatom : ofToken? (rest.headD row.mark) = none) :
    Settles (primary row.tokens) s
      (.error (.refused (ParseError.diagnose row.mark ⟨.operand, rest⟩))) (Sound row) := by
  refine .unfold (fun _ => primary.eq_2 ..) ?_
  refine (enter_ends h hn).settles.bind fun _ h₁ => (peek_ends h₁).settles.bind fun _ h₂ => ?_
  simp only [if_neg hparen, hatom, h.refusal_headD]
  exact (Ends.throw h₂.toSound).settles

/-- The mark at the end is no expression on its own. -/
theorem ofToken?_endMark {t : Token} (h : t.kind = .endOfInput) : ofToken? t = none := by
  rw [ofToken?, h]

mutual

/-- A whole expression. This and what follows goes through the procedures in the order in which they
call each other. -/
theorem expression_tracks {front : List Token} {n : Nat} {s : State} (rest : List Token)
    (h : Ready row front rest n s) (hn : Point.expression.rank < n) :
    Tracks row id (parseLevel .or rest) (expression row.tokens) s := by
  refine .unfold (fun _ => expression.eq_2 ..) ?_
  exact .after (enter_ends h hn) fun _ h₁ => level_tracks .or rest h₁ (by decide)
termination_by (rest.length, 17)
decreasing_by exact Prod.Lex.right _ (by decide)

/-- A chain of a level: its first operand, and then the loop over its operators. -/
theorem level_tracks {front : List Token} {n : Nat} {s : State} (l : Level) (rest : List Token)
    (h : Ready row front rest n s) (hn : (Point.level l).rank < n) :
    Tracks row id (parseLevel l rest) (level row.tokens · l) s := by
  rw [parseLevel]
  refine .unfold (fun _ => level.eq_2 ..) ?_
  refine .after (enter_ends h hn) fun _ h₁ => ?_
  have hoperand := operand_tracks l rest h₁ (rank_operandPoint_lt_level l)
  split
  · next e hread => exact hoperand.bind_error hread
  · next left hread =>
    have := left.shorter
    exact hoperand.bind hread fun _ _ h₂ => chain_tracks l left h₂
termination_by (rest.length, 2 * l.height + 4)
decreasing_by
  · exact Prod.Lex.right _ (by omega)
  · exact Prod.Lex.left _ _ (by omega)

/-- An operand of a level. -/
theorem operand_tracks {front : List Token} {n : Nat} {s : State} (l : Level) (rest : List Token)
    (h : Ready row front rest n s) (hn : (operandPoint l).rank < n) :
    Tracks row id (parseOperand l rest) (operand row.tokens · l) s := by
  rw [parseOperand]
  refine .unfold (fun _ => operand.eq_2 ..) ?_
  unfold operandPoint at hn
  split
  · next tighter hl =>
    have := Level.height_tighter hl
    rw [hl] at hn ⊢
    exact level_tracks tighter rest h hn
  · next hl =>
    rw [hl] at hn ⊢
    exact unary_tracks rest h hn
termination_by (rest.length, 2 * l.height + 3)
decreasing_by
  · exact Prod.Lex.right _ (by omega)
  · exact Prod.Lex.right _ (by omega)

/-- The loop over the operators of a level, with what it has built so far. -/
theorem chain_tracks {front : List Token} {s : State} {ts : List Token} (l : Level)
    (left : Parsed Expr ts) (h : Ready row front left.rest Point.top s) :
    Tracks row id (parseChain l left) (chain row.tokens · l left.value) s := by
  have hstop (hnone : ∀ t ∈ left.rest.head?, (operators l).lookup t.kind = none) :
      Tracks row id (.ok left) (chain row.tokens · l left.value) s := by
    refine .unfold (fun _ => chain.eq_2 ..) ?_
    exact .after (acceptAny_ends_none h hnone) fun _ h₁ => .pure ⟨_, h₁⟩
  rw [parseChain]
  split
  · next hrest => exact hstop (by rw [hrest]; exact nofun)
  · next t rest hrest =>
    have hlen : left.rest.length = rest.length + 1 := by rw [hrest, List.length_cons]
    split
    · next hc =>
      refine hstop ?_
      rw [hrest]
      rintro u ⟨⟩
      rw [lookup_operators, hc]
      rfl
    · next c hc =>
      split
      · next hl =>
        have hlookup : (operators l).lookup t.kind = some c := by
          rw [lookup_operators, hc]
          exact Option.filter_some_pos (by simpa using hl)
        rw [hrest] at h
        refine .unfold (fun _ => chain.eq_2 ..) ?_
        refine .after (acceptAny_ends h hlookup) fun _ h₁ => ?_
        refine .after (enter_ends h₁ (Point.rank_lt_top _)) fun _ h₂ => ?_
        have hoperand := operand_tracks l rest h₂ (rank_operandPoint_lt_turn l)
        split
        · next e hread => exact hoperand.bind_error hread
        · next right hread =>
          have := right.shorter
          exact hoperand.bind hread fun _ _ h₃ =>
            chain_tracks l (right.weaken (join c left.value right.value) _) h₃
      · next hl =>
        refine hstop ?_
        rw [hrest]
        rintro u ⟨⟩
        rw [lookup_operators, hc]
        exact Option.filter_some_neg (by simpa using hl)
termination_by (left.rest.length, 0)
decreasing_by
  · exact Prod.Lex.left _ _ (by omega)
  · exact Prod.Lex.left _ _ (by simp only [Parsed.weaken]; omega)

/-- Signs, and what stands behind them. -/
theorem unary_tracks {front : List Token} {n : Nat} {s : State} (rest : List Token)
    (h : Ready row front rest n s) (hn : Point.unary.rank < n) :
    Tracks row id (parseUnary rest) (unary row.tokens) s := by
  refine .unfold (fun _ => unary.eq_2 ..) ?_
  refine .after (enter_ends h hn) fun _ h₁ => ?_
  match rest with
  | [] =>
    rw [parseUnary]
    refine .after (acceptAny_ends_none h₁ nofun) fun _ h₂ => ?_
    refine .unfold (fun _ => call.eq_2 ..) ?_
    refine .after (enter_ends h₂ (by decide)) fun _ h₃ => ?_
    have hmark : row.mark.kind ≠ .leftParen := by rw [row.marked]; decide
    exact (primary_ends_error h₃ (by decide) hmark (ofToken?_endMark row.marked)).bind_error
  | t :: rest =>
    rw [parseUnary]
    split
    · next op hop =>
      refine .after (acceptAny_ends h₁ ((lookup_signs _).trans hop)) fun _ h₂ => ?_
      refine .after (previous_ends h₂) fun _ h₃ => ?_
      have hoperand := unary_tracks rest h₃ (by decide)
      split
      · next e hread => exact hoperand.bind_error hread
      · next operand hread => exact hoperand.bind hread fun front' _ h₄ => .pure ⟨front', h₄⟩
    · next hop =>
      refine .after (acceptAny_ends_none h₁ ?_) fun _ h₂ => ?_
      · rintro u ⟨⟩
        exact (lookup_signs _).trans hop
      refine .unfold (fun _ => call.eq_2 ..) ?_
      refine .after (enter_ends h₂ (by decide)) fun _ h₃ => ?_
      have hprimary := primary_tracks t rest h₃ (by decide)
      split
      · next e hread => exact hprimary.bind_error hread
      · next callee hread =>
        have := callee.shorter
        exact hprimary.bind hread fun _ _ h₄ => calls_tracks callee h₄
termination_by (rest.length, 2)
decreasing_by
  · exact Prod.Lex.left _ _ (by simp)
  · exact Prod.Lex.right _ (by omega)
  · exact Prod.Lex.left _ _ (by omega)

/-- A parenthesis or an expression on its own, where there is a token. -/
theorem primary_tracks {front : List Token} {n : Nat} {s : State} (t : Token) (rest : List Token)
    (h : Ready row front (t :: rest) n s) (hn : Point.primary.rank < n) :
    Tracks row id (parsePrimary t rest) (primary row.tokens) s := by
  rw [parsePrimary]
  split
  · next ht =>
    refine .unfold (fun _ => primary.eq_2 ..) ?_
    refine .after (enter_ends h hn) fun _ h₁ => .after (peek_ends h₁) fun _ h₂ => ?_
    simp only [List.headD_cons, ht, if_true]
    refine .after (advance_ends h₂) fun _ h₃ => ?_
    have hinner := expression_tracks rest h₃ (by decide)
    split
    · next e hread => exact hinner.bind_error hread
    · next inner hread =>
      refine hinner.bind hread fun front' _ h₄ => ?_
      split
      · next hrest =>
        rw [hrest] at h₄
        exact .refused (expect_ends_error h₄ nofun .closingGroup)
      · next closing rest' hrest =>
        rw [hrest] at h₄
        split
        · next hclosing =>
          exact .after (expect_ends h₄ hclosing .closingGroup) fun _ h₅ => .pure ⟨_, h₅⟩
        · next hclosing =>
          exact .refused (expect_ends_error h₄ (by simpa using hclosing) .closingGroup)
  · next ht =>
    split
    · next e he =>
      refine .unfold (fun _ => primary.eq_2 ..) ?_
      refine .after (enter_ends h hn) fun _ h₁ => .after (peek_ends h₁) fun _ h₂ => ?_
      simp only [List.headD_cons, if_neg ht, he]
      exact .after (advance_ends h₂) fun _ h₃ => .pure ⟨_, h₃⟩
    · next he => exact primary_ends_error h hn ht he
termination_by (rest.length + 1, 0)
decreasing_by exact Prod.Lex.left _ _ (by omega)

/-- The loop over the calls behind a callee. -/
theorem calls_tracks {front : List Token} {s : State} {ts : List Token} (callee : Parsed Expr ts)
    (h : Ready row front callee.rest Point.top s) :
    Tracks row id (parseCalls callee) (calls row.tokens · callee.value) s := by
  have hstop (hnone : ∀ t ∈ callee.rest.head?, t.kind ≠ .leftParen) :
      Tracks row id (.ok callee) (calls row.tokens · callee.value) s := by
    refine .unfold (fun _ => calls.eq_2 ..) ?_
    exact .after (accept_ends_false h hnone) fun _ h₁ => .pure ⟨_, h₁⟩
  rw [parseCalls]
  split
  · next hrest => exact hstop (by rw [hrest]; exact nofun)
  · next t rest hrest =>
    have hlen : callee.rest.length = rest.length + 1 := by rw [hrest, List.length_cons]
    split
    · next ht =>
      rw [hrest] at h
      refine .unfold (fun _ => calls.eq_2 ..) ?_
      refine .after (accept_ends h ht) fun _ h₁ => ?_
      refine .after (enter_ends h₁ (Point.rank_lt_top _)) fun _ h₂ => ?_
      have hargs := finishCall_tracks rest h₂
      split
      · next e hread => exact hargs.bind_error hread
      · next args hread =>
        have := args.shorter
        exact hargs.bind hread fun _ _ h₃ =>
          calls_tracks (args.weaken (applyCall callee.value args.value.1 args.value.2) _) h₃
    · next ht => exact hstop (by rw [hrest]; simpa using ht)
termination_by (callee.rest.length, 0)
decreasing_by
  · exact Prod.Lex.left _ _ (by omega)
  · exact Prod.Lex.left _ _ (by simp only [Parsed.weaken]; omega)

/-- A call behind its opening parenthesis. -/
theorem finishCall_tracks {front : List Token} {s : State} (rest : List Token)
    (h : Ready row front rest Point.turn.rank s) :
    Tracks row id (parseArguments rest) (finishCall row.tokens) s := by
  refine .unfold (fun _ => finishCall.eq_2 ..) ?_
  match rest with
  | [] =>
    rw [parseArguments]
    refine .after (check_ends_false h nofun) fun _ h₁ => ?_
    exact arguments_tracks [] [] h₁ (by decide)
  | t :: rest =>
    rw [parseArguments]
    split
    · next ht =>
      refine .after (check_ends h ht) fun _ h₁ => ?_
      exact .after (expect_ends h₁ ht .closingCall) fun _ h₂ => .pure ⟨_, h₂⟩
    · next ht =>
      refine .after (check_ends_false h (by simpa using ht)) fun _ h₁ => ?_
      exact arguments_tracks [] (t :: rest) h₁ (by decide)
termination_by (rest.length, 19)
decreasing_by
  · exact Prod.Lex.right _ (by decide)
  · exact Prod.Lex.right _ (by decide)

/-- The loop over its arguments, with those that have been read. -/
theorem arguments_tracks {front : List Token} {n : Nat} {s : State} (before : List Expr)
    (rest : List Token) (h : Ready row front rest n s) (hn : Point.expression.rank < n) :
    Tracks row (fun more => (before ++ more.1, more.2)) (parseArgument before.length rest)
      (arguments row.tokens · before) s := by
  rw [parseArgument]
  refine .unfold (fun _ => arguments.eq_2 ..) ?_
  by_cases hcount : maxArguments ≤ before.length
  · simp only [if_pos hcount]
    exact .refused (refuse_ends h .tooManyArguments)
  simp only [if_neg hcount]
  have harg := expression_tracks rest h hn
  split
  · next e hread => exact harg.bind_error hread
  · next arg hread =>
    refine harg.bind hread fun _ _ h₁ => ?_
    split
    · next hrest =>
      rw [hrest] at h₁
      refine .after (accept_ends_false h₁ nofun) fun _ h₂ => ?_
      exact .refused (expect_ends_error h₂ nofun .closingCall)
    · next t rest' hrest =>
      have hlen : arg.rest.length = rest'.length + 1 := by rw [hrest, List.length_cons]
      have := arg.shorter
      rw [hrest] at h₁
      split
      · next ht =>
        refine .after (accept_ends h₁ ht) fun _ h₂ => ?_
        have hmore := arguments_tracks (before ++ [arg.value]) rest' h₂ (by decide)
        rw [List.length_append, List.length_singleton] at hmore
        split
        · next e hread' => exact hmore.error hread'
        · next more hread' =>
          have hok := hmore.ok hread'
          simp only [List.append_assoc, List.singleton_append] at hok
          exact hok
      · next ht =>
        refine .after (accept_ends_false h₁ (by simpa using ht)) fun _ h₂ => ?_
        split
        · next hclosing =>
          exact .after (expect_ends h₂ hclosing .closingCall) fun _ h₃ => .pure ⟨_, h₃⟩
        · next hclosing =>
          exact .refused (expect_ends_error h₂ (by simpa using hclosing) .closingCall)
termination_by (rest.length, 18)
decreasing_by
  · exact Prod.Lex.right _ (by decide)
  · exact Prod.Lex.left _ _ (by omega)

end

-- ---------------------------------------------------------------------------
-- Whole lists
-- ---------------------------------------------------------------------------

/-- At its beginning a walk may come to any point. -/
theorem ready_start (row : Row) : Ready row [] row.body Point.top ⟨0, []⟩ where
  cursor_le := Nat.zero_le _
  within := nofun
  ordered := .nil
  body_eq := rfl
  cursor_eq := rfl
  clear := nofun

/-- The walk over a list settles, with what is read from it or the diagnostic of the refusal. -/
theorem whole_settles (row : Row) :
    Settles (whole row.tokens) ⟨0, []⟩
      ((ofTokens row.body).mapError fun e => .refused (e.diagnose row.mark)) (Sound row) := by
  have hread := expression_tracks row.body (ready_start row) (Point.rank_lt_top _)
  unfold ofTokens whole
  split
  · next e hfail => exact (hread.error hfail).bind_error
  · next e hok =>
    refine (hread.ok hok).bind fun _ ⟨_, h₁⟩ => (isAtEnd_ends h₁).settles.bind fun _ h₂ => ?_
    obtain ⟨value, rest, shorter⟩ := e
    cases rest with
    | nil => exact .pure h₂.toSound
    | cons t rest => exact (refuse_ends h₂ .leftover).settles

/-- A list without an end mark is completed with the mark at which it ends. -/
theorem completed_of_unmarked {ts : List Token} (h : ∀ t ∈ ts, t.kind ≠ .endOfInput) :
    completed ts = ts ++ [endMark ts] := by
  have hnone : ts.find? (·.kind = .endOfInput) = none := by
    rw [List.find?_eq_none]
    simpa using h
  rw [completed, endMark, hnone]
  cases hlast : ts.getLast? with
  | none =>
    rw [List.getLast?_eq_none_iff.1 hlast]
    rfl
  | some t => exact if_neg (h t (List.mem_of_getLast? hlast))

/-- Nothing changes up to the first end mark of a list. -/
theorem completed_append_marked (ts : List Token) (z : Token) (us : List Token) :
    ∃ vs, completed (ts ++ z :: us) = ts ++ z :: vs := by
  unfold completed
  split
  · next hlast => simp at hlast
  · split
    · exact ⟨us, rfl⟩
    · next t _ _ => exact ⟨us ++ [Token.endMark t.line t.span.stop], by simp⟩

/-- A completed list is a row: in front of its first end mark stand the tokens that are read. -/
theorem exists_row (ts : List Token) :
    ∃ row : Row, row.tokens = completed ts ∧ row.body = body ts ∧ row.mark = endMark ts := by
  cases hfind : ts.find? (·.kind = .endOfInput) with
  | none =>
    have hts : ∀ t ∈ ts, t.kind ≠ .endOfInput := by simpa using hfind
    have hmark : (endMark ts).kind = .endOfInput := by
      rw [endMark, hfind]
      cases ts.getLast? <;> rfl
    exact ⟨⟨ts, endMark ts, [], hts, hmark⟩, (completed_of_unmarked hts).symm,
      (Grammar.body_of_unmarked hts).symm, rfl⟩
  | some z =>
    obtain ⟨hz, xs, us, rfl, hxs⟩ := List.find?_eq_some_iff_append.1 hfind
    replace hz : z.kind = .endOfInput := of_decide_eq_true hz
    replace hxs : ∀ t ∈ xs, t.kind ≠ .endOfInput := by simpa using hxs
    obtain ⟨vs, hvs⟩ := completed_append_marked xs z us
    exact ⟨⟨xs, z, vs, hxs, hz⟩, hvs.symm, (Grammar.body_append_marked hxs hz us).symm,
      (Grammar.endMark_append_marked hxs hz us).symm⟩

/-- The first end mark of a row stands behind its body. -/
theorem findIdx_tokens (row : Row) :
    row.tokens.findIdx (·.kind = .endOfInput) = row.body.length := by
  have hbody : row.body.findIdx (·.kind = .endOfInput) = row.body.length :=
    List.findIdx_eq_length.2 fun t ht => decide_eq_false (row.unmarked t ht)
  rw [Row.tokens, List.findIdx_append, hbody, if_neg (Nat.lt_irrefl _),
    List.findIdx_cons, decide_eq_true row.marked]
  exact Nat.zero_add _

/-- Whenever a walk comes to a point once more, it has consumed tokens since. -/
theorem Sound.increasing (h : Sound row s) (p : Point) :
    ((s.entries.filter (·.1 = p)).map Prod.snd).Pairwise (· < ·) := by
  rw [List.pairwise_map]
  refine (h.ordered.filter _).imp_of_mem fun {a b} ha hb hab => ?_
  have hpa : a.1 = p := of_decide_eq_true (List.mem_filter.1 ha).2
  have hpb : b.1 = p := of_decide_eq_true (List.mem_filter.1 hb).2
  rcases hab with hlt | ⟨-, hrank⟩
  · exact hlt
  · rw [hpa, hpb] at hrank
    exact absurd hrank (Nat.lt_irrefl _)

/-- **The cursor stays in range, and reading ends.** The walk over any list of tokens, completed
with an end mark, comes to an end, since its calls go no deeper than some depth: with the tree that
the list is read as, or refused with its diagnostic, and never at a place where there is no token.
All the while the cursor is in front of the first end mark or at it, and so are all places that are
looked at; whenever it moves, it moves over one token, and this token comes back. Between two points
that the walk comes to there are tokens consumed, or the second one is further down in the grammar.
So it has consumed a token whenever it begins an expression, a unary expression or another turn of a
loop once more. -/
theorem walk_in_range (ts : List Token) :
    let tokens := completed ts
    let last := tokens.findIdx (·.kind = .endOfInput)
    ∃ s least,
      (∀ depth, least ≤ depth → walk depth ts = some ((parse ts).mapError .refused, s)) ∧
      last < tokens.length ∧ s.cursor ≤ last ∧ (∀ e ∈ s.trace, e.Within tokens last) ∧
      s.entries.Pairwise Precedes ∧
      ∀ p, ((s.entries.filter (·.1 = p)).map Prod.snd).Pairwise (· < ·) := by
  intro tokens last
  obtain ⟨row, htokens, hbody, hmark⟩ := exists_row ts
  obtain ⟨s, least, hwalk, hsound⟩ := whole_settles row
  have hlast : last = row.body.length := by
    rw [← findIdx_tokens, htokens]
  have hlt : last < tokens.length := by
    simp only [tokens, hlast, ← htokens, Row.tokens, List.length_append, List.length_cons]
    omega
  refine ⟨s, least, fun depth hdepth => ?_, hlt, hlast ▸ hsound.cursor_le, fun e he => ?_,
    hsound.ordered, hsound.increasing⟩
  · rw [walk, ← htokens, hwalk depth hdepth, parse, ← hbody, ← hmark]
    cases ofTokens row.body <;> rfl
  · have hwithin := hsound.within e he
    rwa [htokens, ← hlast] at hwithin

end Reckoner.Cursor
