import Reckoner.Proofs.Cursor.Walk

/-!
# Reckoner — the steps of a walk

What the record of a walk may say: it has gone nowhere past the first end mark (`Event.Within`),
and the points it has come to are ordered (`Precedes`). From one point to the next either tokens
are consumed, or the next one is further down in the grammar.

Every step of a walk keeps this (`Sound`). What is known before a step besides (`Ready`) is which
tokens are left, and which points may come without consuming one of them: those below a bound,
which falls with each point and is lifted by each token.

Main results:

* `enter_ends` — a point that may come keeps the order;
* `advance_ends` — moving on over a token that is left;
* `accept_ends`, `expect_ends`, `refuse_ends` — what the steps of the procedures come to.
-/

namespace Reckoner.Cursor

-- ---------------------------------------------------------------------------
-- What a record may say
-- ---------------------------------------------------------------------------

/-- How far up in the grammar a point is. A turn begins behind a token, and an expression may
follow it at once, as the first argument of a call does. -/
def Point.rank : Point → Nat
  | .turn => 10
  | .expression => 9
  | .level l => l.height + 2
  | .unary => 2
  | .call => 1
  | .primary => 0

/-- Above the ranks of all points. -/
def Point.top : Nat := 11

theorem Point.rank_lt_top (p : Point) : p.rank < Point.top := by
  cases p with
  | level l => cases l <;> decide
  | _ => decide

/-- One entry may stand before another: tokens were consumed in between, or the second point
is further down in the grammar. -/
def Precedes (a b : Point × Nat) : Prop := a.2 < b.2 ∨ a.2 = b.2 ∧ b.1.rank < a.1.rank

/-- The point and the cursor of an entry. -/
def Event.entry? : Event → Option (Point × Nat)
  | .entered p cursor => some (p, cursor)
  | _ => none

/-- The points that a walk has come to, in order, each with the cursor there. -/
def State.entries (s : State) : List (Point × Nat) := s.trace.filterMap Event.entry?

/-- An event goes no further than an index; the cursor moves by one, and the token that comes
back is the one it moved over. -/
def Event.Within (tokens : List Token) (last : Nat) : Event → Prop
  | .looked index => index ≤ last
  | .advanced before after t => after = before + 1 ∧ after ≤ last ∧ tokens[before]? = some t
  | .entered _ cursor => cursor ≤ last

/-- Tokens with an end mark among them, split at the first one. -/
structure Row where
  body : List Token
  mark : Token
  behind : List Token
  unmarked : ∀ t ∈ body, t.kind ≠ .endOfInput
  marked : mark.kind = .endOfInput

/-- All tokens of a row. -/
def Row.tokens (row : Row) : List Token := row.body ++ row.mark :: row.behind

/-- What holds of every state in which a walk over a row is. -/
structure Sound (row : Row) (s : State) : Prop where
  cursor_le : s.cursor ≤ row.body.length
  within : ∀ e ∈ s.trace, e.Within row.tokens row.body.length
  ordered : s.entries.Pairwise Precedes

/-- A walk has gone over the front of a row, the rest is left, and the points of a rank below a
bound may come. -/
structure Ready (row : Row) (front rest : List Token) (bound : Nat) (s : State) : Prop
    extends Sound row s where
  body_eq : row.body = front ++ rest
  cursor_eq : s.cursor = front.length
  clear : ∀ a ∈ s.entries, a.2 < s.cursor ∨ a.2 = s.cursor ∧ bound ≤ a.1.rank

variable {α β : Type} {row : Row} {front rest : List Token} {p : Point} {n : Nat} {s : State}
  {t : Token} {k : TokenKind}

-- ---------------------------------------------------------------------------
-- How walks end
-- ---------------------------------------------------------------------------

/-- A walk ends with a result, in a state that has a property. -/
def Ends (m : Walk α) (s : State) (r : Except Stop α) (P : State → Prop) : Prop :=
  ∃ s', m s = some (r, s') ∧ P s'

section

variable {P Q : State → Prop} {m : Walk α} {f : α → Walk β} {a : α} {r : Except Stop β} {e : Stop}

theorem Ends.pure (h : P s) : Ends (pure a : Walk α) s (.ok a) P := ⟨s, rfl, h⟩

theorem Ends.throw (h : P s) : Ends (throw e : Walk α) s (.error e) P := ⟨s, rfl, h⟩

theorem Ends.bind (h : Ends m s (.ok a) P) (hf : ∀ s', P s' → Ends (f a) s' r Q) :
    Ends (m >>= f) s r Q := by
  obtain ⟨s', hm, hs'⟩ := h
  obtain ⟨s'', hr, hs''⟩ := hf s' hs'
  refine ⟨s'', ?_, hs''⟩
  change Option.bind (m s) _ = _
  rw [hm]
  exact hr

theorem Ends.bind_error (h : Ends m s (.error e) P) : Ends (m >>= f) s (.error e) P := by
  obtain ⟨s', hm, hs'⟩ := h
  refine ⟨s', ?_, hs'⟩
  change Option.bind (m s) _ = _
  rw [hm]
  rfl

end

-- ---------------------------------------------------------------------------
-- Looking and moving
-- ---------------------------------------------------------------------------

/-- An event that is no entry leaves a walk where it is. -/
theorem Ready.record (h : Ready row front rest n s) {e : Event} (hentry : e.entry? = none)
    (he : e.Within row.tokens row.body.length) :
    Ready row front rest n { s with trace := s.trace ++ [e] } := by
  have hentries : State.entries { s with trace := s.trace ++ [e] } = s.entries := by
    simp [State.entries, hentry]
  refine { h with within := ?_, ordered := hentries ▸ h.ordered, clear := hentries ▸ h.clear }
  intro e' he'
  rcases List.mem_append.1 he' with he' | he'
  · exact h.within e' he'
  · exact List.mem_singleton.1 he' ▸ he

/-- A walk comes to a point below the bound; then those below this one may come. -/
theorem enter_ends (h : Ready row front rest n s) (hp : p.rank < n) :
    Ends (enter p) s (.ok ()) (Ready row front rest p.rank) := by
  refine ⟨{ s with trace := s.trace ++ [.entered p s.cursor] }, rfl, ?_⟩
  have hentries : State.entries { s with trace := s.trace ++ [.entered p s.cursor] } =
      s.entries ++ [(p, s.cursor)] := by
    simp [State.entries, Event.entry?]
  refine { h with within := ?_, ordered := ?_, clear := ?_ }
  · intro e he
    rcases List.mem_append.1 he with he | he
    · exact h.within e he
    · exact List.mem_singleton.1 he ▸ h.cursor_le
  · rw [hentries, List.pairwise_append]
    refine ⟨h.ordered, List.pairwise_singleton _ _, fun a ha b hb => ?_⟩
    obtain rfl := List.mem_singleton.1 hb
    exact (h.clear a ha).imp_right fun ⟨hc, hr⟩ => ⟨hc, Nat.lt_of_lt_of_le hp hr⟩
  · rw [hentries]
    intro a ha
    rcases List.mem_append.1 ha with ha | ha
    · exact (h.clear a ha).imp_right fun ⟨hc, hr⟩ => ⟨hc, Nat.le_trans (Nat.le_of_lt hp) hr⟩
    · exact List.mem_singleton.1 ha ▸ .inr ⟨rfl, Nat.le_refl _⟩

/-- A look at a place up to the end mark, where there is a token. -/
theorem look_ends (h : Ready row front rest n s) {i : Nat} (hi : i ≤ row.body.length)
    (ht : row.tokens[i]? = some t) :
    Ends (look row.tokens i) s (.ok t) (Ready row front rest n) := by
  refine ⟨_, ?_, h.record (e := .looked i) rfl hi⟩
  unfold look
  rw [ht]
  rfl

/-- At the cursor is the token that comes next, or else the end mark. -/
theorem getElem?_front (h : row.body = front ++ rest) :
    row.tokens[front.length]? = some (rest.headD row.mark) := by
  rw [Row.tokens, h, List.append_assoc, List.getElem?_append_right (Nat.le_refl _), Nat.sub_self]
  cases rest <;> rfl

theorem peek_ends (h : Ready row front rest n s) :
    Ends (peek row.tokens) s (.ok (rest.headD row.mark)) (Ready row front rest n) := by
  have ht := getElem?_front h.body_eq
  rw [← h.cursor_eq] at ht
  exact look_ends h h.cursor_le ht

theorem isAtEnd_ends (h : Ready row front rest n s) :
    Ends (isAtEnd row.tokens) s (.ok rest.isEmpty) (Ready row front rest n) := by
  refine (peek_ends h).bind fun s' hs' => ?_
  have hend : decide ((rest.headD row.mark).kind = .endOfInput) = rest.isEmpty := by
    cases rest with
    | nil => exact decide_eq_true row.marked
    | cons t rest => exact decide_eq_false (row.unmarked t (by simp [h.body_eq]))
  rw [hend]
  exact .pure hs'

/-- Behind a token that was consumed every point may come. -/
theorem Ready.next (h : Ready row front (t :: rest) n s) :
    Ready row (front ++ [t]) rest Point.top { s with cursor := s.cursor + 1 } := by
  have hbody : row.body = front ++ [t] ++ rest := by rw [h.body_eq, List.append_assoc]; rfl
  have hcursor : s.cursor + 1 = (front ++ [t]).length := by
    rw [h.cursor_eq, List.length_append]
    rfl
  refine { h with cursor_le := ?_, body_eq := hbody, cursor_eq := hcursor, clear := ?_ }
  · have hlength := congrArg List.length hbody
    simp only [List.length_append] at hlength hcursor
    simp only [hlength, hcursor]
    exact Nat.le_add_right _ _
  · intro a ha
    rcases h.clear a ha with hlt | ⟨heq, -⟩
    · exact .inl (Nat.lt_succ_of_lt hlt)
    · exact .inl (heq ▸ Nat.lt_succ_self _)

theorem previous_ends (h : Ready row (front ++ [t]) rest n s) :
    Ends (previous row.tokens) s (.ok t) (Ready row (front ++ [t]) rest n) := by
  have hcursor : s.cursor - 1 = front.length := by simp [h.cursor_eq]
  have hbody : row.body = front ++ t :: rest := by simp [h.body_eq]
  have ht : row.tokens[s.cursor - 1]? = some t := by
    rw [hcursor]
    exact getElem?_front hbody
  exact look_ends h (Nat.le_trans (Nat.sub_le _ _) h.cursor_le) ht

/-- The cursor moves over the token that comes next, and this token comes back. -/
theorem advance_ends (h : Ready row front (t :: rest) n s) :
    Ends (advance row.tokens) s (.ok t) (Ready row (front ++ [t]) rest Point.top) := by
  have ht : row.tokens[s.cursor]? = some t := by
    rw [h.cursor_eq]
    exact getElem?_front h.body_eq
  refine Ends.bind (P := fun s' => s' = s) ⟨s, rfl, rfl⟩ ?_
  rintro s rfl
  refine (isAtEnd_ends h).bind fun s₁ h₁ => ?_
  refine Ends.bind (a := ()) ⟨_, rfl, h₁.next⟩ fun s₂ h₂ => ?_
  refine (previous_ends h₂).bind fun s₃ h₃ => ?_
  have hafter : s₃.cursor = s.cursor + 1 := by
    rw [h₃.cursor_eq, h.cursor_eq, List.length_append]
    rfl
  refine Ends.bind (P := fun s' => s' = s₃) ⟨s₃, rfl, rfl⟩ ?_
  rintro s₃ rfl
  refine Ends.bind (a := ()) ⟨_, rfl, h₃.record rfl ⟨hafter, ?_, ht⟩⟩ fun _ => .pure
  exact h₃.cursor_le

/-- A token of the kind comes next. -/
theorem check_ends (h : Ready row front (t :: rest) n s) (hk : t.kind = k) :
    Ends (check row.tokens k) s (.ok true) (Ready row front (t :: rest) n) := by
  refine (isAtEnd_ends h).bind fun s₁ h₁ => (peek_ends h₁).bind fun s₂ h₂ => ?_
  rw [List.headD_cons, decide_eq_true hk]
  exact .pure h₂

/-- No token of the kind comes next. -/
theorem check_ends_false (h : Ready row front rest n s)
    (hk : ∀ t ∈ rest.head?, t.kind ≠ k) :
    Ends (check row.tokens k) s (.ok false) (Ready row front rest n) := by
  refine (isAtEnd_ends h).bind fun s₁ h₁ => ?_
  cases rest with
  | nil => exact .pure h₁
  | cons t rest =>
    refine (peek_ends h₁).bind fun s₂ h₂ => ?_
    rw [List.headD_cons, decide_eq_false (hk t rfl)]
    exact .pure h₂

/-- A token of the kind comes next and is gone over. -/
theorem accept_ends (h : Ready row front (t :: rest) n s) (hk : t.kind = k) :
    Ends (accept row.tokens k) s (.ok true) (Ready row (front ++ [t]) rest Point.top) :=
  (check_ends h hk).bind fun _ h₁ => (advance_ends h₁).bind fun _ => .pure

/-- No token of the kind comes next. -/
theorem accept_ends_false (h : Ready row front rest n s)
    (hk : ∀ t ∈ rest.head?, t.kind ≠ k) :
    Ends (accept row.tokens k) s (.ok false) (Ready row front rest n) :=
  (check_ends_false h hk).bind fun _ => .pure

/-- A token of one of the kinds comes next and is gone over. -/
theorem acceptAny_ends (h : Ready row front (t :: rest) n s) {table : List (TokenKind × α)} {a : α}
    (ha : table.lookup t.kind = some a) :
    Ends (acceptAny row.tokens table) s (.ok (some a))
      (Ready row (front ++ [t]) rest Point.top) := by
  induction table generalizing s with
  | nil => cases ha
  | cons entry more ih =>
    obtain ⟨k, b⟩ := entry
    rw [acceptAny]
    by_cases hk : t.kind = k
    · rw [hk, List.lookup_cons_self] at ha
      cases ha
      exact (accept_ends h hk).bind fun _ => .pure
    · rw [List.lookup_cons, beq_eq_false_iff_ne.2 hk] at ha
      exact (accept_ends_false h (by simpa using hk)).bind fun s₁ h₁ => ih h₁ ha

/-- No token of one of the kinds comes next. -/
theorem acceptAny_ends_none (h : Ready row front rest n s) {table : List (TokenKind × α)}
    (ht : ∀ t ∈ rest.head?, table.lookup t.kind = none) :
    Ends (acceptAny row.tokens table) s (.ok none) (Ready row front rest n) := by
  induction table generalizing s with
  | nil => exact .pure h
  | cons entry more ih =>
    obtain ⟨k, b⟩ := entry
    rw [acceptAny]
    have hnot : ∀ t ∈ rest.head?, t.kind ≠ k ∧ more.lookup t.kind = none := fun t hmem => by
      have hnone := ht t hmem
      rw [List.lookup_cons] at hnone
      split at hnone
      · cases hnone
      · next hk => exact ⟨beq_eq_false_iff_ne.1 hk, hnone⟩
    exact (accept_ends_false h fun t hmem => (hnot t hmem).1).bind fun s₁ h₁ =>
      ih h₁ fun t hmem => (hnot t hmem).2

/-- What is said about a fault at the token that comes next is what is said about it where these
tokens are left. -/
theorem Ready.refusal_headD (h : Ready row front rest n s) (fault : ParseFault) :
    refusal fault (rest.headD row.mark) = ParseError.diagnose row.mark ⟨fault, rest⟩ := by
  cases rest with
  | nil => rw [List.headD_nil, refusal, if_pos row.marked]
  | cons t rest =>
    have ht : t.kind ≠ .endOfInput := row.unmarked t (by simp [h.body_eq])
    rw [List.headD_cons, refusal, if_neg ht]
    cases fault <;> rfl

/-- A walk is refused at the token that comes next. -/
theorem refuse_ends (h : Ready row front rest n s) (fault : ParseFault) :
    Ends (refuse row.tokens fault : Walk α) s
      (.error (.refused (ParseError.diagnose row.mark ⟨fault, rest⟩))) (Sound row) := by
  refine (peek_ends h).bind fun s₁ h₁ => ?_
  rw [h.refusal_headD]
  exact .throw h₁.toSound

/-- A token of the kind comes next, as it has to. -/
theorem expect_ends (h : Ready row front (t :: rest) n s) (hk : t.kind = k) (fault : ParseFault) :
    Ends (expect row.tokens k fault) s (.ok t) (Ready row (front ++ [t]) rest Point.top) :=
  (check_ends h hk).bind fun _ h₁ => advance_ends h₁

/-- No token of the kind comes next, and the walk is refused. -/
theorem expect_ends_error (h : Ready row front rest n s)
    (hk : ∀ t ∈ rest.head?, t.kind ≠ k) (fault : ParseFault) :
    Ends (expect row.tokens k fault) s
      (.error (.refused (ParseError.diagnose row.mark ⟨fault, rest⟩))) (Sound row) :=
  (check_ends_false h hk).bind fun _ h₁ => refuse_ends h₁ fault

end Reckoner.Cursor
