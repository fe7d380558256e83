import Reckoner.Proofs.Extent
import Reckoner.Proofs.Scanning.Lexeme

/-!
# Reckoner — how a stretch of text splits into tokens

The scanner as a relation (`Splits`): a stretch of text splits into tokens when it
consists of blanks and of lexemes, each the longest one in view of what stands behind
the stretch. Unlike the scanner, the relation speaks of a part of a text as well as of
all of it.

Main results:

* `scanFrom_eq_ok_iff` — the scanner answers with the tokens that the whole text splits
  into, and an end mark;
* `Splits.scanFrom_append` — behind a stretch that splits, scanning goes on as if it
  began there;
* `Splits.shift` — further on in a text, the tokens are the same but stand further on;
* `Splits.append`, `Splits.slice` — stretches are put together and fall apart: consecutive
  tokens of a stretch are what the part of it that they span splits into by itself.
-/

namespace Reckoner.Token

open Lexeme

/-- A stretch of text, read from a position on and with more text behind it, splits
into tokens. -/
inductive Splits (behind : List Char) : Position → List Char → List Token → Prop
  | done (p : Position) : Splits behind p [] []
  | blank {p : Position} {c : Char} {rest : List Char} {ts : List Token}
      (hc : isBlank c = true) (h : Splits behind (p.advance c) rest ts) :
      Splits behind p (c :: rest) ts
  | token {p : Position} {c : Char} {tail rest : List Char} {k : TokenKind} {ts : List Token}
      (hc : isBlank c = false) (hcut : cut c (tail ++ (rest ++ behind)) = .ok (k, tail))
      (h : Splits behind (p.after (c :: tail)) rest ts) :
      Splits behind p (c :: (tail ++ rest)) (ofLexeme k (c :: tail) p (p.after (c :: tail)) :: ts)

-- ---------------------------------------------------------------------------
-- The scanner, step by step
-- ---------------------------------------------------------------------------

theorem scanFrom_nil (p : Position) : scanFrom p [] = .ok [endMark p.line p.offset] := by
  rw [scanFrom]

theorem scanFrom_blank {c : Char} (hc : isBlank c = true) (p : Position) (rest : List Char) :
    scanFrom p (c :: rest) = scanFrom (p.advance c) rest := by
  rw [scanFrom, if_pos hc]

theorem scanFrom_token {c : Char} {tail rest : List Char} {k : TokenKind}
    (hc : isBlank c = false) (hcut : cut c (tail ++ rest) = .ok (k, tail)) (p : Position) :
    scanFrom p (c :: (tail ++ rest)) =
      (scanFrom (p.after (c :: tail)) rest).map
        (ofLexeme k (c :: tail) p (p.after (c :: tail)) :: ·) := by
  rw [scanFrom, if_neg (by simp [hc]), hcut]
  simp only [List.drop_left, Position.after_cons]
  cases scanFrom ((p.advance c).after tail) rest <;> rfl

/-- Behind a stretch that splits, scanning goes on as if it began there. -/
theorem Splits.scanFrom_append {behind cs : List Char} {p : Position} {ts : List Token}
    (h : Splits behind p cs ts) :
    scanFrom p (cs ++ behind) = (scanFrom (p.after cs) behind).map (ts ++ ·) := by
  induction h with
  | done p => cases h : scanFrom p behind <;> simp [h, Except.map]
  | blank hc _ ih => rw [List.cons_append, scanFrom_blank hc, ih, Position.after_cons]
  | @token p c tail rest k ts hc hcut _ ih =>
    rw [List.cons_append, List.append_assoc, scanFrom_token hc hcut, ih, ← List.cons_append,
      Position.after_append]
    cases scanFrom ((p.after (c :: tail)).after rest) behind <;> rfl

/-- The tokens found in a whole text, before the end mark, are what it splits into. -/
theorem splits_of_scanFrom : ∀ (p : Position) (cs : List Char) {ts : List Token},
    scanFrom p cs = .ok ts →
      ∃ us, Splits [] p cs us ∧ ts = us ++ [endMark (p.after cs).line (p.after cs).offset]
  | p, [], ts, h => by
    rw [scanFrom_nil] at h
    cases h
    exact ⟨[], .done p, rfl⟩
  | p, c :: rest, ts, h => by
    by_cases hc : isBlank c = true
    · rw [scanFrom_blank hc] at h
      obtain ⟨us, hus, rfl⟩ := splits_of_scanFrom _ rest h
      exact ⟨us, .blank hc hus, rfl⟩
    · rw [Bool.not_eq_true] at hc
      cases hcut : cut c rest with
      | error _ =>
        rw [scanFrom, if_neg (by simp [hc]), hcut] at h
        cases h
      | ok front =>
        obtain ⟨k, tail⟩ := front
        obtain ⟨later, hrest⟩ := (cut_ofKind hcut).1
        rw [← hrest] at hcut h ⊢
        rw [scanFrom_token hc hcut] at h
        cases hscan : scanFrom (p.after (c :: tail)) later with
        | error _ => rw [hscan] at h; cases h
        | ok vs =>
          rw [hscan] at h
          cases h
          obtain ⟨us, hus, rfl⟩ := splits_of_scanFrom _ later hscan
          refine ⟨_, .token hc (by rwa [List.append_nil]) hus, ?_⟩
          rw [← List.cons_append, Position.after_append]
          rfl
termination_by _ cs => cs.length
decreasing_by
  · exact Nat.lt_succ_self _
  · rw [← hrest, List.length_cons, List.length_append]
    omega

/-- The tokens of a whole text are those that it splits into, and an end mark. -/
theorem scanFrom_eq_ok_iff {p : Position} {cs : List Char} {ts : List Token} :
    scanFrom p cs = .ok ts ↔
      ∃ us, Splits [] p cs us ∧ ts = us ++ [endMark (p.after cs).line (p.after cs).offset] := by
  refine ⟨splits_of_scanFrom p cs, ?_⟩
  rintro ⟨us, hus, rfl⟩
  have h := hus.scanFrom_append
  rw [List.append_nil, scanFrom_nil] at h
  exact h

-- ---------------------------------------------------------------------------
-- Single tokens
-- ---------------------------------------------------------------------------

/-- No piece of text is an end mark. -/
theorem ne_endOfInput_of_ofKind {k : TokenKind} {l : List Char} (h : OfKind k l) :
    k ≠ .endOfInput := by
  cases h with
  | symbol hc | alone hc | joined hc => cases hc <;> nofun
  | name =>
    unfold nameKind
    split <;> nofun
  | whole | decimal | string => nofun

/-- **Where a token comes from.** Every token of a stretch was cut off the text from some
place on. -/
theorem Splits.exists_cut {behind cs : List Char} {p : Position} {ts : List Token} {t : Token}
    (h : Splits behind p cs ts) (ht : t ∈ ts) :
    ∃ before c tail after k, cs = before ++ c :: (tail ++ after) ∧
      cut c (tail ++ (after ++ behind)) = .ok (k, tail) ∧
      t = ofLexeme k (c :: tail) (p.after before) (p.after (before ++ c :: tail)) := by
  induction h with
  | done => exact absurd ht List.not_mem_nil
  | @blank p b _ _ _ _ ih =>
    obtain ⟨before, c, tail, after, k, rfl, hcut, rfl⟩ := ih ht
    exact ⟨b :: before, c, tail, after, k, rfl, hcut, rfl⟩
  | @token p d front rest k' _ _ hcut' _ ih =>
    rcases List.mem_cons.1 ht with rfl | ht
    · exact ⟨[], d, front, rest, k', rfl, hcut', rfl⟩
    · obtain ⟨before, c, tail, after, k, rfl, hcut, rfl⟩ := ih ht
      refine ⟨d :: front ++ before, c, tail, after, k, by simp, hcut, ?_⟩
      rw [List.append_assoc, Position.after_append p (d :: front) before,
        Position.after_append p (d :: front) (before ++ c :: tail)]

theorem Splits.ne_endOfInput {behind cs : List Char} {p : Position} {ts : List Token} {t : Token}
    (h : Splits behind p cs ts) (ht : t ∈ ts) : t.kind ≠ .endOfInput := by
  obtain ⟨_, _, _, _, _, -, hcut, rfl⟩ := h.exists_cut ht
  exact ne_endOfInput_of_ofKind (cut_ofKind hcut).2

/-- The end mark behind a stretch is the only one. -/
theorem Splits.filter_marked {behind cs : List Char} {p : Position} {ts : List Token}
    (h : Splits behind p cs ts) (line offset : Nat) :
    (ts ++ [endMark line offset]).filter (·.kind ≠ .endOfInput) = ts := by
  rw [List.filter_append, List.filter_eq_self.2 fun t ht => decide_eq_true (h.ne_endOfInput ht)]
  exact List.append_nil ts

-- ---------------------------------------------------------------------------
-- Other places, and other texts behind
-- ---------------------------------------------------------------------------

theorem ofLexeme_shift (x : Extent) (k : TokenKind) (l : List Char) (p q : Position) :
    ofLexeme k l (p.shift x) (q.shift x) = (ofLexeme k l p q).shift x := rfl

/-- Further on in a text, the tokens are the same but stand further on. -/
theorem Splits.shift {behind cs : List Char} {p : Position} {ts : List Token} (x : Extent)
    (h : Splits behind p cs ts) : Splits behind (p.shift x) cs (ts.map (·.shift x)) := by
  induction h with
  | done p => exact .done _
  | blank hc _ ih => exact .blank hc (by rwa [Position.shift_advance])
  | token hc hcut _ ih =>
    rw [List.map_cons, ← ofLexeme_shift, ← Position.shift_after]
    exact .token hc hcut (by rwa [Position.shift_after])

/-- The tokens further on are tokens that stand further on. -/
theorem Splits.unshift {behind cs : List Char} {p : Position} {ts : List Token} {x : Extent}
    (h : Splits behind (p.shift x) cs ts) :
    ∃ us, Splits behind p cs us ∧ ts = us.map (·.shift x) := by
  generalize hq : p.shift x = q at h
  induction h generalizing p with
  | done => exact ⟨[], .done p, rfl⟩
  | blank hc _ ih =>
    subst hq
    obtain ⟨us, hus, rfl⟩ := ih (Position.shift_advance x p _).symm
    exact ⟨us, .blank hc hus, rfl⟩
  | token hc hcut _ ih =>
    subst hq
    obtain ⟨us, hus, rfl⟩ := ih (Position.shift_after x p _).symm
    refine ⟨_, .token hc hcut hus, ?_⟩
    rw [List.map_cons, ← ofLexeme_shift, ← Position.shift_after]

/-- A stretch that is cut off from what is behind it splits into the same tokens. -/
theorem Splits.cutOff {behind cs : List Char} {p : Position} {ts : List Token}
    (h : Splits behind p cs ts) : Splits [] p cs ts := by
  induction h with
  | done p => exact .done p
  | blank hc _ ih => exact .blank hc ih
  | token hc hcut _ ih =>
    refine .token hc (cut_shrink hcut ?_) ih
    rw [List.append_nil]
    exact List.prefix_append _ _

/-- With what ends lexemes and anything behind it, a text splits into the same tokens. -/
theorem Splits.apartBehind {v cs : List Char} {p : Position} {ts : List Token}
    (h : Splits [] p cs ts) (hv : StartsApart v) : Splits v p cs ts := by
  induction h with
  | done p => exact .done p
  | blank hc _ ih => exact .blank hc ih
  | token hc hcut _ ih =>
    rw [List.append_nil] at hcut
    exact .token hc (cut_apart hcut hv) ih

theorem Splits.blankBehind {v cs : List Char} {p : Position} {ts : List Token}
    (h : Splits [] p cs ts) (hv : StartsBlank v) : Splits v p cs ts :=
  h.apartBehind hv.apart

/-- Two stretches, one behind the other, split into the tokens of both. -/
theorem Splits.append {behind cs ds : List Char} {p : Position} {ts us : List Token}
    (h : Splits (ds ++ behind) p cs ts) (h' : Splits behind (p.after cs) ds us) :
    Splits behind p (cs ++ ds) (ts ++ us) := by
  induction h with
  | done => exact h'
  | blank hc _ ih => exact .blank hc (ih h')
  | token hc hcut _ ih =>
    rw [← List.cons_append, Position.after_append] at h'
    rw [List.cons_append, List.append_assoc]
    exact .token hc (by rwa [List.append_assoc]) (ih h')

-- ---------------------------------------------------------------------------
-- Some of the tokens
-- ---------------------------------------------------------------------------

/-- A stretch with a token in it is not empty. -/
theorem Splits.ne_nil {behind cs : List Char} {p : Position} {ts : List Token}
    (h : Splits behind p cs ts) (hts : ts ≠ []) : cs ≠ [] := by
  rintro rfl
  cases h
  exact hts rfl

/-- A stretch falls apart in front of each of its tokens. -/
theorem Splits.back {behind cs : List Char} {p : Position} {xs ys : List Token} {t : Token}
    (h : Splits behind p cs (xs ++ t :: ys)) :
    ∃ before rest, cs = before ++ rest ∧ t.span.start = (p.after before).offset ∧
      Splits (rest ++ behind) p before xs ∧ Splits behind (p.after before) rest (t :: ys) := by
  generalize hts : xs ++ t :: ys = ts at h
  induction h generalizing xs with
  | done => simp at hts
  | @blank _ c _ _ hc _ ih =>
    obtain ⟨before, rest, rfl, hstart, hfront, hrest⟩ := ih hts
    exact ⟨c :: before, rest, rfl, hstart, .blank hc hfront, hrest⟩
  | @token p c tail rest _ _ hc hcut h ih =>
    cases xs with
    | nil =>
      cases hts
      exact ⟨[], c :: (tail ++ rest), rfl, rfl, .done p, .token hc hcut h⟩
    | cons x xs =>
      cases (List.cons.inj hts).1
      obtain ⟨before, rest, rfl, hstart, hfront, hrest⟩ := ih (List.cons.inj hts).2
      rw [List.append_assoc] at hcut
      refine ⟨c :: (tail ++ before), rest, by simp, ?_, .token hc hcut hfront, ?_⟩
      · rw [← List.cons_append, Position.after_append]
        exact hstart
      · rw [← List.cons_append, Position.after_append]
        exact hrest

/-- A stretch falls apart behind each of its tokens. -/
theorem Splits.front {behind cs : List Char} {p : Position} {xs ys : List Token} {t : Token}
    (h : Splits behind p cs (xs ++ t :: ys)) :
    ∃ piece rest, cs = piece ++ rest ∧ t.span.stop = (p.after piece).offset ∧
      Splits (rest ++ behind) p piece (xs ++ [t]) ∧ Splits behind (p.after piece) rest ys := by
  generalize hts : xs ++ t :: ys = ts at h
  induction h generalizing xs with
  | done => simp at hts
  | @blank _ c _ _ hc _ ih =>
    obtain ⟨piece, rest, rfl, hstop, hpiece, hrest⟩ := ih hts
    exact ⟨c :: piece, rest, rfl, hstop, .blank hc hpiece, hrest⟩
  | @token p c tail rest _ _ hc hcut h ih =>
    cases xs with
    | nil =>
      cases hts
      refine ⟨c :: (tail ++ []), rest, by simp, by rw [List.append_nil]; rfl,
        .token hc hcut (.done _), ?_⟩
      rwa [List.append_nil]
    | cons x xs =>
      cases (List.cons.inj hts).1
      obtain ⟨piece, rest, rfl, hstop, hpiece, hrest⟩ := ih (List.cons.inj hts).2
      rw [List.append_assoc] at hcut
      refine ⟨c :: (tail ++ piece), rest, by simp, ?_, .token hc hcut hpiece, ?_⟩
      · rw [← List.cons_append, Position.after_append]
        exact hstop
      · rw [← List.cons_append, Position.after_append]
        exact hrest

/-- A stretch falls apart around consecutive tokens of it. -/
theorem Splits.slice {behind cs : List Char} {p : Position} {xs ms ys : List Token} {s : Span}
    (h : Splits behind p cs (xs ++ ms ++ ys))
    (hfirst : ∃ t rest, ms = t :: rest ∧ s.start = t.span.start)
    (hlast : ∃ front t, ms = front ++ [t] ∧ s.stop = t.span.stop) :
    ∃ before piece after, cs = before ++ piece ++ after ∧
      s.start = (p.after before).offset ∧ s.stop = ((p.after before).after piece).offset ∧
      Splits [] p before xs ∧ Splits [] (p.after before) piece ms ∧
      Splits behind ((p.after before).after piece) after ys := by
  obtain ⟨t, rest, hms, hstart⟩ := hfirst
  obtain ⟨front, l, hms', hstop⟩ := hlast
  rw [List.append_assoc, hms, List.cons_append] at h
  -- first drop what is before the tokens, then what is behind them
  obtain ⟨before, cs', rfl, hbefore, hxs, hback⟩ := h.back
  rw [← List.cons_append, ← hms, hms', List.append_assoc] at hback
  obtain ⟨piece, after, rfl, hpiece, hfront, hys⟩ := hback.front
  rw [← hms'] at hfront
  exact ⟨before, piece, after, by rw [List.append_assoc], hstart.trans hbefore,
    hstop.trans hpiece, hxs.cutOff, hfront.cutOff, hys⟩

end Reckoner.Token
