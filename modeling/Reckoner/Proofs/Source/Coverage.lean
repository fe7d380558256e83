import Reckoner.Proofs.Source.Reading

/-!
# Reckoner — tokens cover their text

Nothing of a text is lost when it is split into tokens, and every token knows where it
stands. The tokens of a stretch come one after the other, and what is left out between
them (`Token.gaps`) is blank.

Main results:

* `Splits.stands` — a token's span and line are those of the piece of text that is its
  lexeme;
* `Splits.increasing` — the spans of tokens stand in order and do not overlap;
* `Splits.blank_gaps` — before, between and behind the tokens there are only blanks;
* `scan_covers` — the same of all tokens of a text, the end mark included.
-/

namespace Reckoner

open Lexeme

namespace Token

-- ---------------------------------------------------------------------------
-- Where one token stands
-- ---------------------------------------------------------------------------

/-- A token stands in a text that is read from a position on: between two pieces of it is
the token's lexeme, and the token has the place of that. -/
structure Stands (p : Position) (cs : List Char) (t : Token) (before after : List Char) :
    Prop where
  text_eq : cs = before ++ t.lexeme.toList ++ after
  span_eq : t.span = (p.after before).spanTo (p.after (before ++ t.lexeme.toList))
  line_eq : t.line = (p.after before).line
  lexeme_ne : t.lexeme.toList ≠ []

/-- Every token of a stretch stands in it. -/
theorem Splits.stands {behind cs : List Char} {p : Position} {ts : List Token}
    (h : Splits behind p cs ts) : ∀ t ∈ ts, ∃ before after, Stands p cs t before after := by
  intro t ht
  obtain ⟨before, c, tail, after, k, rfl, -, rfl⟩ := h.exists_cut ht
  have hlexeme : (String.ofList (c :: tail)).toList = c :: tail := String.toList_ofList
  refine ⟨before, after, ⟨?_, ?_, rfl, ?_⟩⟩
  · simp only [ofLexeme, hlexeme, List.append_assoc, List.cons_append]
  · simp only [ofLexeme, hlexeme]
  · simp only [ofLexeme, hlexeme]
    exact List.cons_ne_nil _ _

theorem Stands.offset_le {p : Position} {cs before after : List Char} {t : Token}
    (h : Stands p cs t before after) : p.offset ≤ t.span.start := by
  have hstart : t.span.start = (p.after before).offset := congrArg Span.start h.span_eq
  rw [hstart, Position.after_offset]
  exact Nat.le_add_right _ _

/-- No token is empty. -/
theorem Stands.start_lt_stop {p : Position} {cs before after : List Char} {t : Token}
    (h : Stands p cs t before after) : t.span.start < t.span.stop := by
  have hne : (String.ofList t.lexeme.toList).utf8ByteSize ≠ 0 := by
    rw [Ne, String.utf8ByteSize_eq_zero_iff, String.ofList_toList]
    rintro hempty
    exact h.lexeme_ne (by rw [hempty]; rfl)
  rw [h.span_eq, Position.after_append]
  show (p.after before).offset < ((p.after before).after t.lexeme.toList).offset
  rw [Position.after_offset (p.after before) t.lexeme.toList]
  omega

-- ---------------------------------------------------------------------------
-- The tokens together
-- ---------------------------------------------------------------------------

/-- The spans of the tokens of a stretch stand in order and do not overlap. -/
theorem Splits.increasing {behind cs : List Char} {p : Position} {ts : List Token}
    (h : Splits behind p cs ts) : ts.Pairwise fun t u => t.span.stop ≤ u.span.start := by
  induction h with
  | done => exact .nil
  | blank _ _ ih => exact ih
  | token _ _ h ih =>
    refine .cons ?_ ih
    intro u hu
    obtain ⟨before, after, hstands⟩ := h.stands u hu
    exact hstands.offset_le

/-- The tokens of a stretch start one behind the other. -/
theorem Splits.starts_increasing {behind cs : List Char} {p : Position} {ts : List Token}
    (h : Splits behind p cs ts) : ts.Pairwise fun t u => t.span.start < u.span.start := by
  refine h.increasing.imp_of_mem fun ht _ hle => ?_
  obtain ⟨before, after, hstands⟩ := h.stands _ ht
  exact Nat.lt_of_lt_of_le hstands.start_lt_stop hle

/-- What tokens leave out of a range of bytes: what stands before the first, between one
and the next, and behind the last. -/
def gaps (start stop : Nat) : List Token → List Span
  | [] => [⟨start, stop⟩]
  | t :: ts => ⟨start, t.span.start⟩ :: gaps t.span.stop stop ts

/-- A stretch with no tokens in it is blank. -/
theorem Splits.blank_of_nil {behind cs : List Char} {p : Position} (h : Splits behind p cs []) :
    ∀ c ∈ cs, isBlank c := by
  generalize hts : ([] : List Token) = ts at h
  induction h with
  | done => exact fun c hc => absurd hc List.not_mem_nil
  | blank hc _ ih => exact List.forall_mem_cons.2 ⟨hc, ih hts⟩
  | token => cases hts

/-- The first token of a stretch stands behind blanks, and the others behind it. -/
theorem Splits.uncons {behind cs : List Char} {p : Position} {t : Token} {ts : List Token}
    (h : Splits behind p cs (t :: ts)) :
    ∃ gap word rest, cs = gap ++ (word ++ rest) ∧ (∀ c ∈ gap, isBlank c) ∧
      t.span = (p.after gap).spanTo (p.after (gap ++ word)) ∧
      Splits behind (p.after (gap ++ word)) rest ts := by
  generalize hts : t :: ts = us at h
  induction h with
  | done => cases hts
  | @blank _ c _ _ hc _ ih =>
    obtain ⟨gap, word, rest, rfl, hgap, hspan, hrest⟩ := ih hts
    exact ⟨c :: gap, word, rest, rfl, List.forall_mem_cons.2 ⟨hc, hgap⟩, hspan, hrest⟩
  | @token _ c tail rest _ _ _ _ h =>
    cases hts
    exact ⟨[], c :: tail, rest, rfl, fun c hc => absurd hc List.not_mem_nil, rfl, h⟩

/-- What the tokens of a stretch leave out of it is blank. -/
theorem Splits.blank_gaps {behind cs : List Char} {p : Position} {ts : List Token}
    (h : Splits behind p cs ts) :
    ∀ g ∈ gaps p.offset (p.after cs).offset ts, ∃ before blank after,
      cs = before ++ blank ++ after ∧ (∀ c ∈ blank, isBlank c) ∧
      g = (p.after before).spanTo (p.after (before ++ blank)) := by
  induction ts generalizing p cs with
  | nil =>
    intro g hg
    obtain rfl := List.mem_singleton.1 hg
    exact ⟨[], cs, [], by simp, h.blank_of_nil, rfl⟩
  | cons t ts ih =>
    intro g hg
    obtain ⟨gap, word, rest, rfl, hgap, hspan, hrest⟩ := h.uncons
    rw [gaps, hspan] at hg
    rcases List.mem_cons.1 hg with rfl | hg
    · exact ⟨[], gap, word ++ rest, rfl, hgap, rfl⟩
    · -- a later gap, which is one of what stands behind the token
      rw [← List.append_assoc, Position.after_append p (gap ++ word) rest] at hg
      obtain ⟨before, blank, after, rfl, hblank, rfl⟩ := ih hrest g hg
      refine ⟨gap ++ word ++ before, blank, after, by simp, hblank, ?_⟩
      simp only [List.append_assoc, Position.after_append]

end Token

-- ---------------------------------------------------------------------------
-- Whole texts
-- ---------------------------------------------------------------------------

theorem Position.line_origin_after (cs : List Char) :
    (Position.origin.after cs).line = 1 + cs.count '\n' :=
  Position.after_line _ _

/-- **Tokens cover their text.** When a text splits into tokens, the last of them is the
only end mark, behind the last byte and on the last line. Every other token is not empty,
its span cuts its lexeme out of the text, and its line is the line on which it starts, also
behind strings that go over several lines. The spans stand in order and do not overlap; and
what they leave out of the text, before the first, between two and behind the last, is
blank. -/
theorem scan_covers {source : String} {tokens : List Token} (h : Token.scan source = .ok tokens) :
    ∃ ts, tokens =
        ts ++ [Token.endMark (1 + source.toList.count '\n') source.utf8ByteSize] ∧
      (∀ t ∈ ts, t.kind ≠ .endOfInput ∧
        t.span.start < t.span.stop ∧ t.span.stop ≤ source.utf8ByteSize ∧
        ∃ before after, t.span.Cuts source before t.lexeme after ∧
          t.line = 1 + before.toList.count '\n') ∧
      (ts.Pairwise fun t u => t.span.stop ≤ u.span.start) ∧
      ∀ g ∈ Token.gaps 0 source.utf8ByteSize ts, ∃ before blank after,
        g.Cuts source before blank after ∧ ∀ c ∈ blank.toList, isBlank c := by
  obtain ⟨ts, hts, rfl⟩ := Token.scanFrom_eq_ok_iff.1 h
  have hend : (Position.origin.after source.toList).offset = source.utf8ByteSize := by
    rw [Position.offset_origin_after, String.ofList_toList]
  refine ⟨ts, ?_, ?_, hts.increasing, ?_⟩
  · rw [hend, Position.line_origin_after]
  · intro t ht
    obtain ⟨before, after, hstands⟩ := hts.stands t ht
    have hcuts := Span.cuts_of_append hstands.text_eq (congrArg Span.start hstands.span_eq)
      (congrArg Span.stop hstands.span_eq)
    rw [String.ofList_toList] at hcuts
    refine ⟨hts.ne_endOfInput ht, hstands.start_lt_stop, hcuts.stop_le, _, _, hcuts, ?_⟩
    rw [String.toList_ofList, hstands.line_eq, Position.line_origin_after]
  · intro g hg
    rw [← hend] at hg
    obtain ⟨before, blank, after, htext, hblank, rfl⟩ := hts.blank_gaps g hg
    refine ⟨_, _, _, Span.cuts_of_append htext rfl rfl, ?_⟩
    rw [String.toList_ofList]
    exact hblank

/-- A string over two lines and a line end behind it: the name stands on the third line. -/
theorem scan_covers_third_line :
    let string : Token := ⟨.string, "\"é\n\"", some (.string "é\n"), 1, ⟨1, 6⟩⟩
    let x : Token := ⟨.identifier, "x", none, 3, ⟨8, 9⟩⟩
    Token.scan " \"é\n\"\r\nx \t" = .ok [string, x, Token.endMark 3 11] ∧
      ∀ g ∈ Token.gaps 0 11 [string, x], ∃ before blank after,
        g.Cuts " \"é\n\"\r\nx \t" before blank after ∧ ∀ c ∈ blank.toList, isBlank c := by
  intro string x
  have hsplits : Token.Splits [] .origin " \"é\n\"\r\nx \t".toList [string, x] :=
    .blank rfl <| @Token.Splits.token _ _ _ ['é', '\n', '"'] _ _ _ rfl rfl <| .blank rfl <|
      .blank rfl <| @Token.Splits.token _ _ _ [] _ _ _ rfl rfl <| .blank rfl <| .blank rfl <|
      .done _
  have hscan : Token.scan " \"é\n\"\r\nx \t" = .ok [string, x, Token.endMark 3 11] :=
    Token.scanFrom_eq_ok_iff.2 ⟨_, hsplits, rfl⟩
  obtain ⟨ts, htokens, -, -, hgaps⟩ := scan_covers hscan
  obtain rfl : [string, x] = ts := List.append_inj_left' htokens rfl
  exact ⟨hscan, hgaps⟩

end Reckoner
