import Reckoner.Proofs.Grammar.Acceptance
import Reckoner.Proofs.Scanning.Stretch

/-!
# Reckoner — what a text is read as

The scanner and the reader of expressions put together. A text stands for an
expression exactly when it splits into tokens that derive it, and no end mark is left
to speak of (`ofSource_eq_ok_iff`).

Spans count bytes. `Span.Cuts` says that a span falls on the boundaries of characters,
and which piece of a text it covers.
-/

namespace Reckoner

open Grammar

-- ---------------------------------------------------------------------------
-- Bytes of a text
-- ---------------------------------------------------------------------------

/-- The extent of a text takes up the bytes of the text. -/
theorem Extent.bytes_of (text : String) : (Extent.of text.toList).bytes = text.utf8ByteSize := by
  rw [Extent.of, String.ofList_toList]

theorem Position.offset_origin_after (cs : List Char) :
    (Position.origin.after cs).offset = (String.ofList cs).utf8ByteSize := by
  rw [Position.after_offset]
  exact Nat.zero_add _

/-- A span cuts a text at the boundaries of characters: into what stands before it, the
piece that it covers, and what stands after it. -/
structure Span.Cuts (s : Span) (source before piece after : String) : Prop where
  source_eq : source = before ++ piece ++ after
  start_eq : s.start = before.utf8ByteSize
  stop_eq : s.stop = (before ++ piece).utf8ByteSize

/-- A piece of a text is cut out by the span from its first byte to behind its last. -/
theorem Span.cuts_of_append {s : Span} {source : String} {before piece after : List Char}
    (h : source.toList = before ++ piece ++ after)
    (hstart : s.start = (Position.origin.after before).offset)
    (hstop : s.stop = (Position.origin.after (before ++ piece)).offset) :
    s.Cuts source (.ofList before) (.ofList piece) (.ofList after) := by
  refine ⟨?_, ?_, ?_⟩
  · rw [← String.ofList_append, ← String.ofList_append, ← h, String.ofList_toList]
  · rw [hstart, Position.offset_origin_after]
  · rw [hstop, Position.offset_origin_after, String.ofList_append]

theorem Span.Cuts.stop_le {s : Span} {source before piece after : String}
    (h : s.Cuts source before piece after) : s.stop ≤ source.utf8ByteSize := by
  rw [h.stop_eq, h.source_eq, String.utf8ByteSize_append (t := after)]
  exact Nat.le_add_right _ _

/-- A span of more than nothing is not empty. -/
theorem Span.Cuts.start_lt_stop {s : Span} {source before piece after : String}
    (h : s.Cuts source before piece after) (hne : piece ≠ "") : s.start < s.stop := by
  have hpos : piece.utf8ByteSize ≠ 0 := mt String.utf8ByteSize_eq_zero_iff.1 hne
  rw [h.start_eq, h.stop_eq, String.utf8ByteSize_append]
  omega

-- ---------------------------------------------------------------------------
-- Texts and derivations
-- ---------------------------------------------------------------------------

/-- The tokens of a stretch are all read: none of them is an end mark. -/
theorem body_splits {behind cs : List Char} {p q : Position} {ts : List Token}
    (h : Token.Splits behind p cs ts) : Expr.body (ts ++ [Token.endMark q.line q.offset]) = ts :=
  body_append_marked (fun _ ht => h.ne_endOfInput ht) rfl []

/-- A text stands for an expression exactly when it splits into tokens that derive it. -/
theorem ofSource_eq_ok_iff {source : String} {e : Expr} :
    Expr.ofSource source = .ok e ↔
      ∃ ts, Token.Splits [] .origin source.toList ts ∧ Derives .expression ts e := by
  constructor
  · intro h
    rw [Expr.ofSource] at h
    cases hscan : Token.scan source with
    | error _ => rw [hscan] at h; cases h
    | ok tokens =>
      rw [hscan] at h
      obtain ⟨ts, hts, rfl⟩ := Token.scanFrom_eq_ok_iff.1 hscan
      have hd := parse_eq_ok_iff.1 (show Expr.parse _ = .ok e from h)
      rw [body_splits hts] at hd
      exact ⟨ts, hts, hd⟩
  · rintro ⟨ts, hts, hd⟩
    have hscan : Token.scan source = .ok _ := Token.scanFrom_eq_ok_iff.2 ⟨ts, hts, rfl⟩
    rw [Expr.ofSource, hscan]
    show Expr.parse _ = .ok e
    rw [parse_eq_ok_iff, body_splits hts]
    exact hd

end Reckoner
