import Reckoner.Proofs.Grammar.Writing
import Reckoner.Proofs.Source.Coverage

/-!
# Reckoner — every token is the longest one

The token language is said without the scanner (`Lexeme.OfKind`), and so is the literal
that a lexeme stands for (`Lexeme.Denotes`). What the scanner makes of a text is fixed by
the two: from where a token starts, its lexeme is the longest front of the text that is in
the language, and its kind and its literal are those of the lexeme.

Main results:

* `Lexeme.cut_longest` — what is cut off a text is its longest front that is a lexeme;
* `Token.Faithful.denotes` — a token that was read from a text carries what it denotes;
* `scan_longest` — every token of a text is the longest one, of the kind of its lexeme, and
  carries what that denotes.
-/

namespace Reckoner

open Lexeme

namespace Lexeme

-- ---------------------------------------------------------------------------
-- The longest front
-- ---------------------------------------------------------------------------

/-- The longest front of a text that is a lexeme, and its kind. -/
structure Longest (text : List Char) (k : TokenKind) (l : List Char) : Prop where
  front : l <+: text
  ofKind : OfKind k l
  longest : ∀ k' w, OfKind k' w → w <+: text → w.length ≤ l.length

/-- What is cut off a text is its longest front that is a lexeme. -/
theorem cut_longest {c : Char} {rest tail : List Char} {k : TokenKind}
    (h : cut c rest = .ok (k, tail)) : Longest (c :: rest) k (c :: tail) := by
  obtain ⟨htail, hk, hlongest⟩ := cut_eq_ok_iff.1 h
  refine ⟨(List.prefix_cons_inj c).2 htail, hk, fun k' w hw hfront => ?_⟩
  -- a lexeme at the front starts with the same character
  obtain ⟨d, w', rfl⟩ := hw.exists_cons
  obtain ⟨rfl, hw'⟩ := List.cons_prefix_cons.1 hfront
  exact Nat.succ_le_succ (hlongest k' w' hw hw')

-- ---------------------------------------------------------------------------
-- Literals
-- ---------------------------------------------------------------------------

/-- The literal that a lexeme of a kind stands for: a number for its digits, a string for
what is between its quotes, just as it is written, and for all else none. -/
inductive Denotes : TokenKind → String → Option Literal → Prop
  | number {w : String} {x : Float} (hx : Number.ofText? w = some x) :
      Denotes .number w (some (.number x))
  | string (s : String) : Denotes .string ("\"" ++ s ++ "\"") (some (.string s))
  | none {k : TokenKind} (hnumber : k ≠ .number) (hstring : k ≠ .string) (w : String) :
      Denotes k w none

/-- A string is something in quotes. -/
theorem OfKind.exists_quoted {w : String} (h : OfKind .string w.toList) :
    ∃ s, w = "\"" ++ s ++ "\"" := by
  obtain ⟨c, tail, hchars⟩ := h.exists_cons
  rw [hchars] at h
  obtain rfl := h.head_string
  obtain ⟨v, -, rfl⟩ := h.quoted
  refine ⟨.ofList v, String.toList_inj.1 ?_⟩
  rw [hchars]
  simp only [String.toList_append, String.toList_ofList]
  rfl

end Lexeme

/-- A token that was read from a text carries what its lexeme denotes. -/
theorem Token.Faithful.denotes {t : Token} (h : t.Faithful) :
    Denotes t.kind t.lexeme t.literal := by
  have hk := h.ofKind
  have hliteral := h.literal_eq
  by_cases hnumber : t.kind = .number
  · rw [hnumber] at hk hliteral ⊢
    obtain ⟨x, hx, hx'⟩ := Number.literal_number (Number.Written.of_ofKind hk)
    rw [hliteral, hx']
    exact .number hx
  · by_cases hstring : t.kind = .string
    · rw [hstring] at hk hliteral ⊢
      obtain ⟨s, hs⟩ := hk.exists_quoted
      rw [hliteral, hs, literal_quoted]
      exact .string s
    · have hnone : Lexeme.literal t.kind t.lexeme.toList = none := by
        unfold Lexeme.literal
        split
        · next hkind => exact absurd hkind hnumber
        · next hkind => exact absurd hkind hstring
        · rfl
      rw [hliteral, hnone]
      exact .none hnumber hstring _

-- ---------------------------------------------------------------------------
-- Whole texts
-- ---------------------------------------------------------------------------

/-- **Every token is the longest one.** A token of a text, the end mark aside, has a span
that cuts its lexeme out of the text, and the lexeme is the longest front of the text from
there on that is in the token language: a symbol, an operator with or without an equals
sign, digits with or without a point and more digits, a string up to the next quote, or a
name. The token's kind is that of its lexeme, so that it is a keyword exactly when the whole
lexeme is written as one; and its literal is what the lexeme denotes. -/
theorem scan_longest {source : String} {tokens : List Token} {t : Token}
    (h : Token.scan source = .ok tokens) (ht : t ∈ tokens) (hk : t.kind ≠ .endOfInput) :
    ∃ before after, t.span.Cuts source before t.lexeme after ∧
      Longest (t.lexeme ++ after).toList t.kind t.lexeme.toList ∧
      (∀ k : Keyword, t.kind = .keyword k ↔ t.lexeme = k.word) ∧
      Denotes t.kind t.lexeme t.literal := by
  obtain ⟨ts, hts, rfl⟩ := Token.scanFrom_eq_ok_iff.1 h
  have hmem : t ∈ ts := by
    rcases List.mem_append.1 ht with hmem | hmem
    · exact hmem
    · obtain rfl := List.mem_singleton.1 hmem
      exact absurd rfl hk
  have hfaithful := hts.faithful t hmem
  obtain ⟨before, c, tail, after, k, hsource, hcut, rfl⟩ := hts.exists_cut hmem
  have htext : source.toList = before ++ c :: tail ++ after := by
    rw [hsource, List.append_assoc, List.cons_append]
  refine ⟨_, _, Span.cuts_of_append htext rfl rfl, ?_, hfaithful.ofKind.keyword_iff,
    hfaithful.denotes⟩
  rw [List.append_nil] at hcut
  simp only [Token.ofLexeme, String.toList_append, String.toList_ofList]
  exact cut_longest hcut

/-- `"\"nil_!==`: there is no escape in the string, a keyword may start a name, and the
first equals sign goes to the operator before it. -/
theorem scan_longest_unescaped :
    let string : Token := ⟨.string, "\"\\\"", some (.string "\\"), 1, ⟨0, 3⟩⟩
    let name : Token := ⟨.identifier, "nil_", none, 1, ⟨3, 7⟩⟩
    let operator : Token := ⟨.bangEqual, "!=", none, 1, ⟨7, 9⟩⟩
    let tokens := [string, name, operator, ⟨.equal, "=", none, 1, ⟨9, 10⟩⟩, Token.endMark 1 10]
    Token.scan "\"\\\"nil_!==" = .ok tokens ∧
      name ∈ tokens ∧ name.kind ≠ .endOfInput ∧
      ∃ before after, name.span.Cuts "\"\\\"nil_!==" before "nil_" after ∧
        Longest ("nil_" ++ after).toList .identifier "nil_".toList ∧
        (∀ k : Keyword, TokenKind.identifier = .keyword k ↔ "nil_" = k.word) ∧
        Denotes .identifier "nil_" none := by
  intro string name operator tokens
  have hsplits : Token.Splits [] .origin "\"\\\"nil_!==".toList tokens.dropLast :=
    @Token.Splits.token _ _ _ ['\\', '"'] _ _ _ rfl rfl <|
      @Token.Splits.token _ _ _ ['i', 'l', '_'] _ _ _ rfl rfl <|
      @Token.Splits.token _ _ _ ['='] _ _ _ rfl rfl <|
      @Token.Splits.token _ _ _ [] _ _ _ rfl rfl <| .done _
  have hscan : Token.scan "\"\\\"nil_!==" = .ok tokens :=
    Token.scanFrom_eq_ok_iff.2 ⟨_, hsplits, rfl⟩
  have hmem : name ∈ tokens := List.mem_cons_of_mem _ (List.mem_cons_self ..)
  have hk : name.kind ≠ .endOfInput := by decide
  exact ⟨hscan, hmem, hk, scan_longest hscan hmem hk⟩

end Reckoner
