import Mathlib.Data.List.Forall2
import Mathlib.Data.List.Nodup
import Reckoner.CommandLine.Run
import Reckoner.Proofs.Scanning.Words

/-!
# Reckoner — the listing of tokens is unambiguous

`tokens` prints each token of a text on lines of its own, with nothing escaped: a string may hold
what looks like the end of its own entry, or like the entry of another token. The listing can
still be read from left to right. The name of a kind ends with the first space. What kind it is
says where the lexeme ends: that of a string with its second quote, and any other with the first
backquote (`Delimited`). The literal is fixed by kind and lexeme, and need not be found. The line
is written in digits, which end with the first bracket.

Main results:

* `Token.scan_listed` — the tokens of a text can be listed so;
* `Token.Listed.append_inj` — the entry of a token is told apart from whatever stands behind it;
* `CommandLine.listing_unambiguous` — two texts have the same listing only if their tokens agree.
-/

namespace Reckoner

open Lexeme

-- ---------------------------------------------------------------------------
-- Parts of an entry
-- ---------------------------------------------------------------------------

/-- A text that ends before the first of some character is told apart from what stands behind. -/
theorem eq_of_append_cons {a : Char} {x y r s : List Char} (hx : a ∉ x) (hy : a ∉ y)
    (h : x ++ a :: r = y ++ a :: s) : x = y ∧ r = s := by
  have htake {z : List Char} (hz : a ∉ z) (t : List Char) :
      (z ++ a :: t).takeWhile (· ≠ a) = z := by
    have hne : ∀ b ∈ z, decide (b ≠ a) = true := by
      rintro b hb
      rw [decide_eq_true_eq]
      rintro rfl
      exact hz hb
    rw [List.takeWhile_append_of_pos hne, List.takeWhile_cons_of_neg (by simp), List.append_nil]
  obtain rfl : x = y := by rw [← htake hx r, h, htake hy]
  exact ⟨rfl, (List.cons.inj (List.append_cancel_left h)).2⟩

/-- All kinds of token. -/
def TokenKind.all : List TokenKind :=
  [.identifier, .number, .string, .keyword .and, .keyword .or, .keyword .true, .keyword .false,
    .keyword .nil, .leftParen, .rightParen, .leftBracket, .rightBracket, .comma, .dot, .semicolon,
    .plus, .minus, .star, .slash, .bang, .bangEqual, .equal, .equalEqual, .greater, .greaterEqual,
    .less, .lessEqual, .endOfInput]

theorem TokenKind.mem_all (k : TokenKind) : k ∈ all := by
  cases k with
  | keyword word => cases word <;> decide
  | _ => decide

/-- Kinds are named apart. -/
theorem TokenKind.label_injective : Function.Injective label := by
  intro k k' h
  have hnodup : (all.map label).Nodup := by decide
  exact List.inj_on_of_nodup_map hnodup k.mem_all k'.mem_all h

/-- The name of a kind is one word. -/
theorem TokenKind.space_notMem_label (k : TokenKind) : ' ' ∉ k.label.toList := by
  have hall : ∀ k ∈ all, ' ' ∉ k.label.toList := by decide
  exact hall k k.mem_all

/-- A number is written in digits. -/
theorem bracket_notMem_repr (n : Nat) : ')' ∉ n.repr.toList := by
  rw [Nat.toList_repr]
  intro hmem
  have hdigit := Nat.isDigit_of_mem_toDigits (by decide) (by decide) hmem
  exact absurd hdigit (by decide)

namespace Lexeme

/-- Where the lexeme of a kind ends in a listing: a string with its second quote, and any other
with the first backquote. -/
inductive Delimited : TokenKind → List Char → Prop
  | string {w : List Char} (hw : '"' ∉ w) : Delimited .string ('"' :: (w ++ ['"']))
  | plain {k : TokenKind} {l : List Char} (hk : k ≠ .string) (hl : '`' ∉ l) : Delimited k l

theorem endsLexeme_backquote : EndsLexeme '`' := ⟨by decide, by decide, by decide⟩

/-- Every lexeme ends where its kind says, as no backquote is part of one but in a string. -/
theorem OfKind.delimited {k : TokenKind} {l : List Char} (h : OfKind k l) : Delimited k l := by
  obtain ⟨c, tail, rfl⟩ := h.exists_cons
  by_cases hc : c = '"'
  · subst hc
    obtain ⟨w, hw, rfl⟩ := h.quoted
    rw [h.unique (.string hw)]
    exact .string fun hmem => hw _ hmem rfl
  · have hk : k ≠ .string := by
      rintro rfl
      exact hc h.head_string
    have hhead : '`' ≠ c := by
      rintro rfl
      cases h with
      | symbol hc | alone hc | joined hc => nomatch hc
      | name hc | whole hc | decimal hc => exact absurd hc (by decide)
    have htail := h.not_mem_of_endsLexeme hc endsLexeme_backquote
    exact .plain hk (List.not_mem_cons_of_ne_of_not_mem hhead htail)

/-- The lexeme of a kind is told apart from what stands behind the backquote that closes it. -/
theorem Delimited.append_inj {k : TokenKind} {v w r s : List Char} (hv : Delimited k v)
    (hw : Delimited k w) (h : v ++ '`' :: r = w ++ '`' :: s) : v = w ∧ r = s := by
  cases hv with
  | string hv =>
    cases hw with
    | string hw =>
      rw [List.cons_append, List.cons_append, List.append_assoc, List.append_assoc] at h
      obtain ⟨rfl, hrest⟩ := eq_of_append_cons hv hw (List.cons.inj h).2
      exact ⟨rfl, (List.cons.inj hrest).2⟩
    | plain hk => exact absurd rfl hk
  | plain hk hv =>
    cases hw with
    | string => exact absurd rfl hk
    | plain _ hw => exact eq_of_append_cons hv hw h

end Lexeme

-- ---------------------------------------------------------------------------
-- Entries
-- ---------------------------------------------------------------------------

namespace Token

/-- Tokens that differ at most in where they stand on their line. -/
structure Alike (t u : Token) : Prop where
  kind : t.kind = u.kind
  lexeme : t.lexeme = u.lexeme
  literal : t.literal = u.literal
  line : t.line = u.line

/-- Tokens that are alike are printed alike. -/
theorem Alike.text_eq {t u : Token} (h : t.Alike u) : t.text = u.text := by
  unfold text
  rw [h.kind, h.lexeme, h.literal, h.line]

/-- A token whose entry in a listing can be read back. -/
structure Listed (t : Token) : Prop where
  delimited : Delimited t.kind t.lexeme.toList
  literal_eq : t.literal = Lexeme.literal t.kind t.lexeme.toList

/-- A token of a text can be listed. -/
theorem Faithful.listed {t : Token} (h : t.Faithful) : t.Listed :=
  ⟨h.ofKind.delimited, h.literal_eq⟩

theorem listed_endMark (line offset : Nat) : (endMark line offset).Listed where
  delimited := .plain nofun List.not_mem_nil
  literal_eq := rfl

/-- The tokens of a text, its end mark included. -/
theorem scan_listed {source : String} {ts : List Token} (h : scan source = .ok ts) :
    ∀ t ∈ ts, t.Listed := by
  obtain ⟨us, hus, rfl⟩ := scanFrom_eq_ok_iff.1 h
  refine List.forall_mem_append.2 ⟨fun t ht => (hus.faithful t ht).listed, ?_⟩
  exact List.forall_mem_singleton.2 (listed_endMark ..)

/-- An entry, part by part. -/
theorem toList_text (t : Token) :
    t.text.toList = t.kind.label.toList ++ ' ' :: '`' :: (t.lexeme.toList ++ '`' ::
      ((t.literal.elim "" (" = " ++ ·.text)).toList ++
        (" (line ".toList ++ (t.line.repr.toList ++ [')'])))) := by
  unfold text
  simp only [String.toList_append, List.append_assoc]
  rfl

/-- The entry of a token is told apart from whatever stands behind it. -/
theorem Listed.append_inj {t u : Token} (ht : t.Listed) (hu : u.Listed) {r s : List Char}
    (h : t.text.toList ++ r = u.text.toList ++ s) : t.Alike u ∧ r = s := by
  simp only [toList_text, List.append_assoc, List.cons_append] at h
  obtain ⟨hlabel, h₁⟩ :=
    eq_of_append_cons t.kind.space_notMem_label u.kind.space_notMem_label h
  have hkind : t.kind = u.kind := TokenKind.label_injective (String.toList_inj.1 hlabel)
  obtain ⟨hchars, h₂⟩ :=
    ht.delimited.append_inj (hkind ▸ hu.delimited) (List.cons.inj h₁).2
  have hlexeme : t.lexeme = u.lexeme := String.toList_inj.1 hchars
  have hliteral : t.literal = u.literal := by
    rw [ht.literal_eq, hu.literal_eq, hkind, hlexeme]
  rw [hliteral] at h₂
  obtain ⟨hdigits, h₃⟩ := eq_of_append_cons (bracket_notMem_repr t.line)
    (bracket_notMem_repr u.line) (List.append_cancel_left (List.append_cancel_left h₂))
  have hline : t.line = u.line := by
    rw [Nat.toList_repr, Nat.toList_repr] at hdigits
    rw [← Nat.ofDigitChars_ten_toDigits (n := t.line), hdigits, Nat.ofDigitChars_ten_toDigits]
  exact ⟨⟨hkind, hlexeme, hliteral, hline⟩, h₃⟩

end Token

-- ---------------------------------------------------------------------------
-- Listings
-- ---------------------------------------------------------------------------

/-- The entries of tokens, one behind the other. -/
def listing (ts : List Token) : String := String.join (ts.map (·.text ++ "\n"))

theorem toList_listing_cons (t : Token) (ts : List Token) :
    (listing (t :: ts)).toList = t.text.toList ++ '\n' :: (listing ts).toList := by
  unfold listing
  rw [List.map_cons, String.join_cons, String.toList_append, String.toList_append,
    List.append_assoc]
  rfl

/-- Tokens that are alike are listed alike. -/
theorem listing_eq_of_alike {ts us : List Token} (h : List.Forall₂ Token.Alike ts us) :
    listing ts = listing us := by
  induction h with
  | nil => rfl
  | cons hhead _ ih =>
    refine String.toList_inj.1 ?_
    rw [toList_listing_cons, toList_listing_cons, hhead.text_eq, ih]

/-- A listing is read back entry by entry. -/
theorem alike_of_listing_eq {ts us : List Token} (hts : ∀ t ∈ ts, t.Listed)
    (hus : ∀ u ∈ us, u.Listed) (h : listing ts = listing us) :
    List.Forall₂ Token.Alike ts us := by
  have hnil (t : Token) (ts : List Token) : listing [] ≠ listing (t :: ts) := by
    intro heq
    have hchars := congrArg String.toList heq
    rw [toList_listing_cons] at hchars
    exact absurd hchars.symm (List.append_ne_nil_of_right_ne_nil _ (List.cons_ne_nil _ _))
  induction ts generalizing us with
  | nil =>
    cases us with
    | nil => exact .nil
    | cons u us => exact absurd h (hnil u us)
  | cons t ts ih =>
    cases us with
    | nil => exact absurd h.symm (hnil t ts)
    | cons u us =>
      obtain ⟨ht, hts⟩ := List.forall_mem_cons.1 hts
      obtain ⟨hu, hus⟩ := List.forall_mem_cons.1 hus
      have hchars := congrArg String.toList h
      rw [toList_listing_cons, toList_listing_cons] at hchars
      obtain ⟨halike, hrest⟩ := ht.append_inj hu hchars
      exact .cons halike (ih hts hus (String.toList_inj.1 (List.cons.inj hrest).2))

namespace CommandLine

/-- What `tokens` prints of a text that splits into tokens. -/
theorem stdout_tokens {args : List String} {inv : Invocation} {source : String} {ts : List Token}
    (hargs : Arguments.parse args = .ok (.invoke inv)) (htokens : inv.command = .tokens source)
    (hscan : Token.scan source = .ok ts) (filter : Log.Filter) (inputs : Inputs) :
    (run args filter inputs).output.stdout = listing ts := by
  rw [run, hargs]
  simp only [Invocation.perform, htokens, listTokens, hscan]
  exact String.empty_append

/-- **The listing of tokens is unambiguous.** What `tokens` prints of a text is the entries of its
tokens, each with a newline behind it. It prints the same of two texts exactly if these have as many
tokens, and each token of the one agrees with that of the other in kind, lexeme, literal and line,
whatever stands in their strings. -/
theorem listing_unambiguous {args args' : List String} {inv inv' : Invocation}
    {source source' : String} {ts us : List Token}
    (hargs : Arguments.parse args = .ok (.invoke inv)) (htokens : inv.command = .tokens source)
    (hargs' : Arguments.parse args' = .ok (.invoke inv'))
    (htokens' : inv'.command = .tokens source') (hts : Token.scan source = .ok ts)
    (hus : Token.scan source' = .ok us) (filter filter' : Log.Filter) (inputs inputs' : Inputs) :
    (run args filter inputs).output.stdout = String.join (ts.map (·.text ++ "\n")) ∧
    ((run args filter inputs).output.stdout = (run args' filter' inputs').output.stdout ↔
      ts.length = us.length ∧ List.Forall₂ Token.Alike ts us) := by
  have hstdout := stdout_tokens hargs htokens hts filter inputs
  refine ⟨hstdout, ?_⟩
  rw [hstdout, stdout_tokens hargs' htokens' hus]
  constructor
  · intro h
    have halike := alike_of_listing_eq (Token.scan_listed hts) (Token.scan_listed hus) h
    exact ⟨halike.length_eq, halike⟩
  · rintro ⟨-, halike⟩
    exact listing_eq_of_alike halike

/-- A string that looks like the end of its own entry. A space behind it makes no difference, and
another newline does. -/
theorem listing_unambiguous_imitated :
    let tokens (line offset : Nat) : List Token :=
      [⟨.string, "\"` (line 1)\n\"", some (.string "` (line 1)\n"), 1, ⟨0, 13⟩⟩,
        ⟨.semicolon, ";", none, line, ⟨offset, offset + 1⟩⟩, .endMark line (offset + 1)]
    let plain := "\"` (line 1)\n\";"
    let spaced := "\"` (line 1)\n\" ;"
    let broken := "\"` (line 1)\n\"\n;"
    Token.scan plain = .ok (tokens 2 13) ∧ Token.scan spaced = .ok (tokens 2 14) ∧
      Token.scan broken = .ok (tokens 3 14) ∧
      ∀ inputs : Inputs,
        (run ["tokens", plain] [] inputs).output.stdout =
          (run ["--bare", "tokens", spaced] [] inputs).output.stdout ∧
        (run ["tokens", plain] [] inputs).output.stdout ≠
          (run ["tokens", broken] [] inputs).output.stdout := by
  intro tokens plain spaced broken
  let tail : List Char := ['`', ' ', '(', 'l', 'i', 'n', 'e', ' ', '1', ')', '\n', '"']
  have hplain : Token.Splits [] .origin "\"` (line 1)\n\";".toList (tokens 2 13).dropLast :=
    @Token.Splits.token _ _ '"' tail [';'] _ _ rfl rfl <|
      @Token.Splits.token _ _ ';' [] [] _ _ rfl rfl <| .done _
  have hspaced : Token.Splits [] .origin "\"` (line 1)\n\" ;".toList (tokens 2 14).dropLast :=
    @Token.Splits.token _ _ '"' tail [' ', ';'] _ _ rfl rfl <| .blank rfl <|
      @Token.Splits.token _ _ ';' [] [] _ _ rfl rfl <| .done _
  have hbroken : Token.Splits [] .origin "\"` (line 1)\n\"\n;".toList (tokens 3 14).dropLast :=
    @Token.Splits.token _ _ '"' tail ['\n', ';'] _ _ rfl rfl <| .blank rfl <|
      @Token.Splits.token _ _ ';' [] [] _ _ rfl rfl <| .done _
  have hscan : Token.scan "\"` (line 1)\n\";" = .ok (tokens 2 13) :=
    Token.scanFrom_eq_ok_iff.2 ⟨_, hplain, rfl⟩
  have hscan' : Token.scan "\"` (line 1)\n\" ;" = .ok (tokens 2 14) :=
    Token.scanFrom_eq_ok_iff.2 ⟨_, hspaced, rfl⟩
  have hscan'' : Token.scan "\"` (line 1)\n\"\n;" = .ok (tokens 3 14) :=
    Token.scanFrom_eq_ok_iff.2 ⟨_, hbroken, rfl⟩
  have hargs : Arguments.parse ["tokens", plain] = .ok (.invoke ⟨[], false, .tokens plain⟩) := by
    decide
  have hargs' : Arguments.parse ["--bare", "tokens", spaced] =
      .ok (.invoke ⟨[], true, .tokens spaced⟩) := by decide
  have hargs'' : Arguments.parse ["tokens", broken] =
      .ok (.invoke ⟨[], false, .tokens broken⟩) := by decide
  refine ⟨hscan, hscan', hscan'', fun inputs => ⟨?_, fun heq => ?_⟩⟩
  · refine (listing_unambiguous hargs rfl hargs' rfl hscan hscan' [] [] inputs inputs).2.2 ⟨rfl, ?_⟩
    exact .cons ⟨rfl, rfl, rfl, rfl⟩ (.cons ⟨rfl, rfl, rfl, rfl⟩ (.cons ⟨rfl, rfl, rfl, rfl⟩ .nil))
  · have halike :=
      ((listing_unambiguous hargs rfl hargs'' rfl hscan hscan'' [] [] inputs inputs).2.1 heq).2
    cases halike with
    | cons _ hrest =>
      cases hrest with
      | cons hsemicolon => exact absurd hsemicolon.line (by decide)

end CommandLine

end Reckoner
