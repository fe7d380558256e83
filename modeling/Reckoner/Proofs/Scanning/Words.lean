import Reckoner.Number.Decimal
import Reckoner.Proofs.Scanning.Stretch

/-!
# Reckoner — texts written word by word

Words with blanks between them split into tokens one by one, because a blank ends every
lexeme (`LaidOut.splits`). A token that was read from a text is **faithful**: its lexeme is
of its kind, and its literal is what the lexeme denotes.

A number is written as digits, with or without a point and more digits; what the scanner
makes of that is what the text stands for as a number (`literal_number`).
-/

namespace Reckoner

open Lexeme

/-- How a keyword is written. -/
def Keyword.word : Keyword → String
  | .and => "and"
  | .or => "or"
  | .true => "true"
  | .false => "false"
  | .nil => "nil"

theorem Keyword.ofName?_eq_some_iff {name : String} {k : Keyword} :
    Keyword.ofName? name = some k ↔ name = k.word := by
  constructor
  · intro h
    unfold ofName? at h
    split at h <;> cases h <;> rfl
  · rintro rfl
    cases k <;> rfl

-- ---------------------------------------------------------------------------
-- Lexemes by themselves
-- ---------------------------------------------------------------------------

namespace Lexeme

theorem OfKind.exists_cons {k : TokenKind} {l : List Char} (h : OfKind k l) :
    ∃ c tail, l = c :: tail := by
  cases h <;> exact ⟨_, _, rfl⟩

theorem isNamePart_of_isNameStart {c : Char} (h : isNameStart c) : isNamePart c := by
  simp only [isNameStart, isNamePart, Char.isAlphanum, Bool.or_eq_true] at h ⊢
  rcases h with h | h
  · exact .inl (.inl h)
  · exact .inr h

theorem not_isBlank_of_isNameStart {c : Char} (h : isNameStart c) : isBlank c = false := by
  have hpart := isNamePart_of_isNameStart h
  rw [← Bool.not_eq_true]
  exact fun hblank => not_isNamePart_of_isBlank hblank hpart

/-- No lexeme starts with a blank. -/
theorem OfKind.not_isBlank {k : TokenKind} {c : Char} {tail : List Char}
    (h : OfKind k (c :: tail)) : isBlank c = false := by
  cases h with
  | symbol hc | alone hc | joined hc => cases hc <;> rfl
  | name hc => exact not_isBlank_of_isNameStart hc
  | whole hc | decimal hc =>
    rw [← Bool.not_eq_true]
    exact fun hblank => not_isDigit_of_isBlank hblank hc
  | string => rfl

/-- A lexeme is cut off whole when nothing stands behind it. -/
theorem OfKind.cut_self {k : TokenKind} {c : Char} {tail : List Char}
    (h : OfKind k (c :: tail)) : cut c tail = .ok (k, tail) :=
  cut_eq_ok_iff.2 ⟨List.prefix_refl _, h, fun _ _ _ hw => hw.length_le⟩

/-- A lexeme has one kind. -/
theorem OfKind.unique {k k' : TokenKind} {l : List Char} (h : OfKind k l) (h' : OfKind k' l) :
    k = k' := by
  obtain ⟨c, tail, rfl⟩ := h.exists_cons
  have heq := h.cut_self.symm.trans h'.cut_self
  injection heq with heq
  exact congrArg Prod.fst heq

theorem nameKind_eq_keyword_iff {l : List Char} {k : Keyword} :
    nameKind l = .keyword k ↔ String.ofList l = k.word := by
  rw [← Keyword.ofName?_eq_some_iff]
  unfold nameKind
  cases Keyword.ofName? (String.ofList l) <;> simp

/-- A string starts with a quote. -/
theorem OfKind.head_string {c : Char} {tail : List Char} (h : OfKind .string (c :: tail)) :
    c = '"' := by
  generalize hk : TokenKind.string = k at h
  cases h with
  | symbol hc | alone hc | joined hc => cases hc <;> cases hk
  | name =>
    unfold nameKind at hk
    split at hk <;> cases hk
  | whole | decimal => cases hk
  | string => rfl

/-- What is written as a keyword is that keyword. -/
theorem ofKind_keyword (k : Keyword) : OfKind (.keyword k) k.word.toList := by
  have hword : String.ofList k.word.toList = k.word := String.ofList_toList
  rw [← nameKind_eq_keyword_iff.2 hword]
  cases k <;> exact .name rfl (List.all_eq_true.1 rfl)

/-- A lexeme is a keyword exactly when the whole of it is written as one. -/
theorem OfKind.keyword_iff {k : TokenKind} {w : String} (h : OfKind k w.toList) (word : Keyword) :
    k = .keyword word ↔ w = word.word := by
  constructor
  · intro hk
    generalize hl : w.toList = l at h
    cases h with
    | symbol hc | alone hc | joined hc => cases hc <;> cases hk
    | name =>
      rw [← nameKind_eq_keyword_iff.1 hk, ← hl, String.ofList_toList]
    | whole | decimal | string => cases hk
  · rintro rfl
    exact h.unique (ofKind_keyword word)

end Lexeme

-- ---------------------------------------------------------------------------
-- Faithful tokens
-- ---------------------------------------------------------------------------

namespace Token

/-- A token whose kind and literal are those of its lexeme. -/
structure Faithful (t : Token) : Prop where
  ofKind : OfKind t.kind t.lexeme.toList
  literal_eq : t.literal = Lexeme.literal t.kind t.lexeme.toList

/-- The tokens of a stretch are faithful. -/
theorem Splits.faithful {behind cs : List Char} {p : Position} {ts : List Token}
    (h : Splits behind p cs ts) : ∀ t ∈ ts, t.Faithful := by
  intro t ht
  obtain ⟨_, c, tail, _, k, -, hcut, rfl⟩ := h.exists_cut ht
  have hk := (cut_ofKind hcut).2
  refine ⟨?_, ?_⟩
  · rw [ofLexeme, String.toList_ofList]
    exact hk
  · rw [ofLexeme, String.toList_ofList]

-- ---------------------------------------------------------------------------
-- Words and blanks
-- ---------------------------------------------------------------------------

/-- A lexeme splits into one token. -/
theorem splits_word {k : TokenKind} {w : String} (h : OfKind k w.toList) (p : Position) :
    ∃ t, Splits [] p w.toList [t] ∧ t.lexeme = w := by
  obtain ⟨c, tail, hw⟩ := h.exists_cons
  rw [hw] at h
  have hsplits : Splits [] p (c :: (tail ++ [])) _ :=
    .token h.not_isBlank (by rw [List.append_nil, List.append_nil]; exact h.cut_self) (.done _)
  rw [List.append_nil, ← hw] at hsplits
  refine ⟨_, hsplits, ?_⟩
  exact String.ofList_toList

/-- Words in a row with blanks around them: maybe none in front of the first and behind
the last, and at least one between two. -/
inductive LaidOut : List String → String → Prop
  | none {gap : String} (hgap : ∀ c ∈ gap.toList, isBlank c) : LaidOut [] gap
  | cons {ws : List String} {front w gap rest : String} (hfront : ∀ c ∈ front.toList, isBlank c)
      (hgap : ∀ c ∈ gap.toList, isBlank c) (hsep : ws ≠ [] → gap ≠ "")
      (hrest : LaidOut ws rest) : LaidOut (w :: ws) (front ++ w ++ gap ++ rest)

/-- Blanks in front of a stretch leave its tokens as they are. -/
theorem Splits.blanks {behind cs gap : List Char} {p : Position} {ts : List Token}
    (hgap : ∀ c ∈ gap, isBlank c) (h : Splits behind (p.after gap) cs ts) :
    Splits behind p (gap ++ cs) ts := by
  induction gap generalizing p with
  | nil => exact h
  | cons c gap ih =>
    obtain ⟨hc, hgap⟩ := List.forall_mem_cons.1 hgap
    exact .blank hc (ih hgap h)

/-- A word ends where it is laid out to end. -/
theorem LaidOut.startsBlank {ws : List String} {gap rest : String} (hrest : LaidOut ws rest)
    (hgap : ∀ c ∈ gap.toList, isBlank c) (hsep : ws ≠ [] → gap ≠ "") :
    StartsBlank (gap.toList ++ rest.toList) := by
  intro b u hb
  cases hrest with
  | none hrest =>
    have hmem : b ∈ gap.toList ++ rest.toList := by rw [hb]; exact List.mem_cons_self ..
    rcases List.mem_append.1 hmem with hmem | hmem
    · exact hgap b hmem
    · exact hrest b hmem
  | cons =>
    cases hchars : gap.toList with
    | nil => exact absurd (String.toList_eq_nil_iff.1 hchars) (hsep (List.cons_ne_nil _ _))
    | cons c tail =>
      rw [hchars, List.cons_append] at hb
      obtain rfl := (List.cons.inj hb).1
      exact hgap c (by rw [hchars]; exact List.mem_cons_self ..)

/-- Words split into tokens with these lexemes, however they are laid out. -/
theorem LaidOut.splits {ws : List String} {text : String} (hlayout : LaidOut ws text)
    (h : ∀ w ∈ ws, ∃ k, OfKind k w.toList) (p : Position) :
    ∃ ts, Splits [] p text.toList ts ∧ ts.map Token.lexeme = ws := by
  induction hlayout generalizing p with
  | @none gap hgap =>
    have hblanks : Splits [] p (gap.toList ++ []) [] := .blanks hgap (.done _)
    rw [List.append_nil] at hblanks
    exact ⟨[], hblanks, rfl⟩
  | @cons ws front w gap rest hfront hgap hsep hrest ih =>
    obtain ⟨⟨k, hk⟩, hws⟩ := List.forall_mem_cons.1 h
    obtain ⟨t, ht, hlexeme⟩ := splits_word hk (p.after front.toList)
    obtain ⟨ts, hts, hlexemes⟩ :=
      ih hws (((p.after front.toList).after w.toList).after gap.toList)
    -- the blanks behind the word belong to the rest, and end the word
    have hword := ht.blankBehind (hrest.startsBlank hgap hsep)
    rw [← List.append_nil (gap.toList ++ rest.toList)] at hword
    refine ⟨t :: ts, ?_, by rw [List.map_cons, hlexeme, hlexemes]⟩
    rw [String.toList_append, String.toList_append, String.toList_append, List.append_assoc,
      List.append_assoc]
    exact (hword.append (hts.blanks hgap)).blanks hfront

/-- Words may be laid out with single spaces between them. -/
theorem laidOut_intercalate (ws : List String) : LaidOut ws (" ".intercalate ws) := by
  have hnone : ∀ c ∈ "".toList, isBlank c := List.all_eq_true.1 rfl
  have hspace : ∀ c ∈ " ".toList, isBlank c := List.all_eq_true.1 rfl
  induction ws with
  | nil => exact .none hnone
  | cons w ws ih =>
    cases ws with
    | nil =>
      have h := ih.cons (w := w) hnone hnone fun h => absurd rfl h
      simpa using h
    | cons w' ws =>
      have h := ih.cons (w := w) hnone hspace fun _ => by decide
      rw [String.empty_append] at h
      rwa [String.intercalate_cons_cons]

/-- Tokens that are read from words, one from each. -/
structure ReadFrom (ts : List Token) (ws : List String) : Prop where
  faithful : ∀ t ∈ ts, t.Faithful
  lexemes : ts.map Token.lexeme = ws

/-- Words with single spaces between them are read one by one. -/
theorem exists_readFrom (ws : List String) (h : ∀ w ∈ ws, ∃ k, OfKind k w.toList) :
    ∃ ts, Splits [] .origin (" ".intercalate ws).toList ts ∧ ReadFrom ts ws := by
  obtain ⟨ts, hts, hws⟩ := (laidOut_intercalate ws).splits h .origin
  exact ⟨ts, hts, hts.faithful, hws⟩

/-- The kind of a token that is read from a word is the kind of the word. -/
theorem Faithful.kind_eq {t : Token} {k : TokenKind} {w : String} (h : t.Faithful)
    (hw : t.lexeme = w) (hk : OfKind k w.toList) : t.kind = k := by
  have ht := h.ofKind
  rw [hw] at ht
  exact ht.unique hk

/-- The token that is read from one word. -/
theorem ReadFrom.single {ts : List Token} {w : String} {k : TokenKind} (h : ReadFrom ts [w])
    (hk : OfKind k w.toList) :
    ∃ t, ts = [t] ∧ t.kind = k ∧ t.lexeme = w ∧ t.literal = Lexeme.literal k w.toList := by
  obtain ⟨t, rfl, hlexeme⟩ := List.map_eq_singleton_iff.1 h.lexemes
  have ht := h.faithful t (List.mem_singleton.2 rfl)
  have hkind := ht.kind_eq hlexeme hk
  refine ⟨t, rfl, hkind, hlexeme, ?_⟩
  rw [ht.literal_eq, hkind, hlexeme]

/-- The tokens that are read from the words on both sides of one. -/
theorem ReadFrom.split {ts : List Token} {us vs : List String} {w : String} {k : TokenKind}
    (h : ReadFrom ts (us ++ w :: vs)) (hk : OfKind k w.toList) :
    ∃ ts₁ t ts₂, ts = ts₁ ++ t :: ts₂ ∧ t.kind = k ∧ ReadFrom ts₁ us ∧ ReadFrom ts₂ vs := by
  obtain ⟨ts₁, ts', rfl, hus, hws⟩ := List.map_eq_append_iff.1 h.lexemes
  obtain ⟨t, ts₂, rfl, hlexeme, hvs⟩ := List.map_eq_cons_iff.1 hws
  obtain ⟨h₁, h'⟩ := List.forall_mem_append.1 h.faithful
  obtain ⟨ht, h₂⟩ := List.forall_mem_cons.1 h'
  exact ⟨ts₁, t, ts₂, rfl, ht.kind_eq hlexeme hk, ⟨h₁, hus⟩, ⟨h₂, hvs⟩⟩

/-- The tokens that are read from a word and the words behind it. -/
theorem ReadFrom.cons {ts : List Token} {ws : List String} {w : String} {k : TokenKind}
    (h : ReadFrom ts (w :: ws)) (hk : OfKind k w.toList) :
    ∃ t rest, ts = t :: rest ∧ t.kind = k ∧ ReadFrom rest ws := by
  rw [← List.nil_append (w :: ws)] at h
  obtain ⟨ts₁, t, rest, rfl, ht, h₁, hrest⟩ := h.split hk
  obtain rfl := List.map_eq_nil_iff.1 h₁.lexemes
  exact ⟨t, rest, rfl, ht, hrest⟩

/-- The tokens that are read from words and a word behind them. -/
theorem ReadFrom.concat {ts : List Token} {ws : List String} {w : String} {k : TokenKind}
    (h : ReadFrom ts (ws ++ [w])) (hk : OfKind k w.toList) :
    ∃ front t, ts = front ++ [t] ∧ t.kind = k ∧ ReadFrom front ws := by
  obtain ⟨front, t, ts₂, rfl, ht, hfront, h₂⟩ := h.split hk
  obtain rfl := List.map_eq_nil_iff.1 h₂.lexemes
  exact ⟨front, t, rfl, ht, hfront⟩

end Token

-- ---------------------------------------------------------------------------
-- Numbers
-- ---------------------------------------------------------------------------

namespace Number

/-- How numbers are written: digits, and maybe a point and more digits. -/
inductive Written : List Char → Prop
  | whole {c : Char} {w : List Char} (hc : c.isDigit) (hw : ∀ d ∈ w, d.isDigit) : Written (c :: w)
  | decimal {c d : Char} {w f : List Char} (hc : c.isDigit) (hw : ∀ d ∈ w, d.isDigit)
      (hd : d.isDigit) (hf : ∀ d ∈ f, d.isDigit) : Written (c :: (w ++ '.' :: d :: f))

theorem Written.ofKind {w : List Char} (h : Written w) : OfKind .number w := by
  cases h with
  | whole hc hw => exact .whole hc hw
  | decimal hc hw hd hf => exact .decimal hc hw hd hf

/-- What is a number to the scanner is written as one. -/
theorem Written.of_ofKind {w : List Char} (h : OfKind .number w) : Written w := by
  generalize hk : TokenKind.number = k at h
  cases h with
  | symbol hc | alone hc | joined hc => cases hc <;> cases hk
  | name =>
    unfold nameKind at hk
    split at hk <;> cases hk
  | whole hc hw => exact .whole hc hw
  | decimal hc hw hd hf => exact .decimal hc hw hd hf
  | string => cases hk

theorem splitSign_digit {c : Char} (hc : c.isDigit) (cs : List Char) :
    splitSign (c :: cs) = (false, c :: cs) := by
  unfold splitSign
  split
  · next h =>
    cases h
    exact absurd hc (by decide)
  · next h =>
    cases h
    exact absurd hc (by decide)
  · rfl

/-- What starts with a digit is no word for a number. -/
theorem word?_digit {c : Char} (hc : c.isDigit) (negative : Bool) (cs : List Char) :
    word? negative (c :: cs) = none := by
  have hlower : c.toLower = c := by
    simp only [Char.isDigit, Bool.and_eq_true, decide_eq_true_eq] at hc
    unfold Char.toLower
    rw [dif_neg]
    rintro ⟨hA, -⟩
    exact absurd (UInt32.le_trans hA hc.2) (by decide)
  have hne {d : Char} {ds : List Char} {text : String} (htext : text.toList = d :: ds)
      (hd : d.isDigit = false) : String.ofList ((c :: cs).map Char.toLower) ≠ text := by
    rintro rfl
    rw [String.toList_ofList, List.map_cons, hlower] at htext
    cases htext
    exact absurd hc (by rw [hd]; decide)
  unfold word?
  split
  · next h => exact absurd h (hne rfl rfl)
  · next h => exact absurd h (hne rfl rfl)
  · next h => exact absurd h (hne rfl rfl)
  · rfl

theorem splitDigits_whole {w : List Char} (hw : ∀ d ∈ w, d.isDigit) : splitDigits w = (w, []) := by
  unfold splitDigits
  rw [List.takeWhile_eq_self_iff.2 hw, List.dropWhile_eq_nil_iff.2 hw]

theorem splitDigits_point {w : List Char} (hw : ∀ d ∈ w, d.isDigit) (cs : List Char) :
    splitDigits (w ++ '.' :: cs) = (w, '.' :: cs) := by
  unfold splitDigits
  rw [List.takeWhile_append_of_pos hw, List.takeWhile_cons_of_neg (by decide), List.append_nil,
    List.dropWhile_append_of_pos hw, List.dropWhile_cons_of_neg (by decide)]

/-- A text that starts with a digit is read as a decimal without a sign. -/
theorem ofText?_digit {w : String} {c : Char} {cs : List Char} (hc : c.isDigit)
    (hw : w.toList = c :: cs) : ofText? w = decimal? false (c :: cs) := by
  unfold ofText?
  rw [hw, splitSign_digit hc]
  show (word? false (c :: cs) <|> decimal? false (c :: cs)) = _
  rw [word?_digit hc]
  rfl

theorem isDigit_cons {c : Char} {w : List Char} (hc : c.isDigit) (hw : ∀ d ∈ w, d.isDigit) :
    ∀ d ∈ c :: w, d.isDigit :=
  List.forall_mem_cons.2 ⟨hc, hw⟩

/-- Digits alone are read as a whole number. -/
theorem decimal?_whole {w : List Char} (hne : w ≠ []) (hw : ∀ d ∈ w, d.isDigit)
    (negative : Bool) : decimal? negative w = some (ofDigits negative w [] 0) := by
  unfold decimal?
  rw [splitDigits_whole hw]
  exact if_neg fun h => hne h.1

/-- Digits around a point are read as a whole part and a fraction. -/
theorem decimal?_point {w f : List Char} (hne : w ≠ []) (hw : ∀ d ∈ w, d.isDigit)
    (hf : ∀ d ∈ f, d.isDigit) (negative : Bool) :
    decimal? negative (w ++ '.' :: f) = some (ofDigits negative w f 0) := by
  unfold decimal?
  simp only [splitDigits_point hw, splitDigits_whole hf]
  exact if_neg fun h => hne h.1

/-- What the scanner makes of a number is what its text stands for. -/
theorem literal_number {w : String} (h : Written w.toList) :
    ∃ x, ofText? w = some x ∧ Lexeme.literal .number w.toList = some (.number x) := by
  generalize hl : w.toList = l at h
  unfold Lexeme.literal
  cases h with
  | @whole c v hc hv =>
    have hdigits := isDigit_cons hc hv
    rw [ofText?_digit hc hl, splitDigits_whole hdigits,
      decimal?_whole (List.cons_ne_nil c v) hdigits]
    exact ⟨_, rfl, rfl⟩
  | @decimal c d v f hc hv hd hf =>
    have hdigits := isDigit_cons hc hv
    rw [ofText?_digit hc hl, ← List.cons_append, splitDigits_point hdigits,
      decimal?_point (List.cons_ne_nil c v) hdigits (isDigit_cons hd hf)]
    exact ⟨_, rfl, rfl⟩

end Number

end Reckoner
