import Mathlib.Data.List.TakeWhile
import Reckoner.Token.Scan

/-!
# Reckoner — the lexemes

Which pieces of text are tokens, said without cutting them off (`OfKind`), and what is
cut off the front of a text: the longest piece that is a token. Whatever is known of a
cut follows from the second, and the look-ahead of the scanner does not come up again.

Main results:

* `cut_eq_ok_iff` — what is cut off is a lexeme, and no lexeme at the front is longer;
* `cut_shrink` — so a cut does not change when the text behind it is cut short;
* `cut_apart` — nor when what ends lexemes, as a blank does, and anything else is put behind it.
-/

namespace Reckoner.Lexeme

-- ---------------------------------------------------------------------------
-- The token language
-- ---------------------------------------------------------------------------

/-- The characters that are tokens on their own. -/
inductive Symbol : Char → TokenKind → Prop
  | leftParen : Symbol '(' .leftParen
  | rightParen : Symbol ')' .rightParen
  | leftBracket : Symbol '[' .leftBracket
  | rightBracket : Symbol ']' .rightBracket
  | comma : Symbol ',' .comma
  | dot : Symbol '.' .dot
  | semicolon : Symbol ';' .semicolon
  | plus : Symbol '+' .plus
  | minus : Symbol '-' .minus
  | star : Symbol '*' .star
  | slash : Symbol '/' .slash

/-- The characters that are tokens with an equals sign behind them, and without. -/
inductive Comparison : Char → TokenKind → TokenKind → Prop
  | bang : Comparison '!' .bangEqual .bang
  | equal : Comparison '=' .equalEqual .equal
  | less : Comparison '<' .lessEqual .less
  | greater : Comparison '>' .greaterEqual .greater

/-- The pieces of text that are tokens of a kind. -/
inductive OfKind : TokenKind → List Char → Prop
  | symbol {c : Char} {k : TokenKind} (hc : Symbol c k) : OfKind k [c]
  | alone {c : Char} {j k : TokenKind} (hc : Comparison c j k) : OfKind k [c]
  | joined {c : Char} {j k : TokenKind} (hc : Comparison c j k) : OfKind j [c, '=']
  | name {c : Char} {w : List Char} (hc : isNameStart c) (hw : ∀ d ∈ w, isNamePart d) :
      OfKind (nameKind (c :: w)) (c :: w)
  | whole {c : Char} {w : List Char} (hc : c.isDigit) (hw : ∀ d ∈ w, d.isDigit) :
      OfKind .number (c :: w)
  | decimal {c d : Char} {w f : List Char} (hc : c.isDigit) (hw : ∀ d ∈ w, d.isDigit)
      (hd : d.isDigit) (hf : ∀ d ∈ f, d.isDigit) : OfKind .number (c :: (w ++ '.' :: d :: f))
  | string {w : List Char} (hw : ∀ d ∈ w, d ≠ '"') : OfKind .string ('"' :: (w ++ ['"']))

-- ---------------------------------------------------------------------------
-- Cuts by the first character
-- ---------------------------------------------------------------------------

/-- A symbol is cut off on its own. -/
theorem cut_symbol {c : Char} {k : TokenKind} (h : Symbol c k) (rest : List Char) :
    cut c rest = .ok (k, []) := by
  cases h <;> rfl

/-- A comparison is cut off with the equals sign behind it, if there is one. -/
theorem cut_comparison {c : Char} {j k : TokenKind} (h : Comparison c j k) (rest : List Char) :
    cut c rest = .ok (withEqual j k rest) := by
  cases h <;> rfl

/-- A name is cut off up to the first character that cannot be part of it. -/
theorem cut_name {c : Char} (h : isNameStart c) (rest : List Char) :
    cut c rest = .ok (nameKind (c :: rest.takeWhile isNamePart), rest.takeWhile isNamePart) := by
  unfold cut
  split
  case h_17 => rw [if_pos h]
  all_goals exact absurd h (by decide)

/-- A number is cut off behind its first digit by `numberTail`. -/
theorem cut_digit {c : Char} (h : c.isDigit) (rest : List Char) :
    cut c rest = .ok (.number, numberTail rest) := by
  unfold cut
  split
  case h_17 =>
    have hname : ¬ isNameStart c := by
      intro hname
      change (decide ('0'.val ≤ c.val) && decide (c.val ≤ '9'.val)) = true at h
      change (decide ('A'.val ≤ c.val ∧ c.val ≤ 'Z'.val) ||
        (decide ('a'.val ≤ c.val) && decide (c.val ≤ 'z'.val)) || decide (c = '_')) = true at hname
      simp only [Bool.or_eq_true, Bool.and_eq_true, decide_eq_true_eq] at h hname
      rcases hname with (hname | hname) | rfl
      · exact absurd (UInt32.le_trans hname.1 h.2) (by decide)
      · exact absurd (UInt32.le_trans hname.1 h.2) (by decide)
      · exact absurd h.2 (by decide)
    rw [if_neg hname, if_pos h]
  all_goals exact absurd h (by decide)

/-- A string is cut off with the quotation mark that closes it. -/
theorem cut_quote {rest tail : List Char} (h : stringTail? rest = some tail) :
    cut '"' rest = .ok (.string, tail) := by
  unfold cut
  rw [h]
  rfl

/-- A cut that succeeds is one of these. -/
theorem cut_cases {c : Char} {rest tail : List Char} {k : TokenKind}
    (h : cut c rest = .ok (k, tail)) :
    (Symbol c k ∧ tail = []) ∨ (∃ j l, Comparison c j l ∧ withEqual j l rest = (k, tail)) ∨
    (isNameStart c ∧ tail = rest.takeWhile isNamePart ∧ k = nameKind (c :: tail)) ∨
    (c.isDigit ∧ k = .number ∧ tail = numberTail rest) ∨
    (c = '"' ∧ k = .string ∧ stringTail? rest = some tail) := by
  unfold cut at h
  split at h
  case h_12 | h_13 | h_14 | h_15 =>
    exact .inr (.inl ⟨_, _, by constructor, Except.ok.inj h⟩)
  case h_16 =>
    split at h
    · next tail' htail =>
      cases h
      exact .inr (.inr (.inr (.inr ⟨rfl, rfl, htail⟩)))
    · cases h
  case h_17 =>
    split at h
    · next hname =>
      cases h
      exact .inr (.inr (.inl ⟨hname, rfl, rfl⟩))
    · split at h
      · next hdigit =>
        cases h
        exact .inr (.inr (.inr (.inl ⟨hdigit, rfl, rfl⟩)))
      · cases h
  all_goals
    cases h
    exact .inl ⟨by constructor, rfl⟩

-- ---------------------------------------------------------------------------
-- Numbers and strings
-- ---------------------------------------------------------------------------

/-- The elements at the front that a test holds of are the longest such front. -/
theorem length_le_takeWhile {α : Type} {p : α → Bool} {w l : List α} (hw : ∀ a ∈ w, p a)
    (h : w <+: l) : w.length ≤ (l.takeWhile p).length := by
  obtain ⟨u, rfl⟩ := h
  rw [List.takeWhile_append_of_pos hw, List.length_append]
  exact Nat.le_add_right _ _

/-- What a number goes on with is a prefix of the text, and makes a number. -/
theorem numberTail_ofKind {c : Char} (hc : c.isDigit) (rest : List Char) :
    numberTail rest <+: rest ∧ OfKind .number (c :: numberTail rest) := by
  have hw : ∀ d ∈ rest.takeWhile Char.isDigit, d.isDigit := fun d hd => List.mem_takeWhile_imp hd
  have hwhole : rest.takeWhile Char.isDigit <+: rest ∧
      OfKind .number (c :: rest.takeWhile Char.isDigit) :=
    ⟨List.takeWhile_prefix _, .whole hc hw⟩
  unfold numberTail
  split
  · next d more hrest =>
    split
    · next hd =>
      refine ⟨⟨more.dropWhile Char.isDigit, ?_⟩,
        .decimal hc hw hd fun d hd => List.mem_takeWhile_imp hd⟩
      rw [List.append_assoc, List.cons_append, List.cons_append,
        List.takeWhile_append_dropWhile, ← hrest, List.takeWhile_append_dropWhile]
    · exact hwhole
  · exact hwhole

/-- Digits alone are a number too, but maybe not all of it. -/
theorem takeWhile_le_numberTail (rest : List Char) :
    (rest.takeWhile Char.isDigit).length ≤ (numberTail rest).length := by
  unfold numberTail
  split
  · split
    · rw [List.length_append]
      exact Nat.le_add_right _ _
    · exact Nat.le_refl _
  · exact Nat.le_refl _

/-- A point belongs to a number if there is a digit behind it. -/
theorem numberTail_decimal {d : Char} {w : List Char} (hw : ∀ d ∈ w, d.isDigit)
    (hd : d.isDigit) (more : List Char) :
    numberTail (w ++ '.' :: d :: more) = w ++ '.' :: d :: more.takeWhile Char.isDigit := by
  have htake : (w ++ '.' :: d :: more).takeWhile Char.isDigit = w := by
    rw [List.takeWhile_append_of_pos hw, List.takeWhile_cons_of_neg (by decide), List.append_nil]
  have hdrop : (w ++ '.' :: d :: more).dropWhile Char.isDigit = '.' :: d :: more := by
    rw [List.dropWhile_append_of_pos hw, List.dropWhile_cons_of_neg (by decide)]
  simp only [numberTail, htake, hdrop, hd, if_true]

/-- A string goes up to the next quotation mark. -/
theorem stringTail?_eq_some {rest tail : List Char} (h : stringTail? rest = some tail) :
    ∃ w u, (∀ d ∈ w, d ≠ '"') ∧ tail = w ++ ['"'] ∧ rest = w ++ '"' :: u := by
  simp only [stringTail?] at h
  split at h
  · next hlen =>
    cases h
    have hw : ∀ d ∈ rest.takeWhile (· ≠ '"'), d ≠ '"' := fun d hd => by
      simpa using List.mem_takeWhile_imp hd
    have hsplit := rest.takeWhile_append_dropWhile (p := (· ≠ '"'))
    cases hdrop : rest.dropWhile (· ≠ '"') with
    | nil =>
      rw [hdrop, List.append_nil] at hsplit
      rw [hsplit] at hlen
      exact absurd hlen (Nat.lt_irrefl _)
    | cons q u =>
      have hq := List.head?_dropWhile_not (· ≠ '"') rest
      rw [hdrop] at hq
      simp only [List.head?_cons, decide_not, Bool.not_eq_false', decide_eq_true_eq] at hq
      subst hq
      exact ⟨_, u, hw, rfl, by rw [← hdrop, hsplit]⟩
  · cases h

/-- What stands behind that makes no difference. -/
theorem stringTail?_closed {w : List Char} (hw : ∀ d ∈ w, d ≠ '"') (u : List Char) :
    stringTail? (w ++ '"' :: u) = some (w ++ ['"']) := by
  have htake : (w ++ '"' :: u).takeWhile (· ≠ '"') = w := by
    rw [List.takeWhile_append_of_pos (by simpa using hw), List.takeWhile_cons_of_neg (by decide),
      List.append_nil]
  simp only [stringTail?, htake, List.length_append, List.length_cons]
  rw [if_pos (by omega)]

-- ---------------------------------------------------------------------------
-- What is cut off
-- ---------------------------------------------------------------------------

/-- What is cut off is the front of the text, and a lexeme. -/
theorem cut_ofKind {c : Char} {rest tail : List Char} {k : TokenKind}
    (h : cut c rest = .ok (k, tail)) : tail <+: rest ∧ OfKind k (c :: tail) := by
  rcases cut_cases h with
    ⟨hc, rfl⟩ | ⟨j, l, hc, hw⟩ | ⟨hc, rfl, rfl⟩ | ⟨hc, rfl, rfl⟩ | ⟨rfl, rfl, hs⟩
  · exact ⟨List.nil_prefix, .symbol hc⟩
  · unfold withEqual at hw
    split at hw
    · cases hw
      exact ⟨⟨_, rfl⟩, .joined hc⟩
    · cases hw
      exact ⟨List.nil_prefix, .alone hc⟩
  · exact ⟨List.takeWhile_prefix _, .name hc fun d hd => List.mem_takeWhile_imp hd⟩
  · exact numberTail_ofKind hc rest
  · obtain ⟨w, u, hw, rfl, rfl⟩ := stringTail?_eq_some hs
    exact ⟨⟨u, by simp⟩, .string hw⟩

/-- Where a lexeme stands in front, a lexeme no shorter is cut off. -/
theorem cut_of_ofKind {c : Char} {rest w : List Char} {k : TokenKind}
    (h : OfKind k (c :: w)) (hw : w <+: rest) :
    ∃ k' tail, cut c rest = .ok (k', tail) ∧ w.length ≤ tail.length ∧ (tail = w → k' = k) := by
  cases h with
  | symbol hc => exact ⟨k, [], cut_symbol hc rest, Nat.le_refl _, fun _ => rfl⟩
  | @alone _ j _ hc =>
    refine ⟨_, _, cut_comparison hc rest, Nat.zero_le _, fun htail => ?_⟩
    split at htail
    · cases htail
    · rfl
  | @joined _ _ l hc =>
    obtain ⟨u, rfl⟩ := hw
    exact ⟨k, ['='], cut_comparison hc _, Nat.le_refl _, fun _ => rfl⟩
  | name hc hall =>
    exact ⟨_, _, cut_name hc rest, length_le_takeWhile hall hw, fun htail => by rw [htail]⟩
  | whole hc hall =>
    exact ⟨_, _, cut_digit hc rest,
      Nat.le_trans (length_le_takeWhile hall hw) (takeWhile_le_numberTail rest), fun _ => rfl⟩
  | @decimal _ d v f hc hv hd hf =>
    obtain ⟨u, rfl⟩ := hw
    refine ⟨_, _, cut_digit hc _, ?_, fun _ => rfl⟩
    rw [List.append_assoc, List.cons_append, List.cons_append, numberTail_decimal hv hd,
      List.takeWhile_append_of_pos hf]
    simp only [List.length_append, List.length_cons]
    omega
  | @string v hv =>
    obtain ⟨u, rfl⟩ := hw
    refine ⟨.string, v ++ ['"'], cut_quote ?_, Nat.le_refl _, fun _ => rfl⟩
    rw [List.append_assoc]
    exact stringTail?_closed hv u

/-- **The longest lexeme is cut off.** -/
theorem cut_eq_ok_iff {c : Char} {rest tail : List Char} {k : TokenKind} :
    cut c rest = .ok (k, tail) ↔
      tail <+: rest ∧ OfKind k (c :: tail) ∧
      ∀ k' w, OfKind k' (c :: w) → w <+: rest → w.length ≤ tail.length := by
  constructor
  · intro h
    obtain ⟨htail, hk⟩ := cut_ofKind h
    refine ⟨htail, hk, fun k' w hl hw => ?_⟩
    obtain ⟨k'', tail', h', hlen, -⟩ := cut_of_ofKind hl hw
    cases h.symm.trans h'
    exact hlen
  · rintro ⟨htail, hk, hlongest⟩
    obtain ⟨k', tail', h', hlen, hkind⟩ := cut_of_ofKind hk htail
    obtain ⟨htail', hk'⟩ := cut_ofKind h'
    -- two lexemes at the front, neither longer than the other
    have hlen' := hlongest k' tail' hk' htail'
    have htails := (List.prefix_of_prefix_length_le htail' htail hlen').eq_of_length
      (Nat.le_antisymm hlen' hlen)
    rw [h', hkind htails, htails]

/-- A cut does not change when the text behind it is cut short. -/
theorem cut_shrink {c : Char} {tail v w : List Char} {k : TokenKind}
    (h : cut c (tail ++ w) = .ok (k, tail)) (hv : v <+: w) :
    cut c (tail ++ v) = .ok (k, tail) := by
  obtain ⟨-, hk, hlongest⟩ := cut_eq_ok_iff.1 h
  refine cut_eq_ok_iff.2 ⟨List.prefix_append _ _, hk, fun k' l hl hpre => ?_⟩
  exact hlongest k' l hl (hpre.trans ((List.prefix_append_right_inj tail).2 hv))

-- ---------------------------------------------------------------------------
-- What ends lexemes
-- ---------------------------------------------------------------------------

/-- No blank is part of a name. -/
theorem not_isNamePart_of_isBlank {b : Char} (h : isBlank b) : ¬ isNamePart b := by
  simp only [isBlank, Bool.or_eq_true, decide_eq_true_eq] at h
  rcases h with ((rfl | rfl) | rfl) | rfl <;> decide

theorem not_isDigit_of_isBlank {b : Char} (h : isBlank b) : ¬ b.isDigit := by
  simp only [isBlank, Bool.or_eq_true, decide_eq_true_eq] at h
  rcases h with ((rfl | rfl) | rfl) | rfl <;> decide

/-- What starts with a quote ends with the next one. -/
theorem OfKind.quoted {k : TokenKind} {tail : List Char} (h : OfKind k ('"' :: tail)) :
    ∃ w, (∀ d ∈ w, d ≠ '"') ∧ tail = w ++ ['"'] := by
  cases h with
  | symbol hc | alone hc | joined hc => nomatch hc
  | name hc | whole hc | decimal hc => exact absurd hc (by decide)
  | string hw => exact ⟨_, hw, rfl⟩

/-- A character that no lexeme goes on with, but between quotes. -/
structure EndsLexeme (b : Char) : Prop where
  not_isNamePart : ¬ isNamePart b
  ne_equal : b ≠ '='
  ne_point : b ≠ '.'

/-- A blank ends every lexeme. -/
theorem endsLexeme_of_isBlank {b : Char} (h : isBlank b) : EndsLexeme b := by
  refine ⟨not_isNamePart_of_isBlank h, ?_, ?_⟩
  · rintro rfl
    exact absurd h (by decide)
  · rintro rfl
    exact absurd h (by decide)

theorem endsLexeme_leftParen : EndsLexeme '(' := ⟨by decide, by decide, by decide⟩

theorem endsLexeme_rightParen : EndsLexeme ')' := ⟨by decide, by decide, by decide⟩

theorem EndsLexeme.not_isDigit {b : Char} (h : EndsLexeme b) : ¬ b.isDigit := by
  intro hdigit
  refine h.not_isNamePart ?_
  rw [isNamePart, Char.isAlphanum, hdigit, Bool.or_true]
  rfl

/-- What ends lexemes stands in them between quotes only. -/
theorem OfKind.not_mem_of_endsLexeme {k : TokenKind} {c b : Char} {tail : List Char}
    (h : OfKind k (c :: tail)) (hc : c ≠ '"') (hb : EndsLexeme b) : b ∉ tail := by
  intro hmem
  cases h with
  | symbol | alone => exact absurd hmem List.not_mem_nil
  | joined => exact hb.ne_equal (List.mem_singleton.1 hmem)
  | name _ hw => exact hb.not_isNamePart (hw b hmem)
  | whole _ hw => exact hb.not_isDigit (hw b hmem)
  | decimal _ hw hd hf =>
    rcases List.mem_append.1 hmem with hmem | hmem
    · exact hb.not_isDigit (hw b hmem)
    · rcases List.mem_cons.1 hmem with rfl | hmem
      · exact hb.ne_point rfl
      · rcases List.mem_cons.1 hmem with rfl | hmem
        · exact hb.not_isDigit hd
        · exact hb.not_isDigit (hf b hmem)
  | string => exact hc rfl

/-- A string that starts with a lexeme is that lexeme: it ends with its second quote. -/
theorem OfKind.eq_of_quoted {k k' : TokenKind} {tail w : List Char} (h : OfKind k ('"' :: tail))
    (h' : OfKind k' ('"' :: w)) (hpre : tail <+: w) : tail = w := by
  obtain ⟨s, -, rfl⟩ := h.quoted
  obtain ⟨s', hs', rfl⟩ := h'.quoted
  refine hpre.eq_of_length (Nat.le_antisymm hpre.length_le ?_)
  by_contra hlt
  rw [List.length_append, List.length_append] at hlt
  have hinner : s ++ ['"'] <+: s' :=
    List.prefix_of_prefix_length_le hpre (List.prefix_append s' ['"']) (by
      rw [List.length_append]
      simp only [List.length_singleton] at hlt ⊢
      omega)
  exact hs' '"' (hinner.subset (by simp)) rfl

/-- A piece of text is empty or starts with a blank. -/
def StartsBlank (v : List Char) : Prop := ∀ b u, v = b :: u → isBlank b

/-- A piece of text is empty or starts with a character that ends lexemes. -/
def StartsApart (v : List Char) : Prop := ∀ b u, v = b :: u → EndsLexeme b

theorem StartsBlank.apart {v : List Char} (h : StartsBlank v) : StartsApart v :=
  fun b u hv => endsLexeme_of_isBlank (h b u hv)

theorem EndsLexeme.startsApart {b : Char} (h : EndsLexeme b) (u : List Char) :
    StartsApart (b :: u) := by
  rintro _ _ ⟨⟩
  exact h

/-- A cut does not change when what ends lexemes, and anything behind it, is put at the end of
the text. -/
theorem cut_apart {c : Char} {tail rest v : List Char} {k : TokenKind}
    (h : cut c (tail ++ rest) = .ok (k, tail)) (hv : StartsApart v) :
    cut c (tail ++ (rest ++ v)) = .ok (k, tail) := by
  obtain ⟨-, hk, hlongest⟩ := cut_eq_ok_iff.1 h
  refine cut_eq_ok_iff.2 ⟨List.prefix_append _ _, hk, fun k' w hl hpre => ?_⟩
  by_contra hlt
  rw [Nat.not_le] at hlt
  have htail : tail <+: w :=
    List.prefix_of_prefix_length_le (List.prefix_append _ _) hpre (Nat.le_of_lt hlt)
  have hnot : ¬ w <+: tail ++ rest := fun hw => Nat.not_le.2 hlt (hlongest k' w hl hw)
  by_cases hc : c = '"'
  · subst hc
    rw [hk.eq_of_quoted hl htail] at hlt
    exact Nat.lt_irrefl _ hlt
  · -- outside of quotes the longer lexeme would hold what ends it
    rw [← List.append_assoc] at hpre
    rcases List.prefix_or_prefix_of_prefix hpre (List.prefix_append (tail ++ rest) v) with hw | hw
    · exact hnot hw
    · obtain ⟨x, rfl⟩ := hw
      obtain ⟨y, rfl⟩ := (List.prefix_append_right_inj _).1 hpre
      cases x with
      | nil => exact hnot ⟨[], by simp⟩
      | cons b u => exact hl.not_mem_of_endsLexeme hc (hv b (u ++ y) rfl) (by simp)

end Reckoner.Lexeme
