import Mathlib.Algebra.Group.Nat.Even
import Reckoner.Proofs.Scanning.Words

/-!
# Reckoner — which texts are refused

Whether a text splits into tokens can be told from its characters and from its quotes,
without cutting off a single lexeme. A character stands **outside** of quotes when an even
number of quotes stand before it and it is none itself. A text splits exactly when its
quotes come in pairs and only ordinary characters stand outside of them; and else what is
said about it is about the first character outside that is not ordinary, or about the quote
that is left open.

Main results:

* `OfKind.settled` — a lexeme leaves no quote open, and is ordinary outside of its quotes;
* `scanFrom_verdict` — so the scanner gets past it, and stops at what is not;
* `scan_verdict` — which texts split, and what is said about the others.
-/

namespace Reckoner

namespace Lexeme

-- ---------------------------------------------------------------------------
-- Outside of quotes
-- ---------------------------------------------------------------------------

/-- The characters of symbols and operators. -/
def symbols : List Char :=
  ['(', ')', '[', ']', ',', '.', ';', '+', '-', '*', '/', '!', '=', '<', '>']

/-- The characters that may stand outside of quotes: blanks, ASCII letters and digits,
underscores, and the characters of symbols and operators. -/
def isOrdinary (c : Char) : Bool :=
  isBlank c || c.isAlphanum || c = '_' || symbols.contains c

/-- A character of a text stands outside of quotes: it is no quote, and the quotes before
it come in pairs. -/
structure Outside (cs before : List Char) (c : Char) (after : List Char) : Prop where
  text_eq : cs = before ++ c :: after
  ne_quote : c ≠ '"'
  closed : Even (before.count '"')

/-- Only ordinary characters stand outside of quotes. -/
def OrdinaryOutside (cs : List Char) : Prop :=
  ∀ before c after, Outside cs before c after → isOrdinary c

/-- The first character outside of quotes that is not ordinary. -/
structure FirstForeign (cs before : List Char) (c : Char) (after : List Char) : Prop where
  outside : Outside cs before c after
  foreign : isOrdinary c = false
  first : ∀ before' c' after', Outside cs before' c' after' → isOrdinary c' = false →
    before.length ≤ before'.length

/-- A piece of text that leaves no quote open, with ordinary characters outside of quotes. -/
structure Settled (cs : List Char) : Prop where
  closed : Even (cs.count '"')
  ordinary : OrdinaryOutside cs

theorem OrdinaryOutside.not_foreign {cs before after : List Char} {c : Char}
    (h : OrdinaryOutside cs) (houtside : Outside cs before c after)
    (hc : isOrdinary c = false) : False := by
  have hord := h before c after houtside
  rw [hc] at hord
  cases hord

/-- What stands outside of quotes in the first of two pieces does so in both together. -/
theorem Outside.append {front before after : List Char} {c : Char}
    (h : Outside front before c after) (rest : List Char) :
    Outside (front ++ rest) before c (after ++ rest) := by
  refine ⟨?_, h.ne_quote, h.closed⟩
  rw [h.text_eq, List.append_assoc, List.cons_append]

/-- Behind a piece that leaves no quote open, the same characters stand outside of quotes. -/
theorem Outside.behind {rest before after : List Char} {c : Char} (h : Outside rest before c after)
    {front : List Char} (hfront : Even (front.count '"')) :
    Outside (front ++ rest) (front ++ before) c after := by
  refine ⟨?_, h.ne_quote, ?_⟩
  · rw [h.text_eq, List.append_assoc]
  · rw [List.count_append]
    exact hfront.add h.closed

/-- What stands outside of quotes in two pieces does so in one of them, if the first leaves
no quote open. -/
theorem Outside.of_append {front rest before after : List Char} {c : Char}
    (h : Outside (front ++ rest) before c after) (hfront : Even (front.count '"')) :
    (∃ between, Outside front before c between) ∨ ∃ before', Outside rest before' c after := by
  rcases List.append_eq_append_iff.1 h.text_eq with ⟨between, hbefore, hrest⟩ | ⟨tail, hfront', hcs⟩
  · -- the character is in the second piece
    have hcount : before.count '"' = front.count '"' + between.count '"' := by
      rw [hbefore, List.count_append]
    have heven : Even (between.count '"') := by
      have hclosed := h.closed
      rw [hcount, Nat.even_add] at hclosed
      exact hclosed.1 hfront
    exact .inr ⟨between, hrest, h.ne_quote, heven⟩
  · cases tail with
    | nil =>
      refine .inr ⟨[], hcs.symm, h.ne_quote, ?_⟩
      exact ⟨0, rfl⟩
    | cons d between =>
      obtain ⟨rfl, -⟩ := List.cons.inj hcs
      exact .inl ⟨between, hfront', h.ne_quote, h.closed⟩

theorem OrdinaryOutside.append {front rest : List Char} (hfront : Settled front)
    (hrest : OrdinaryOutside rest) : OrdinaryOutside (front ++ rest) := by
  intro before c after h
  rcases h.of_append hfront.closed with ⟨between, h⟩ | ⟨before', h⟩
  · exact hfront.ordinary before c between h
  · exact hrest before' c after h

/-- The first character outside of quotes that is not ordinary is one that only ordinary
ones stand before. -/
theorem firstForeign_iff {cs before after : List Char} {c : Char} :
    FirstForeign cs before c after ↔
      Outside cs before c after ∧ isOrdinary c = false ∧ OrdinaryOutside before := by
  constructor
  · rintro ⟨houtside, hforeign, hfirst⟩
    refine ⟨houtside, hforeign, ?_⟩
    intro before' c' after' h
    by_contra hc'
    have houtside' : Outside cs before' c' (after' ++ c :: after) := by
      rw [houtside.text_eq]
      exact h.append _
    have hle := hfirst _ _ _ houtside' (by simpa using hc')
    rw [h.text_eq, List.length_append, List.length_cons] at hle
    omega
  · rintro ⟨houtside, hforeign, hbefore⟩
    refine ⟨houtside, hforeign, ?_⟩
    intro before' c' after' h hc'
    by_contra hlt
    -- an earlier one would stand in what is before this one
    rcases List.append_eq_append_iff.1 (houtside.text_eq.symm.trans h.text_eq) with
      ⟨between, rfl, -⟩ | ⟨between, rfl, htext⟩
    · rw [List.length_append] at hlt
      omega
    · cases between with
      | nil => simp at hlt
      | cons d between =>
        obtain ⟨rfl, -⟩ := List.cons.inj htext
        exact hbefore.not_foreign ⟨rfl, h.ne_quote, h.closed⟩ hc'

theorem FirstForeign.unique {cs before before' after after' : List Char} {c c' : Char}
    (h : FirstForeign cs before c after) (h' : FirstForeign cs before' c' after') :
    before = before' ∧ c = c' := by
  have hle := h.first _ _ _ h'.outside h'.foreign
  have hle' := h'.first _ _ _ h.outside h.foreign
  have htext := h.outside.text_eq.symm.trans h'.outside.text_eq
  obtain ⟨hbefore, hrest⟩ := List.append_inj htext (by omega)
  exact ⟨hbefore, (List.cons.inj hrest).1⟩

/-- If the last of the quotes opens a piece, they do not come in pairs. -/
theorem not_even_of_open {cs before after : List Char} (hbefore : Even (before.count '"'))
    (hcs : cs = before ++ '"' :: after) (hafter : '"' ∉ after) : ¬ Even (cs.count '"') := by
  rw [hcs, List.count_append, List.count_cons_self, List.count_eq_zero_of_not_mem hafter]
  rw [Nat.even_add_one]
  exact not_not_intro hbefore

/-- There is one last quote. -/
theorem last_quote_unique {cs before before' after after' : List Char}
    (h : cs = before ++ '"' :: after) (hafter : '"' ∉ after)
    (h' : cs = before' ++ '"' :: after') (hafter' : '"' ∉ after') :
    before = before' ∧ after = after' := by
  rcases List.append_eq_append_iff.1 (h.symm.trans h') with
    ⟨between, rfl, htext⟩ | ⟨between, rfl, htext⟩
  · cases between with
    | nil => exact ⟨(List.append_nil _).symm, (List.cons.inj htext).2⟩
    | cons d between =>
      obtain ⟨-, rfl⟩ := List.cons.inj htext
      exact absurd (List.mem_append_right _ (List.mem_cons_self ..)) hafter
  · cases between with
    | nil => exact ⟨List.append_nil _, (List.cons.inj htext).2.symm⟩
    | cons d between =>
      obtain ⟨-, rfl⟩ := List.cons.inj htext
      exact absurd (List.mem_append_right _ (List.mem_cons_self ..)) hafter'

-- ---------------------------------------------------------------------------
-- Lexemes are settled
-- ---------------------------------------------------------------------------

theorem isOrdinary_of_isBlank {c : Char} (h : isBlank c) : isOrdinary c := by
  simp only [isOrdinary, h, Bool.true_or]

/-- Blanks are ordinary, whether quotes in front of them are closed or not. -/
theorem OrdinaryOutside.append_blanks {cs gap : List Char} (h : OrdinaryOutside cs)
    (hgap : ∀ c ∈ gap, isBlank c) : OrdinaryOutside (cs ++ gap) := by
  intro before c after houtside
  rcases List.append_eq_append_iff.1 houtside.text_eq with ⟨between, -, hgap'⟩ | ⟨tail, hcs, hgap'⟩
  · exact isOrdinary_of_isBlank (hgap c (by rw [hgap']; simp))
  · cases tail with
    | nil =>
      obtain rfl : c :: after = gap := hgap'
      exact isOrdinary_of_isBlank (hgap c (List.mem_cons_self ..))
    | cons d between =>
      obtain ⟨rfl, -⟩ := List.cons.inj hgap'
      exact h before c between ⟨hcs, houtside.ne_quote, houtside.closed⟩

theorem isOrdinary_of_isNamePart {c : Char} (h : isNamePart c) : isOrdinary c := by
  simp only [isNamePart, Bool.or_eq_true] at h
  rcases h with h | h <;> simp only [isOrdinary, h, Bool.or_true, Bool.true_or]

theorem isOrdinary_of_isDigit {c : Char} (h : c.isDigit) : isOrdinary c := by
  simp only [isOrdinary, Char.isAlphanum, h, Bool.or_true, Bool.true_or]

/-- A piece of ordinary characters has no quotes. -/
theorem settled_of_isOrdinary {cs : List Char} (h : ∀ c ∈ cs, isOrdinary c) : Settled cs := by
  have hquote : '"' ∉ cs := fun hmem => absurd (h '"' hmem) (by decide)
  refine ⟨?_, ?_⟩
  · rw [List.count_eq_zero_of_not_mem hquote]
    exact ⟨0, rfl⟩
  · intro before c after houtside
    refine h c ?_
    rw [houtside.text_eq]
    exact List.mem_append_right _ (List.mem_cons_self ..)

/-- Behind a quote that is not closed, nothing stands outside of quotes. -/
theorem Outside.not_open {w before after : List Char} {c : Char} (hw : '"' ∉ w)
    (h : Outside ('"' :: w) before c after) : False := by
  cases before with
  | nil => exact h.ne_quote (List.cons.inj h.text_eq).1.symm
  | cons q before =>
    obtain ⟨rfl, rfl⟩ := List.cons.inj h.text_eq
    have hbefore : '"' ∉ before := fun hmem => hw (List.mem_append_left _ hmem)
    have hclosed := h.closed
    rw [List.count_cons_self, List.count_eq_zero_of_not_mem hbefore] at hclosed
    exact absurd hclosed (by decide)

/-- Nothing of a string stands outside of quotes. -/
theorem settled_quoted {w : List Char} (hw : '"' ∉ w) : Settled ('"' :: (w ++ ['"'])) := by
  refine ⟨?_, ?_⟩
  · rw [List.count_cons_self, List.count_append, List.count_eq_zero_of_not_mem hw]
    exact ⟨1, rfl⟩
  · intro before c after h
    have htext : ('"' :: w) ++ ['"'] = before ++ c :: after := h.text_eq
    rcases List.eq_nil_or_concat after with rfl | ⟨between, d, rfl⟩
    · have hc := List.append_inj_right' htext rfl
      exact absurd (List.cons.inj hc).1.symm h.ne_quote
    · rw [List.concat_eq_append, ← List.cons_append, ← List.append_assoc] at htext
      have hopen := List.append_inj_left' htext rfl
      have hinside : Outside ('"' :: w) before c between := ⟨hopen, h.ne_quote, h.closed⟩
      exact (hinside.not_open hw).elim

/-- **A lexeme is settled.** -/
theorem OfKind.settled {k : TokenKind} {w : List Char} (h : OfKind k w) : Settled w := by
  cases h with
  | symbol hc | alone hc =>
    refine settled_of_isOrdinary ?_
    rintro d hd
    obtain rfl := List.mem_singleton.1 hd
    cases hc <;> rfl
  | joined hc =>
    refine settled_of_isOrdinary ?_
    refine List.forall_mem_cons.2 ⟨?_, List.forall_mem_singleton.2 rfl⟩
    cases hc <;> rfl
  | name hc hw =>
    refine settled_of_isOrdinary (List.forall_mem_cons.2 ⟨?_, ?_⟩)
    · exact isOrdinary_of_isNamePart (isNamePart_of_isNameStart hc)
    · exact fun d hd => isOrdinary_of_isNamePart (hw d hd)
  | whole hc hw =>
    refine settled_of_isOrdinary (List.forall_mem_cons.2 ⟨isOrdinary_of_isDigit hc, ?_⟩)
    exact fun d hd => isOrdinary_of_isDigit (hw d hd)
  | decimal hc hw hd hf =>
    refine settled_of_isOrdinary (List.forall_mem_cons.2 ⟨isOrdinary_of_isDigit hc, ?_⟩)
    refine List.forall_mem_append.2 ⟨fun d hd => isOrdinary_of_isDigit (hw d hd), ?_⟩
    refine List.forall_mem_cons.2 ⟨rfl, List.forall_mem_cons.2 ⟨isOrdinary_of_isDigit hd, ?_⟩⟩
    exact fun d hd => isOrdinary_of_isDigit (hf d hd)
  | string hw => exact settled_quoted fun hmem => hw '"' hmem rfl

-- ---------------------------------------------------------------------------
-- What is not cut off
-- ---------------------------------------------------------------------------

theorem not_mem_of_stringTail? {rest : List Char} (h : stringTail? rest = none) : '"' ∉ rest := by
  intro hmem
  obtain ⟨w, u, rfl, hw⟩ := List.eq_append_cons_of_mem hmem
  have hclosed : stringTail? (w ++ '"' :: u) = some (w ++ ['"']) :=
    stringTail?_closed (fun d hd hquote => hw (hquote ▸ hd)) u
  rw [h] at hclosed
  cases hclosed

/-- No lexeme is cut off where a quote is never closed, or where a character that is not
ordinary stands. -/
theorem cut_eq_error {c : Char} {rest : List Char} {error : ScanError} (hc : isBlank c = false)
    (h : cut c rest = .error error) :
    (c = '"' ∧ error = .unterminated ∧ '"' ∉ rest) ∨
    (c ≠ '"' ∧ error = .unexpected c ∧ isOrdinary c = false) := by
  unfold cut at h
  split at h
  case h_16 =>
    split at h
    · cases h
    · next hnone =>
      cases h
      exact .inl ⟨rfl, rfl, not_mem_of_stringTail? hnone⟩
  case h_17 =>
    split at h
    · cases h
    · next hname =>
      split at h
      · cases h
      · next hdigit =>
        cases h
        refine .inr ⟨by assumption, rfl, ?_⟩
        simp only [isNameStart, Bool.or_eq_true, not_or, Bool.not_eq_true] at hname hdigit
        have hsymbol : c ∉ symbols := by
          simp only [symbols, List.mem_cons, List.not_mem_nil, or_false, not_or]
          refine ⟨?_, ?_, ?_, ?_, ?_, ?_, ?_, ?_, ?_, ?_, ?_, ?_, ?_, ?_, ?_⟩ <;> assumption
        simp [isOrdinary, Char.isAlphanum, hc, hname, hdigit, hsymbol]
  all_goals cases h

end Lexeme

-- ---------------------------------------------------------------------------
-- Scanning
-- ---------------------------------------------------------------------------

namespace Token

open Lexeme

/-- What the scanner says of a text that is read from a position on. -/
inductive Verdict (p : Position) (cs : List Char) : Except Diagnostic (List Token) → Prop
  | splits {ts : List Token} (h : Settled cs) : Verdict p cs (.ok ts)
  | unexpected {before after : List Char} {c : Char} (hbefore : OrdinaryOutside before)
      (h : Outside cs before c after) (hc : isOrdinary c = false) :
      Verdict p cs (.error (refuse (p.after before) c after (.unexpected c)))
  | unterminated {before after : List Char} (h : OrdinaryOutside cs)
      (hbefore : Even (before.count '"')) (hcs : cs = before ++ '"' :: after)
      (hafter : '"' ∉ after) :
      Verdict p cs (.error (refuse (p.after before) '"' after .unterminated))

/-- A piece of text that is settled has no part in the verdict. -/
theorem Verdict.behind {p : Position} {front rest : List Char}
    {r : Except Diagnostic (List Token)} (hfront : Settled front)
    (h : Verdict (p.after front) rest r) (f : List Token → List Token) :
    Verdict p (front ++ rest) (r.map f) := by
  cases h with
  | splits h =>
    refine .splits ⟨?_, h.ordinary.append hfront⟩
    rw [List.count_append]
    exact hfront.closed.add h.closed
  | unexpected hbefore h hc =>
    show Verdict p (front ++ rest) (.error _)
    rw [← Position.after_append]
    exact .unexpected (hbefore.append hfront) (h.behind hfront.closed) hc
  | @unterminated before after h hbefore hcs hafter =>
    show Verdict p (front ++ rest) (.error _)
    rw [← Position.after_append]
    refine .unterminated (h.append hfront) ?_ ?_ hafter
    · rw [List.count_append]
      exact hfront.closed.add hbefore
    · rw [hcs, List.append_assoc]

/-- Where no lexeme can be cut off, the text is refused for its first character. -/
theorem verdict_of_cut_eq_error {c : Char} {rest : List Char} {error : ScanError}
    (hc : isBlank c = false) (h : cut c rest = .error error) (p : Position) :
    Verdict p (c :: rest) (.error (refuse p c rest error)) := by
  rcases cut_eq_error hc h with ⟨rfl, rfl, hrest⟩ | ⟨hne, rfl, hforeign⟩
  · refine @Verdict.unterminated p _ [] rest ?_ ⟨0, rfl⟩ rfl hrest
    intro before d after houtside
    exact (houtside.not_open hrest).elim
  · refine @Verdict.unexpected p _ [] rest c ?_ ⟨rfl, hne, ⟨0, rfl⟩⟩ hforeign
    intro before d after houtside
    have hnil := houtside.text_eq
    simp at hnil

/-- **The verdict on a text.** -/
theorem scanFrom_verdict (p : Position) (cs : List Char) : Verdict p cs (scanFrom p cs) := by
  have hlexeme {c : Char} {rest tail : List Char} {k : TokenKind}
      (hcut : cut c rest = .ok (k, tail)) :
      Settled (c :: tail) ∧ (c :: tail) ++ rest.drop tail.length = c :: rest := by
    obtain ⟨htail, hk⟩ := cut_ofKind hcut
    exact ⟨hk.settled, congrArg (c :: ·) (List.prefix_iff_eq_append.1 htail)⟩
  fun_induction scanFrom p cs with
  | case1 p =>
    refine .splits (settled_of_isOrdinary ?_)
    exact fun c hc => absurd hc List.not_mem_nil
  | case2 p c rest hc ih =>
    have hblank : Settled [c] :=
      settled_of_isOrdinary (List.forall_mem_singleton.2 (isOrdinary_of_isBlank hc))
    have h := ih.behind (p := p) hblank id
    rwa [Except.map_id] at h
  | case3 p c rest hc error hcut =>
    exact verdict_of_cut_eq_error (by simpa using hc) hcut p
  | case4 p c rest _ k tail hcut stop d hlater ih =>
    obtain ⟨hsettled, htext⟩ := hlexeme hcut
    have h := ih.behind (p := p) hsettled id
    rw [hlater, htext] at h
    exact h
  | case5 p c rest _ k tail hcut stop ts hlater ih =>
    obtain ⟨hsettled, htext⟩ := hlexeme hcut
    have h := ih.behind (p := p) hsettled (ofLexeme k (c :: tail) p stop :: ·)
    rw [hlater, htext] at h
    exact h

-- ---------------------------------------------------------------------------
-- Whole texts
-- ---------------------------------------------------------------------------

/-- What is said of a character that is not ordinary. -/
theorem refuse_unexpected (before after : List Char) (c : Char) :
    refuse (Position.origin.after before) c after (.unexpected c) =
      { stage := .lexical, message := s!"unexpected token `{c}`"
        line := some (1 + before.count '\n')
        span := some ⟨(String.ofList before).utf8ByteSize,
          (String.ofList (before ++ [c])).utf8ByteSize⟩ } := by
  have hstart := Position.after_offset .origin before
  have hstop := Position.after_offset .origin (before ++ [c])
  have hline := Position.after_line .origin before
  rw [Position.after_append] at hstop
  simp only [Position.origin, Nat.zero_add] at hstart hstop hline
  simp only [refuse, Position.spanTo, Position.origin, hstart, hline]
  rw [← hstop]
  rfl

/-- What is said of a quote that is left open. -/
theorem refuse_unterminated {source : String} {before after : List Char}
    (h : source.toList = before ++ '"' :: after) :
    refuse (Position.origin.after before) '"' after .unterminated =
      { stage := .lexical, message := "unterminated string"
        line := some (1 + source.toList.count '\n')
        span := some ⟨(String.ofList before).utf8ByteSize, source.utf8ByteSize⟩ } := by
  have hstart := Position.after_offset .origin before
  have hstop := Position.after_offset .origin source.toList
  have hline := Position.after_line .origin source.toList
  rw [String.ofList_toList] at hstop
  rw [h, Position.after_append] at hstop hline
  simp only [Position.origin, Nat.zero_add] at hstart hstop hline
  rw [h]
  simp only [refuse, Position.spanTo, Position.origin, hstart]
  rw [← hstop, ← hline]
  rfl

/-- A text splits exactly when its quotes come in pairs and only ordinary characters stand
outside of them. -/
theorem exists_scan_iff (source : String) :
    (∃ tokens, scan source = .ok tokens) ↔
      Even (source.toList.count '"') ∧ OrdinaryOutside source.toList := by
  have hverdict := scanFrom_verdict .origin source.toList
  constructor
  · rintro ⟨tokens, hscan⟩
    rw [show scanFrom .origin source.toList = .ok tokens from hscan] at hverdict
    cases hverdict with
    | splits h => exact ⟨h.closed, h.ordinary⟩
  · rintro ⟨hclosed, hordinary⟩
    show ∃ tokens, scanFrom .origin source.toList = .ok tokens
    generalize scanFrom .origin source.toList = r at hverdict
    cases hverdict with
    | @splits tokens _ => exact ⟨tokens, rfl⟩
    | unexpected _ h hc => exact (hordinary.not_foreign h hc).elim
    | unterminated _ hbefore hcs hafter => exact (not_even_of_open hbefore hcs hafter hclosed).elim

/-- A text is refused for the first character outside of quotes that is not ordinary. -/
theorem scan_of_firstForeign {source : String} {before after : List Char} {c : Char}
    (h : FirstForeign source.toList before c after) :
    scan source = .error (refuse (Position.origin.after before) c after (.unexpected c)) := by
  have hverdict := scanFrom_verdict .origin source.toList
  show scanFrom .origin source.toList = .error _
  generalize scanFrom .origin source.toList = r at hverdict
  cases hverdict with
  | splits hsettled => exact (hsettled.ordinary.not_foreign h.outside h.foreign).elim
  | unexpected hbefore h' hc =>
    obtain ⟨rfl, rfl⟩ := h.unique (firstForeign_iff.2 ⟨h', hc, hbefore⟩)
    rw [refuse_unexpected, refuse_unexpected]
  | unterminated hordinary => exact (hordinary.not_foreign h.outside h.foreign).elim

/-- A text with ordinary characters outside of quotes is refused for its last quote if that
is left open. -/
theorem scan_of_open {source : String} {before after : List Char}
    (hordinary : OrdinaryOutside source.toList) (hodd : ¬ Even (source.toList.count '"'))
    (hcs : source.toList = before ++ '"' :: after) (hafter : '"' ∉ after) :
    scan source = .error (refuse (Position.origin.after before) '"' after .unterminated) := by
  have hverdict := scanFrom_verdict .origin source.toList
  show scanFrom .origin source.toList = .error _
  generalize scanFrom .origin source.toList = r at hverdict
  cases hverdict with
  | splits hsettled => exact absurd hsettled.closed hodd
  | unexpected _ h hc => exact (hordinary.not_foreign h hc).elim
  | unterminated _ _ hcs' hafter' =>
    obtain ⟨rfl, rfl⟩ := last_quote_unique hcs hafter hcs' hafter'
    rfl

/-- What is cut off as a number is read as a number. -/
theorem literal_of_cut {c : Char} {rest tail : List Char}
    (hcut : cut c rest = .ok (.number, tail)) :
    ∃ x, Number.ofText? (.ofList (c :: tail)) = some x ∧
      Lexeme.literal .number (c :: tail) = some (.number x) := by
  have hwritten := Number.Written.of_ofKind (cut_ofKind hcut).2
  rw [← String.toList_ofList (l := c :: tail)] at hwritten
  obtain ⟨x, hx, hliteral⟩ := Number.literal_number hwritten
  rw [String.toList_ofList] at hliteral
  exact ⟨x, hx, hliteral⟩

/-- **Which texts split into tokens, and what is said about the others.** A text splits
exactly when its quotes come in pairs and only ordinary characters stand outside of them.
Else, if some character outside is not ordinary, the first of them is reported, with its
bytes and its line; and if there is none, the last quote is, up to the end of the text and
on the last line. Nothing else is ever reported: whatever is cut off as a number is read as
a number. -/
theorem scan_verdict (source : String) :
    ((∃ tokens, scan source = .ok tokens) ↔
      Even (source.toList.count '"') ∧ OrdinaryOutside source.toList) ∧
    (∀ d, scan source = .error d ↔
      (∃ before c after, FirstForeign source.toList before c after ∧
        d = { stage := .lexical, message := s!"unexpected token `{c}`"
              line := some (1 + before.count '\n')
              span := some ⟨(String.ofList before).utf8ByteSize,
                (String.ofList (before ++ [c])).utf8ByteSize⟩ }) ∨
      (OrdinaryOutside source.toList ∧ ¬ Even (source.toList.count '"') ∧
        ∃ before after, source.toList = before ++ '"' :: after ∧ '"' ∉ after ∧
          d = { stage := .lexical, message := "unterminated string"
                line := some (1 + source.toList.count '\n')
                span := some ⟨(String.ofList before).utf8ByteSize, source.utf8ByteSize⟩ })) ∧
    ∀ c rest tail, cut c rest = .ok (.number, tail) →
      ∃ x, Number.ofText? (.ofList (c :: tail)) = some x ∧
        Lexeme.literal .number (c :: tail) = some (.number x) := by
  refine ⟨exists_scan_iff source, fun d => ⟨fun hscan => ?_, ?_⟩, fun c rest tail => literal_of_cut⟩
  · have hverdict := scanFrom_verdict .origin source.toList
    rw [show scanFrom .origin source.toList = .error d from hscan] at hverdict
    cases hverdict with
    | unexpected hbefore h hc =>
      exact .inl ⟨_, _, _, firstForeign_iff.2 ⟨h, hc, hbefore⟩, refuse_unexpected ..⟩
    | unterminated h hbefore hcs hafter =>
      exact .inr ⟨h, not_even_of_open hbefore hcs hafter, _, _, hcs, hafter,
        refuse_unterminated hcs⟩
  · rintro (⟨before, c, after, hfirst, rfl⟩ | ⟨hordinary, hodd, before, after, hcs, hafter, rfl⟩)
    · rw [scan_of_firstForeign hfirst, refuse_unexpected]
    · rw [scan_of_open hordinary hodd hcs hafter, refuse_unterminated hcs]

end Token

end Reckoner
