import Reckoner.Proofs.Grammar.BreakOff

/-!
# Reckoner — which lists are rejected, and where

Where an expression breaks off, its reader fails, whatever else stands behind the token that
cannot go on. So the fault of a list of tokens hangs on its front alone.

Main results:

* `Breaks.refuses` — a reader fails where an expression breaks off;
* `ofTokens_eq_error_iff` — a list of tokens is rejected exactly where an expression breaks off,
  or where one is complete and something is left over (`Rejects`).
-/

namespace Reckoner.Grammar

open Reckoner.Expr

-- ---------------------------------------------------------------------------
-- Single steps of the readers
-- ---------------------------------------------------------------------------

section

variable {all us : List Token} {t : Token} {e : ParseError}

/-- A chain of operators fails in a right operand. -/
theorem parseChain_refuses {l : Level} {p : Parsed Expr all} {c : Connective}
    (hp : p.rest = t :: us) (ht : Operator l t.kind c) (hb : parseOperand l us = .error e) :
    parseChain l p = .error e := by
  obtain ⟨hc, hl⟩ := operator_iff.1 ht
  obtain ⟨a, rest, hshort⟩ := p
  obtain rfl : rest = t :: us := hp
  rw [parseChain]
  simp only [hc, hl, hb, if_true]

/-- A chain of calls fails in the arguments of one. -/
theorem parseCalls_refuses {p : Parsed Expr all} (hp : p.rest = t :: us)
    (ht : t.kind = .leftParen) (hargs : parseArguments us = .error e) :
    parseCalls p = .error e := by
  obtain ⟨f, rest, hshort⟩ := p
  obtain rfl : rest = t :: us := hp
  rw [parseCalls]
  simp only [ht, hargs, if_true]

/-- A token that starts no operand is no unary expression. -/
theorem parseUnary_missing {rest : List Token}
    (h : ∀ t ∈ rest.head?, ¬ StartsOperand t) :
    parseUnary rest = .error ⟨.operand, rest⟩ := by
  cases rest with
  | nil => rw [parseUnary]
  | cons t us =>
    have hstart := h t rfl
    have hsign : UnaryOp.ofKind? t.kind = none :=
      Option.eq_none_iff_forall_ne_some.2 fun op hop => hstart (.inl ⟨op, sign_iff.2 hop⟩)
    have hparen : t.kind ≠ .leftParen := fun ht => hstart (.inr (.inl ht))
    have hatom : ofToken? t = none :=
      Option.eq_none_iff_forall_ne_some.2 fun e he => hstart (.inr (.inr ⟨e, atom_iff.2 he⟩))
    rw [parseUnary]
    simp only [hsign, parsePrimary, if_neg hparen, hatom]

/-- An expression in parentheses fails inside them. -/
theorem parseUnary_group_refuses (ht : t.kind = .leftParen) (h : parseLevel .or us = .error e) :
    parseUnary (t :: us) = .error e := by
  rw [parseUnary]
  simp only [ht, UnaryOp.ofKind?, parsePrimary, h, if_true]

/-- An expression in parentheses that are not closed. -/
theorem parseUnary_group_unclosed {rest : List Token} {inner : Expr} (ht : t.kind = .leftParen)
    (h : Answers (parseLevel .or us) inner rest)
    (hclosing : ∀ u ∈ rest.head?, u.kind ≠ .rightParen) :
    parseUnary (t :: us) = .error ⟨.closingGroup, rest⟩ := by
  obtain ⟨⟨inner, behind, hshort⟩, hread, rfl, hbehind⟩ := h
  obtain rfl : behind = rest := hbehind
  rw [parseUnary]
  simp only [ht, UnaryOp.ofKind?, parsePrimary, hread, if_true]
  cases behind with
  | nil => rfl
  | cons u vs =>
    have hu : u.kind ≠ .rightParen := hclosing u rfl
    simp only [if_neg hu]

variable {count : Nat}

/-- The arguments of a call fail in the next one. -/
theorem parseArgument_refuses (hcount : count < 8) (h : parseLevel .or all = .error e) :
    parseArgument count all = .error e := by
  have hroom : ¬ maxArguments ≤ count := Nat.not_le.2 hcount
  rw [parseArgument, if_neg hroom, h]

/-- The arguments of a call that are not closed. -/
theorem parseArgument_unclosed {rest : List Token} {arg : Expr} (hcount : count < 8)
    (h : Answers (parseLevel .or all) arg rest)
    (hclosing : ∀ u ∈ rest.head?, u.kind ≠ .comma ∧ u.kind ≠ .rightParen) :
    parseArgument count all = .error ⟨.closingCall, rest⟩ := by
  obtain ⟨⟨arg, behind, hshort⟩, hread, rfl, hbehind⟩ := h
  obtain rfl : behind = rest := hbehind
  have hroom : ¬ maxArguments ≤ count := Nat.not_le.2 hcount
  rw [parseArgument, if_neg hroom]
  simp only [hread]
  cases behind with
  | nil => rfl
  | cons u vs =>
    have hu := hclosing u rfl
    simp only [if_neg hu.1, if_neg hu.2]

/-- The arguments of a call fail behind a comma. -/
theorem parseArgument_more_refuses {arg : Expr} (hcount : count < 8)
    (h : Answers (parseLevel .or all) arg (t :: us)) (ht : t.kind = .comma)
    (hmore : parseArgument (count + 1) us = .error e) : parseArgument count all = .error e := by
  obtain ⟨⟨arg, behind, hshort⟩, hread, rfl, hbehind⟩ := h
  obtain rfl : behind = t :: us := hbehind
  have hroom : ¬ maxArguments ≤ count := Nat.not_le.2 hcount
  rw [parseArgument, if_neg hroom]
  simp only [hread, ht, hmore, if_true]

/-- The arguments of a call fail where they are not closed at once. -/
theorem parseArguments_refuses (hopen : ∀ u ∈ us.head?, u.kind ≠ .rightParen)
    (h : parseArgument 0 us = .error e) : parseArguments us = .error e := by
  cases us with
  | nil => rwa [parseArguments]
  | cons t us =>
    have ht : t.kind ≠ .rightParen := hopen t rfl
    rwa [parseArguments, if_neg ht]

end

-- ---------------------------------------------------------------------------
-- Readers
-- ---------------------------------------------------------------------------

/-- What the reader of a category makes of tokens that break off. -/
def Refuses : Category → List Token → ParseError → Prop
  | .expression, ts, e => parseLevel .or ts = .error e
  | .level l, ts, e => parseLevel l ts = .error e
  | .unary, ts, e | .call, ts, e | .primary, ts, e => parseUnary ts = .error e

theorem Refuses.operand {l : Level} {ts : List Token} {e : ParseError}
    (h : Refuses (operandOf l) ts e) : parseOperand l ts = .error e := by
  rw [parseOperand]
  split
  · next tighter hl => rwa [operandOf_eq_level hl] at h
  · next hl => rwa [operandOf_eq_unary hl] at h

mutual

/-- **A reader fails where an expression breaks off**, whatever stands behind the token that
cannot go on. -/
theorem Breaks.refuses {s : Category} {ts : List Token} {stop : Option Token}
    {fault : ParseFault} : Breaks s ts stop fault → ∀ rest, rest.head? = stop →
      Refuses s (ts ++ rest) ⟨fault, fault.shown rest⟩
  | .expression h, rest, hrest => h.refuses rest hrest
  | .operand h, rest, hrest => by
    show parseLevel _ _ = _
    rw [parseLevel, Refuses.operand (h.refuses rest hrest)]
  | @Breaks.join l ts us t a c stop fault ha ht hb, rest, hrest => by
    obtain ⟨p, -, hp, hread⟩ :=
      ha.completes (ts ++ t :: us ++ rest) (t :: (us ++ rest)) (by simp) (ht.ends _)
    exact hread.trans (parseChain_refuses hp ht (Refuses.operand (hb.refuses rest hrest)))
  | @Breaks.sign ts t op stop fault ht h, rest, hrest => by
    have hread : parseUnary (ts ++ rest) = .error ⟨fault, fault.shown rest⟩ :=
      h.refuses rest hrest
    show parseUnary (t :: (ts ++ rest)) = _
    rw [parseUnary]
    simp only [sign_iff.1 ht, hread]
  | .unsigned h, rest, hrest | .uncalled h, rest, hrest => h.refuses rest hrest
  | @Breaks.apply ts us t f stop fault hf ht hopen hargs, rest, hrest => by
    obtain ⟨p, -, hp, hread⟩ :=
      hf.completes (ts ++ t :: us ++ rest) (t :: (us ++ rest)) (by simp)
    have hfirst : ∀ u ∈ (us ++ rest).head?, u.kind ≠ .rightParen := by
      rwa [← hrest, head?_append_head?] at hopen
    exact hread.trans (parseCalls_refuses hp ht
      (parseArguments_refuses hfirst (hargs.refuses rest hrest)))
  | .missing hstop, rest, hrest => parseUnary_missing (hrest ▸ hstop)
  | .group ht h, rest, hrest => parseUnary_group_refuses ht (h.refuses rest hrest)
  | .unclosed ht h hends hstop, rest, hrest => by
    subst hrest
    exact parseUnary_group_unclosed ht (h.completes _ rest rfl (ends_head.1 hends)) hstop

theorem BreaksAmong.refuses {count : Nat} {us : List Token} {stop : Option Token}
    {fault : ParseFault} : BreaksAmong count us stop fault → ∀ rest, rest.head? = stop →
      parseArgument count (us ++ rest) = .error ⟨fault, fault.shown rest⟩
  | .argument hcount h, rest, hrest => parseArgument_refuses hcount (h.refuses rest hrest)
  | .unclosed hcount h hends hstop, rest, hrest => by
    subst hrest
    exact parseArgument_unclosed hcount (h.completes _ rest rfl (ends_head.1 hends)) hstop
  | @BreaksAmong.more count ts us t e stop fault hcount h ht hs, rest, hrest => by
    have hread := h.completes (ts ++ t :: us ++ rest) (t :: (us ++ rest)) (by simp)
      (.of_kind 7 (.inl ht))
    exact parseArgument_more_refuses hcount hread ht (hs.refuses rest hrest)
  | @BreaksAmong.full ts t e h ht, rest, hrest => by
    cases rest with
    | nil => cases hrest
    | cons u vs =>
      obtain rfl : u = t := Option.some.inj hrest
      have hread := h.completes (ts ++ u :: vs) (u :: vs) rfl (.of_kind 7 (.inl ht))
      exact parseArgument_more_refuses (by decide) hread ht (parseArgument_full vs)

end

-- ---------------------------------------------------------------------------
-- Whole lists
-- ---------------------------------------------------------------------------

/-- A list of tokens is no expression, and behind the first of them this is sure: they are the
front of an expression that breaks off, or an expression with which the next token cannot go
on. -/
inductive Rejects (ts : List Token) (stop : Option Token) : ParseFault → Prop
  | inside {fault : ParseFault} (h : Breaks .expression ts stop fault) : Rejects ts stop fault
  | behind {t : Token} {e : Expr} (h : Derives .expression ts e) (hstop : stop = some t)
      (hends : Ends 7 stop.toList) : Rejects ts stop .leftover

/-- **Where lists are rejected.** A list of tokens is rejected exactly where an expression
breaks off, or is complete while something is left over; and the first tokens up to that place
decide it. -/
theorem ofTokens_eq_error_iff {ts : List Token} {e : ParseError} :
    ofTokens ts = .error e ↔
      ∃ xs rest, ts = xs ++ rest ∧ e.remaining = e.fault.shown rest ∧
        Rejects xs rest.head? e.fault := by
  constructor
  · intro h
    rw [ofTokens] at h
    split at h
    · next e' he =>
      cases h
      obtain ⟨xs, rest, hts, hshown, hbreaks⟩ := parseLevel_breaks .or ts e he
      exact ⟨xs, rest, hts, hshown, .inside (.expression hbreaks)⟩
    · next p hp =>
      obtain ⟨xs, hxs, hd⟩ := parseLevel_sound .or ts p hp
      have hends := ends_head.2 (parseLevel_ends .or ts p hp)
      split at h
      · cases h
      · next t rest hrest =>
        cases h
        rw [hrest] at hxs hends
        exact ⟨xs, t :: rest, hxs, rfl, .behind (.expression hd) rfl hends⟩
  · rintro ⟨xs, rest, rfl, hshown, hrejects⟩
    obtain ⟨fault, remaining⟩ := e
    obtain rfl : remaining = fault.shown rest := hshown
    cases hrejects with
    | inside h =>
      have hread : parseLevel .or (xs ++ rest) = .error ⟨fault, fault.shown rest⟩ :=
        h.refuses rest rfl
      rw [ofTokens, hread]
    | behind h hstop hends =>
      obtain ⟨p, hread, -, hp⟩ := h.completes _ rest rfl (ends_head.1 hends)
      rw [ofTokens, hread]
      cases rest with
      | nil => cases hstop
      | cons t us => simp only [hp, ParseFault.shown]

-- ---------------------------------------------------------------------------
-- Lists with an end mark
-- ---------------------------------------------------------------------------

/-- The end mark behind the tokens of a list is where it ends. -/
theorem endMark_append_marked {ts : List Token} (h : ∀ t ∈ ts, t.kind ≠ .endOfInput) {z : Token}
    (hz : z.kind = .endOfInput) (us : List Token) : endMark (ts ++ z :: us) = z := by
  have hnone : ts.find? (·.kind = .endOfInput) = none := by
    rw [List.find?_eq_none]
    simpa using h
  have hmark : (z :: us).find? (·.kind = .endOfInput) = some z :=
    List.find?_cons_of_pos (decide_eq_true hz)
  simp only [endMark, List.find?_append, hnone, Option.none_or, hmark, Option.getD_some]

theorem parse_eq_error_iff {ts : List Token} {d : Diagnostic} :
    parse ts = .error d ↔ ∃ e, ofTokens (body ts) = .error e ∧ d = e.diagnose (endMark ts) := by
  rw [parse]
  cases ofTokens (body ts) with
  | ok e =>
    constructor
    · intro h
      cases h
    · rintro ⟨e', he, -⟩
      cases he
  | error e =>
    constructor
    · intro h
      cases h
      exact ⟨e, rfl, rfl⟩
    · rintro ⟨e', he, rfl⟩
      cases he
      rfl

end Reckoner.Grammar
