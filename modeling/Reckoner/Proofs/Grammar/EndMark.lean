import Reckoner.Proofs.Grammar.Rejection

/-!
# Reckoner — lists without an end mark

A list of tokens without an end mark is read like the same list with one behind it. The mark
only says where the end is: a fault that shows there is reported at the mark, or else behind
the last token.

Main results:

* `endMark_of_unmarked` — where a list without an end mark ends;
* `parse_append_endMark` — what an end mark changes.
-/

namespace Reckoner.Grammar

open Reckoner.Expr

/-- A list is rejected, and there is no token left at which the fault could show. -/
def FailsAtEnd (ts : List Token) : Prop := ∃ fault, ofTokens ts = .error ⟨fault, []⟩

/-- A list without an end mark ends behind its last token, on the line of that token. -/
theorem endMark_of_unmarked {ts : List Token} (h : ∀ t ∈ ts, t.kind ≠ .endOfInput) :
    (endMark ts).line = (ts.getLast?.map (·.line)).getD 1 ∧
      (endMark ts).span =
        ⟨(ts.getLast?.map (·.span.stop)).getD 0, (ts.getLast?.map (·.span.stop)).getD 0⟩ := by
  have hnone : ts.find? (·.kind = .endOfInput) = none := by
    rw [List.find?_eq_none]
    simpa using h
  rw [endMark, hnone]
  cases ts.getLast? <;> exact ⟨rfl, rfl⟩

/-- The tokens at which a fault shows are the last ones of the list. -/
theorem remaining_suffix {ts : List Token} {e : ParseError} (h : ofTokens ts = .error e) :
    e.remaining <:+ ts := by
  obtain ⟨xs, rest, rfl, hshown, -⟩ := ofTokens_eq_error_iff.1 h
  rw [hshown]
  have hrest : rest <:+ xs ++ rest := List.suffix_append xs rest
  cases e.fault with
  | tooManyArguments => exact (List.tail_suffix rest).trans hrest
  | operand | closingCall | closingGroup | leftover => exact hrest

/-- **What an end mark changes.** A list of tokens without an end mark, and the same with any end
mark behind it, are both read as the same tree, or both refused with the same message. If the
fault does not show at the end, the two diagnostics are the same, and about the place of a token
of the list. If it does, then the list with the mark is refused at the place of the mark, and
the list without it behind its last token: on the line of that token and with the empty span at
its end, or on the first line at the front of the text if there is no token. -/
theorem parse_append_endMark (ts : List Token) (z : Token)
    (hts : ∀ t ∈ ts, t.kind ≠ .endOfInput) (hz : z.kind = .endOfInput) :
    (∃ e, parse ts = .ok e ∧ parse (ts ++ [z]) = .ok e) ∨
    ∃ d d', parse ts = .error d ∧ parse (ts ++ [z]) = .error d' ∧
      d.stage = .syntactic ∧ d'.stage = .syntactic ∧ d'.message = d.message ∧
      (¬ FailsAtEnd ts → d' = d ∧ ∃ t ∈ ts, d.line = some t.line ∧ d.span = some t.span) ∧
      (FailsAtEnd ts → d' = { d with line := some z.line, span := some z.span } ∧
        d.line = some ((ts.getLast?.map (·.line)).getD 1) ∧
        d.span = some ⟨(ts.getLast?.map (·.span.stop)).getD 0,
          (ts.getLast?.map (·.span.stop)).getD 0⟩) := by
  have hbody := body_of_unmarked hts
  have hbody' := body_append_marked hts hz []
  have hmark := endMark_append_marked hts hz []
  cases hread : ofTokens ts with
  | ok e =>
    refine .inl ⟨e, ?_, ?_⟩
    · rw [parse, hbody, hread]
      rfl
    · rw [parse, hbody', hread]
      rfl
  | error e =>
    have hfails : ofTokens (body ts) = .error e := by rw [hbody, hread]
    have hfails' : ofTokens (body (ts ++ [z])) = .error e := by rw [hbody', hread]
    refine .inr ⟨_, _, parse_eq_error_iff.2 ⟨e, hfails, rfl⟩,
      parse_eq_error_iff.2 ⟨e, hfails', rfl⟩, rfl, rfl, rfl, fun hinside => ?_, ?_⟩
    · -- a token is left, and neither mark is looked at
      obtain ⟨fault, remaining⟩ := e
      cases remaining with
      | nil => exact absurd ⟨fault, hread⟩ hinside
      | cons t us =>
        have ht : t ∈ ts := (remaining_suffix hread).subset (List.mem_cons_self ..)
        exact ⟨rfl, t, ht, rfl, rfl⟩
    · rintro ⟨fault, hend⟩
      cases hread.symm.trans hend
      obtain ⟨hline, hspan⟩ := endMark_of_unmarked hts
      refine ⟨?_, congrArg some hline, congrArg some hspan⟩
      rw [hmark]
      rfl

/-- A parenthesis with nothing behind it, and an end mark far away. -/
theorem parse_append_endMark_far :
    let opening : Token := ⟨.leftParen, "(", none, 3, ⟨4, 5⟩⟩
    let z := Token.endMark 7 20
    (∀ t ∈ [opening], t.kind ≠ .endOfInput) ∧ z.kind = .endOfInput ∧
      ∃ d d', parse [opening] = .error d ∧ parse [opening, z] = .error d' ∧
        d'.message = d.message ∧ d.line = some 3 ∧ d.span = some ⟨5, 5⟩ ∧
        d'.line = some 7 ∧ d'.span = some ⟨20, 20⟩ := by
  intro opening z
  have hts : ∀ t ∈ [opening], t.kind ≠ .endOfInput := by decide
  have hinside : Breaks .expression [] none .operand :=
    .ofUnary (.unsigned (.uncalled (.missing nofun)))
  have hbreaks : Breaks .expression [opening] none .operand :=
    .ofUnary (.unsigned (.uncalled (.group rfl hinside)))
  have hread : ofTokens [opening] = .error ⟨.operand, []⟩ :=
    ofTokens_eq_error_iff.2 ⟨[opening], [], rfl, rfl, .inside hbreaks⟩
  rcases parse_append_endMark [opening] z hts rfl with
    ⟨e, he, -⟩ | ⟨d, d', hd, hd', -, -, hm, -, hend⟩
  · have hok := ofTokens_eq_ok_iff.2 (parse_eq_ok_iff.1 he)
    cases hread.symm.trans hok
  · obtain ⟨rfl, hline, hspan⟩ := hend ⟨.operand, hread⟩
    exact ⟨hts, rfl, d, _, hd, hd', hm, hline, hspan, rfl, rfl⟩

end Reckoner.Grammar
