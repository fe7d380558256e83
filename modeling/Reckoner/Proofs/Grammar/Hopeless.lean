import Reckoner.Proofs.Grammar.Rejection

/-!
# Reckoner — the first hopeless token

A reader gives up at the first token with which all hope is lost: what stands in front of it is
the front of some expression (`Viable`), and with it of none.

Main results:

* `Breaks.continued` — where an expression breaks off, it can also go on to an end;
* `Rejects.viable`, `Rejects.hopeless` — so a list is rejected at its first hopeless token;
* `Breaks.behind_eighth` — where a call has too many arguments, eight of them stand in front of
  the hopeless comma;
* `parse_fails_at_first_hopeless` — what this makes of the place that a diagnostic is about.
-/

namespace Reckoner

/-- Only a ninth argument is refused with this message. -/
theorem ParseError.message_eq_iff {e : ParseError} :
    e.message = "too many arguments: a call accepts at most 8" ↔ e.fault = .tooManyArguments := by
  obtain ⟨fault, remaining⟩ := e
  constructor
  · intro h
    have hfirst := congrArg (·.toList.head?) h
    cases fault with
    | tooManyArguments => rfl
    | operand | closingCall | closingGroup | leftover =>
      simp [ParseError.message] at hfirst
  · rintro rfl
    rfl

namespace Token

/-- An expression that can stand wherever one is missing. -/
def anyOperand : Token := ⟨.keyword .nil, "nil", none, 1, ⟨0, 0⟩⟩

/-- The token that closes what is open. -/
def anyClosing : Token := ⟨.rightParen, ")", none, 1, ⟨0, 0⟩⟩

end Token

namespace Grammar

open Reckoner.Expr

-- ---------------------------------------------------------------------------
-- Fronts of expressions
-- ---------------------------------------------------------------------------

/-- Some list that starts with these tokens is accepted. -/
def Viable (ts : List Token) : Prop := ∃ us e, parse (ts ++ us) = .ok e

/-- The tokens end with so many arguments of a call that is not closed. -/
inductive BehindArguments (count : Nat) : List Token → Prop
  | intro {front ts us : List Token} {t : Token} {f : Expr} {args : List Expr}
      (hf : Derives .call ts f) (ht : t.kind = .leftParen) (hargs : Arguments us args)
      (hcount : args.length = count) : BehindArguments count (front ++ (ts ++ t :: us))

theorem BehindArguments.behind {count : Nat} {us : List Token} (h : BehindArguments count us)
    (ts : List Token) (t : Token) : BehindArguments count (ts ++ t :: us) := by
  obtain @⟨front, _, _, _, _, _, hf, hopening, hargs, hcount⟩ := h
  have hbehind : BehindArguments count ((ts ++ t :: front) ++ (_ ++ _ :: _)) :=
    .intro hf hopening hargs hcount
  rwa [List.append_assoc] at hbehind

theorem Operator.ne_endOfInput {l : Level} {k : TokenKind} {c : Connective}
    (h : Operator l k c) : k ≠ .endOfInput := by
  cases h <;> decide

theorem Sign.ne_endOfInput {k : TokenKind} {op : UnaryOp} (h : Sign k op) : k ≠ .endOfInput := by
  cases h <;> decide

theorem Atom.ne_endOfInput {t : Token} {e : Expr} (h : Atom t e) : t.kind ≠ .endOfInput := by
  cases h <;> simp [*]

mutual

/-- There is no end mark in an expression. -/
theorem Derives.unmarked {s : Category} {ts : List Token} {e : Expr} :
    Derives s ts e → ∀ t ∈ ts, t.kind ≠ .endOfInput
  | .expression h | .operand h | .unsigned h | .uncalled h => h.unmarked
  | .join ha ht hb => List.forall_mem_append.2
      ⟨ha.unmarked, List.forall_mem_cons.2 ⟨ht.ne_endOfInput, hb.unmarked⟩⟩
  | .sign ht h => List.forall_mem_cons.2 ⟨ht.ne_endOfInput, h.unmarked⟩
  | .apply hf ht hargs _ hu => List.forall_mem_append.2 ⟨hf.unmarked, List.forall_mem_cons.2
      ⟨by simp [ht], List.forall_mem_append.2 ⟨hargs.unmarked, by simp [hu]⟩⟩⟩
  | .atom h => List.forall_mem_singleton.2 h.ne_endOfInput
  | .group ht h hu => List.forall_mem_cons.2
      ⟨by simp [ht], List.forall_mem_append.2 ⟨h.unmarked, by simp [hu]⟩⟩

theorem Arguments.unmarked {us : List Token} {args : List Expr} :
    Arguments us args → ∀ t ∈ us, t.kind ≠ .endOfInput
  | .none => fun _ h => absurd h List.not_mem_nil
  | .one h => h.unmarked
  | .more h ht hs _ => List.forall_mem_append.2
      ⟨h.unmarked, List.forall_mem_cons.2 ⟨by simp [ht], hs.unmarked⟩⟩

end

/-- The front of an expression is the front of an accepted list. -/
theorem viable_of_derives {ts us : List Token} {e : Expr}
    (h : Derives .expression (ts ++ us) e) : Viable ts := by
  refine ⟨us, e, parse_eq_ok_iff.2 ?_⟩
  rwa [body_of_unmarked h.unmarked]

-- ---------------------------------------------------------------------------
-- Going on
-- ---------------------------------------------------------------------------

mutual

/-- **Where an expression breaks off, it can also go on to an end.** -/
theorem Breaks.continued {s : Category} {ts : List Token} {stop : Option Token}
    {fault : ParseFault} : Breaks s ts stop fault → ∃ us e, Derives s (ts ++ us) e
  | .expression h => by
    obtain ⟨us, e, hd⟩ := h.continued
    exact ⟨us, e, .expression hd⟩
  | .operand h => by
    obtain ⟨us, e, hd⟩ := h.continued
    exact ⟨us, e, .operand hd⟩
  | .join ha ht hb => by
    obtain ⟨us, e, hd⟩ := hb.continued
    exact ⟨us, _, by rw [List.append_assoc]; exact .join ha ht hd⟩
  | .sign ht h => by
    obtain ⟨us, e, hd⟩ := h.continued
    exact ⟨us, _, .sign ht hd⟩
  | .unsigned h => by
    obtain ⟨us, e, hd⟩ := h.continued
    exact ⟨us, e, .unsigned hd⟩
  | .apply hf ht _ hargs => by
    obtain ⟨us, args, hd, -, hmax⟩ := hargs.continued
    have hcall := Derives.apply (u := .anyClosing) hf ht hd (by omega) rfl
    exact ⟨us ++ [.anyClosing], _, by simpa using hcall⟩
  | .uncalled h => by
    obtain ⟨us, e, hd⟩ := h.continued
    exact ⟨us, e, .uncalled hd⟩
  | .missing _ => ⟨[.anyOperand], _, .atom (.nil rfl)⟩
  | .group ht h => by
    obtain ⟨us, e, hd⟩ := h.continued
    have hgroup := Derives.group (u := .anyClosing) ht hd rfl
    exact ⟨us ++ [.anyClosing], _, by simpa using hgroup⟩
  | .unclosed ht h _ _ => ⟨[.anyClosing], _, .group ht h rfl⟩

theorem BreaksAmong.continued {count : Nat} {ts : List Token} {stop : Option Token}
    {fault : ParseFault} : BreaksAmong count ts stop fault →
      ∃ us args, Arguments (ts ++ us) args ∧ args ≠ [] ∧ count + args.length ≤ 8
  | .argument hcount h => by
    obtain ⟨us, e, hd⟩ := h.continued
    exact ⟨us, [e], .one hd, List.cons_ne_nil _ _, hcount⟩
  | @BreaksAmong.unclosed _ ts e _ hcount h _ _ =>
    ⟨[], [e], by rw [List.append_nil]; exact .one h, List.cons_ne_nil _ _, hcount⟩
  | @BreaksAmong.more _ _ _ _ e _ _ _ h ht hs => by
    obtain ⟨us, args, hd, hne, hmax⟩ := hs.continued
    refine ⟨us, e :: args, ?_, List.cons_ne_nil _ _, ?_⟩
    · rw [List.append_assoc]
      exact .more h ht hd hne
    · rw [List.length_cons]
      omega
  | @BreaksAmong.full ts _ e h _ =>
    ⟨[], [e], by rw [List.append_nil]; exact .one h, List.cons_ne_nil _ _, Nat.le_refl _⟩

end

/-- What stands in front of the first hopeless token of a list is the front of an accepted
list. -/
theorem Rejects.viable {ts : List Token} {stop : Option Token} {fault : ParseFault}
    (h : Rejects ts stop fault) : Viable ts := by
  cases h with
  | inside h =>
    obtain ⟨us, e, hd⟩ := h.continued
    exact viable_of_derives hd
  | behind h _ _ =>
    have hd : Derives .expression (ts ++ []) _ := (List.append_nil ts).symm ▸ h
    exact viable_of_derives hd

/-- With the token at which a list is rejected, or the end mark, no accepted list starts. -/
theorem Rejects.hopeless {ts rest : List Token} {z : Token} {fault : ParseFault}
    (h : Rejects ts rest.head? fault) (hts : ∀ t ∈ ts ++ rest, t.kind ≠ .endOfInput)
    (hz : z.kind = .endOfInput) : ¬ Viable (ts ++ [rest.headD z]) := by
  rintro ⟨us, e, he⟩
  obtain ⟨hfront, hrest⟩ := List.forall_mem_append.1 hts
  -- what is read of the longer list has the same token behind these
  obtain ⟨rest', hbody, hhead⟩ : ∃ rest', body (ts ++ [rest.headD z] ++ us) = ts ++ rest' ∧
      rest'.head? = rest.head? := by
    rw [List.append_assoc, List.singleton_append]
    cases rest with
    | nil => exact ⟨[], by rw [List.append_nil]; exact body_append_marked hfront hz us, rfl⟩
    | cons t rest =>
      refine ⟨t :: body us, ?_, rfl⟩
      have ht := hrest t (List.mem_cons_self ..)
      rw [body, List.takeWhile_append_of_pos (by simpa using hfront), List.headD_cons,
        List.takeWhile_cons_of_pos (by simpa using ht), body]
  have hok := ofTokens_eq_ok_iff.2 (parse_eq_ok_iff.1 he)
  rw [hbody] at hok
  have herror : ofTokens (ts ++ rest') = .error ⟨fault, fault.shown rest'⟩ :=
    ofTokens_eq_error_iff.2 ⟨ts, rest', rfl, rfl, hhead ▸ h⟩
  cases hok.symm.trans herror

-- ---------------------------------------------------------------------------
-- Calls that are full
-- ---------------------------------------------------------------------------

mutual

/-- A call with too many arguments breaks off at a comma behind the eighth. -/
theorem Breaks.behind_eighth {s : Category} {ts : List Token} {stop : Option Token}
    {fault : ParseFault} : Breaks s ts stop fault → fault = .tooManyArguments →
      (∃ t, stop = some t ∧ t.kind = .comma) ∧ BehindArguments 8 ts
  | .expression h | .operand h | .unsigned h | .uncalled h => h.behind_eighth
  | @Breaks.join _ ts _ t _ _ _ _ _ _ hb => fun hfault => by
    obtain ⟨hstop, hbehind⟩ := hb.behind_eighth hfault
    exact ⟨hstop, hbehind.behind ts t⟩
  | .sign (t := t) _ h | .group (t := t) _ h => fun hfault => by
    obtain ⟨hstop, hbehind⟩ := h.behind_eighth hfault
    exact ⟨hstop, hbehind.behind [] t⟩
  | @Breaks.apply ts _ t _ _ _ hf ht _ hargs => fun hfault => by
    obtain ⟨hstop, hbehind | ⟨args, hd, -, hcount⟩⟩ := hargs.behind_eighth hfault
    · exact ⟨hstop, hbehind.behind ts t⟩
    · rw [Nat.zero_add] at hcount
      have hcall : BehindArguments 8 ([] ++ (ts ++ t :: _)) := .intro hf ht hd hcount
      exact ⟨hstop, hcall⟩
  | .missing _ | .unclosed _ _ _ _ => nofun

/-- The comma is behind the eighth argument of this call, or of a call further inside. -/
theorem BreaksAmong.behind_eighth {count : Nat} {us : List Token} {stop : Option Token}
    {fault : ParseFault} : BreaksAmong count us stop fault → fault = .tooManyArguments →
      (∃ t, stop = some t ∧ t.kind = .comma) ∧
        (BehindArguments 8 us ∨ ∃ args, Arguments us args ∧ args ≠ [] ∧ count + args.length = 8)
  | .argument _ h => fun hfault => by
    obtain ⟨hstop, hbehind⟩ := h.behind_eighth hfault
    exact ⟨hstop, .inl hbehind⟩
  | @BreaksAmong.more _ ts _ t e _ _ _ h ht hs => fun hfault => by
    obtain ⟨hstop, hbehind | ⟨args, hd, hne, hcount⟩⟩ := hs.behind_eighth hfault
    · exact ⟨hstop, .inl (hbehind.behind ts t)⟩
    · refine ⟨hstop, .inr ⟨e :: args, .more h ht hd hne, List.cons_ne_nil _ _, ?_⟩⟩
      rw [List.length_cons]
      omega
  | .full (t := t) (e := e) h ht => fun _ =>
    ⟨⟨t, rfl, ht⟩, .inr ⟨[e], .one h, List.cons_ne_nil _ _, rfl⟩⟩
  | .unclosed _ _ _ _ => nofun

end

/-- A list with too many arguments is rejected at a comma behind the eighth. -/
theorem Rejects.behind_eighth {ts : List Token} {stop : Option Token} {fault : ParseFault}
    (h : Rejects ts stop fault) (hfault : fault = .tooManyArguments) :
    (∃ t, stop = some t ∧ t.kind = .comma) ∧ BehindArguments 8 ts := by
  cases h with
  | inside h => exact h.behind_eighth hfault
  | behind => cases hfault

-- ---------------------------------------------------------------------------
-- Diagnostics
-- ---------------------------------------------------------------------------

/-- The token behind the first ones of a list with an end mark may be that mark. -/
theorem append_mark_eq (xs rest : List Token) (z : Token) :
    xs ++ rest ++ [z] = xs ++ rest.headD z :: (rest ++ [z]).tail := by
  cases rest <;> simp

/-- A diagnostic is about the token at which the fault shows, or about the end mark. -/
theorem diagnose_place {e : ParseError} {rest : List Token} (h : e.remaining = rest)
    (z : Token) : (e.diagnose z).line = some (rest.headD z).line ∧
      (e.diagnose z).span = some (rest.headD z).span := by
  subst h
  exact ⟨rfl, rfl⟩

/-- **A list is refused at its first hopeless token.** A list that ends with its only end mark
and is refused gets a diagnostic about the place of one of its tokens. Unless a call has too many
arguments, what stands in front of that token can go on to an accepted list, and with that token
it cannot. If a call has too many arguments, then the token in front is a comma behind the eighth
argument of a call that is not closed; what stands in front of the comma can go on to an accepted
list, and with the comma it cannot, whatever the token behind it is. -/
theorem parse_fails_at_first_hopeless (ts : List Token) (z : Token) (d : Diagnostic)
    (hts : ∀ t ∈ ts, t.kind ≠ .endOfInput) (hz : z.kind = .endOfInput)
    (h : parse (ts ++ [z]) = .error d) :
    d.stage = .syntactic ∧ ∃ before t after, ts ++ [z] = before ++ t :: after ∧
      d.line = some t.line ∧ d.span = some t.span ∧
      (d.message ≠ "too many arguments: a call accepts at most 8" →
        Viable before ∧ ¬ Viable (before ++ [t])) ∧
      (d.message = "too many arguments: a call accepts at most 8" →
        ∃ front comma, before = front ++ [comma] ∧ comma.kind = .comma ∧
          BehindArguments 8 front ∧ Viable front ∧ ¬ Viable (front ++ [comma])) := by
  obtain ⟨e, he, rfl⟩ := parse_eq_error_iff.1 h
  rw [body_append_marked hts hz] at he
  rw [endMark_append_marked hts hz]
  obtain ⟨xs, rest, rfl, hshown, hrejects⟩ := ofTokens_eq_error_iff.1 he
  have hviable := hrejects.viable
  have hhopeless := hrejects.hopeless hts hz
  refine ⟨rfl, ?_⟩
  by_cases hfault : e.fault = .tooManyArguments
  · -- the fault shows behind the comma
    have hmessage := ParseError.message_eq_iff.2 hfault
    obtain ⟨⟨comma, hstop, hcomma⟩, hbehind⟩ := hrejects.behind_eighth hfault
    obtain ⟨rest, rfl⟩ := List.head?_eq_some_iff.1 hstop
    rw [hfault] at hshown
    obtain ⟨hline, hspan⟩ := diagnose_place hshown z
    have hsplit := append_mark_eq (xs ++ [comma]) rest z
    rw [List.append_assoc xs] at hsplit
    exact ⟨xs ++ [comma], rest.headD z, (rest ++ [z]).tail, hsplit, hline, hspan,
      fun hne => absurd hmessage hne,
      fun _ => ⟨xs, comma, rfl, hcomma, hbehind, hviable, hhopeless⟩⟩
  · have hmessage := fun heq => hfault (ParseError.message_eq_iff.1 heq)
    have hremaining : e.remaining = rest := by
      rw [hshown]
      cases hf : e.fault <;> first | rfl | exact absurd hf hfault
    obtain ⟨hline, hspan⟩ := diagnose_place hremaining z
    exact ⟨xs, rest.headD z, (rest ++ [z]).tail, append_mark_eq xs rest z, hline, hspan,
      fun _ => ⟨hviable, hhopeless⟩, fun heq => absurd heq hmessage⟩

/-- Nine arguments, the ninth of which is a bracket on the second line: the diagnostic is about
the bracket, and hope is lost at the comma in front of it. -/
theorem parse_fails_at_first_hopeless_ninth :
    let name : Token := ⟨.identifier, "f", none, 1, ⟨0, 1⟩⟩
    let opening : Token := ⟨.leftParen, "(", none, 1, ⟨1, 2⟩⟩
    let comma : Token := ⟨.comma, ",", none, 1, ⟨3, 4⟩⟩
    let bracket : Token := ⟨.leftBracket, "[", none, 2, ⟨5, 6⟩⟩
    let ts := [name, opening, name, comma, name, comma, name, comma, name, comma, name, comma,
      name, comma, name, comma, name, comma, bracket]
    let z := Token.endMark 2 6
    let d : Diagnostic :=
      { stage := .syntactic, message := "too many arguments: a call accepts at most 8"
        line := some 2, span := some ⟨5, 6⟩ }
    (∀ t ∈ ts, t.kind ≠ .endOfInput) ∧ z.kind = .endOfInput ∧ parse (ts ++ [z]) = .error d ∧
      ∃ front last after, ts ++ [z] = front ++ last :: after ∧ last.kind = .comma ∧
        BehindArguments 8 front ∧ Viable front ∧ ¬ Viable (front ++ [last]) := by
  intro name opening comma bracket ts z d
  have hname : Derives .primary [name] (.var "f" ⟨⟨0, 1⟩, 1⟩) := .atom (t := name) (.identifier rfl)
  have more {count : Nat} {us : List Token} (hcount : count < 8)
      (h : BreaksAmong (count + 1) us (some comma) .tooManyArguments) :
      BreaksAmong count (name :: comma :: us) (some comma) .tooManyArguments :=
    .more hcount hname.toExpression rfl h
  have hargs : BreaksAmong 0 (ts.drop 2 |>.take 15) (some comma) .tooManyArguments :=
    more (by decide) (more (by decide) (more (by decide) (more (by decide) (more (by decide)
      (more (by decide) (more (by decide) (.full hname.toExpression rfl)))))))
  have hcall : Breaks .call (ts.take 17) (some comma) .tooManyArguments :=
    .apply (t := opening) (.uncalled hname) rfl (by simp [name]) hargs
  have hbreaks : Breaks .expression (ts.take 17) (some comma) .tooManyArguments :=
    .ofUnary (.unsigned hcall)
  have hfails : parse (ts ++ [z]) = .error d :=
    parse_eq_error_iff.2 ⟨⟨.tooManyArguments, [bracket]⟩,
      ofTokens_eq_error_iff.2 ⟨ts.take 17, [comma, bracket], rfl, rfl, .inside hbreaks⟩, rfl⟩
  have hts : ∀ t ∈ ts, t.kind ≠ .endOfInput := by decide
  obtain ⟨-, before, t, after, hsplit, -, -, -, hfull⟩ :=
    parse_fails_at_first_hopeless ts z d hts rfl hfails
  obtain ⟨front, last, rfl, hlast, hbehind, hviable, hhopeless⟩ := hfull rfl
  rw [List.append_assoc] at hsplit
  exact ⟨hts, rfl, hfails, front, last, t :: after, hsplit, hlast, hbehind, hviable, hhopeless⟩

end Grammar

end Reckoner
