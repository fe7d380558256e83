import Reckoner.Proofs.Grammar.Derivation
import Reckoner.Proofs.Grammar.Soundness

/-!
# Reckoner — what derives is read

Every derivation is found by the reader of its category, whatever stands behind the
tokens it derives from, as long as that cannot go on with the expression (`Ends`).

A reader of a repetition cannot be said to stop behind a derivation: it goes on while
it can. What is proved of it instead is that it arrives there (`Completes`): reading
the tokens from the front comes to the same as going on with the repetition behind
the derived tree.
-/

namespace Reckoner.Grammar

open Reckoner.Expr

-- ---------------------------------------------------------------------------
-- Where an expression ends
-- ---------------------------------------------------------------------------

/-- No call goes on with these tokens, and no operator of less than a given height
stands at their front. -/
def Ends (height : Nat) (rest : List Token) : Prop :=
  ∀ t us, rest = t :: us → t.kind ≠ .leftParen ∧ ∀ l c, Operator l t.kind c → height ≤ l.height

/-- Behind the last token everything ends. -/
theorem Ends.nil (height : Nat) : Ends height [] :=
  fun _ _ h => absurd h.symm (List.cons_ne_nil _ _)

/-- What ends operands of one height ends those of a lower one. -/
theorem Ends.mono {m n : Nat} {rest : List Token} (h : Ends n rest) (hmn : m ≤ n) :
    Ends m rest :=
  fun t us hr => ⟨(h t us hr).1, fun l c ho => Nat.le_trans hmn ((h t us hr).2 l c ho)⟩

/-- Everything ends in front of a token that separates or closes. -/
theorem Ends.of_kind {t : Token} {us : List Token} (height : Nat)
    (hk : t.kind = .comma ∨ t.kind = .rightParen) : Ends height (t :: us) := by
  rintro t' us' ⟨⟩
  rcases hk with hk | hk <;> rw [hk] <;> exact ⟨by decide, fun _ _ h => nomatch h⟩

/-- An operand of an operator ends in front of it. -/
theorem Operator.ends {l : Level} {t : Token} {c : Connective} (h : Operator l t.kind c)
    (us : List Token) : Ends l.height (t :: us) := by
  rintro t' us' ⟨⟩
  refine ⟨fun ht => ?_, fun l' c' h' => ?_⟩
  · rw [ht] at h
    cases h
  · obtain ⟨hc, rfl⟩ := operator_iff.1 h
    obtain ⟨hc', rfl⟩ := operator_iff.1 h'
    obtain rfl := Option.some.inj (hc.symm.trans hc')
    exact Nat.le_refl _

-- ---------------------------------------------------------------------------
-- Single steps of the readers
-- ---------------------------------------------------------------------------

section

variable {all : List Token}

/-- A reader that answers with a tree and the tokens behind it. -/
def Answers (r : Reading Expr all) (e : Expr) (rest : List Token) : Prop :=
  ∃ p, r = .ok p ∧ p.value = e ∧ p.rest = rest

/-- A chain that ends is complete. -/
theorem parseChain_done {l : Level} {p : Parsed Expr all} (h : Ends (l.height + 1) p.rest) :
    parseChain l p = .ok p := by
  rw [parseChain]
  split
  · rfl
  · next t rest hrest =>
    split
    · rfl
    · next c hc =>
      split
      · next hl =>
        -- an operator of this very level cannot follow
        have := (h t rest hrest).2 _ _ (operator_iff.2 ⟨hc, hl⟩)
        omega
      · rfl

/-- One turn of a chain of operators. -/
theorem parseChain_join {l : Level} {p : Parsed Expr all} {t : Token} {us : List Token}
    {c : Connective} {b : Expr} {rest : List Token} (hp : p.rest = t :: us)
    (ht : Operator l t.kind c) (hb : Answers (parseOperand l us) b rest) :
    ∃ q : Parsed Expr all, q.value = join c p.value b ∧ q.rest = rest ∧
      parseChain l p = parseChain l q := by
  obtain ⟨r, hr, rfl, rfl⟩ := hb
  obtain ⟨hc, hl⟩ := operator_iff.1 ht
  obtain ⟨a, rest, hshort⟩ := p
  obtain rfl : rest = t :: us := hp
  refine ⟨⟨join c a r.value, r.rest, ?_⟩, rfl, rfl, ?_⟩
  · have := r.shorter
    simp only [List.length_cons] at hshort
    omega
  · rw [parseChain]
    simp only [hc, hl, hr, if_true]
    rfl

/-- So are calls, in front of anything but a parenthesis that opens. -/
theorem parseCalls_done {p : Parsed Expr all}
    (h : ∀ t us, p.rest = t :: us → t.kind ≠ .leftParen) : parseCalls p = .ok p := by
  rw [parseCalls]
  split
  · rfl
  · next t rest hrest => rw [if_neg (h t rest hrest)]

/-- A single token as a callee. -/
theorem parseUnary_atom {t : Token} {e : Expr} (h : Atom t e) (rest : List Token) :
    ∃ p : Parsed Expr (t :: rest), p.value = e ∧ p.rest = rest ∧
      parseUnary (t :: rest) = parseCalls p := by
  have ht : UnaryOp.ofKind? t.kind = none ∧ t.kind ≠ .leftParen := by
    cases h <;> simp [UnaryOp.ofKind?, *]
  refine ⟨⟨e, rest, by simp⟩, rfl, rfl, ?_⟩
  rw [parseUnary]
  simp only [ht.1, parsePrimary, if_neg ht.2, atom_iff.1 h]

/-- An expression in parentheses as a callee. -/
theorem parseUnary_group {t u : Token} {us rest : List Token} {e : Expr}
    (ht : t.kind = .leftParen) (he : Answers (parseLevel .or us) e (u :: rest))
    (hu : u.kind = .rightParen) :
    ∃ p : Parsed Expr (t :: us), p.value = parenthesize t u e ∧ p.rest = rest ∧
      parseUnary (t :: us) = parseCalls p := by
  obtain ⟨⟨inner, behind, hshort⟩, hread, rfl, hp⟩ := he
  obtain rfl : behind = u :: rest := hp
  refine ⟨⟨parenthesize t u inner, rest, ?_⟩, rfl, rfl, ?_⟩
  · simp only [List.length_cons] at hshort ⊢
    omega
  · rw [parseUnary]
    simp only [ht, UnaryOp.ofKind?, parsePrimary, hread, hu, if_true]

/-- One call in a chain of calls. -/
theorem parseCalls_apply {p : Parsed Expr all} {t : Token} {us : List Token}
    {q : Parsed (List Expr × Token) us} (hp : p.rest = t :: us) (ht : t.kind = .leftParen)
    (hq : parseArguments us = .ok q) :
    ∃ r : Parsed Expr all, r.value = applyCall p.value q.value.1 q.value.2 ∧ r.rest = q.rest ∧
      parseCalls p = parseCalls r := by
  obtain ⟨f, rest, hshort⟩ := p
  obtain rfl : rest = t :: us := hp
  refine ⟨⟨applyCall f q.value.1 q.value.2, q.rest, ?_⟩, rfl, rfl, ?_⟩
  · have := q.shorter
    simp only [List.length_cons] at hshort
    omega
  · rw [parseCalls]
    simp only [ht, hq, if_true]
    rfl

/-- The last argument of a call. -/
theorem parseArgument_one {count : Nat} {e : Expr} {u : Token} {rest : List Token}
    (hcount : count < maxArguments) (he : Answers (parseLevel .or all) e (u :: rest))
    (hu : u.kind = .rightParen) :
    ∃ p, parseArgument count all = .ok p ∧ p.value = ([e], u) ∧ p.rest = rest := by
  obtain ⟨⟨value, behind, hshort⟩, hq, rfl, hrest⟩ := he
  obtain rfl : behind = u :: rest := hrest
  rw [parseArgument, if_neg (Nat.not_le.2 hcount)]
  simp only [hq, hu, if_true]
  exact ⟨_, rfl, rfl, rfl⟩

/-- An argument of a call that has more behind it. -/
theorem parseArgument_more {count : Nat} {e : Expr} {t : Token} {us : List Token}
    {q : Parsed (List Expr × Token) us} (hcount : count < maxArguments)
    (he : Answers (parseLevel .or all) e (t :: us)) (ht : t.kind = .comma)
    (hq : parseArgument (count + 1) us = .ok q) :
    ∃ p, parseArgument count all = .ok p ∧ p.value = (e :: q.value.1, q.value.2) ∧
      p.rest = q.rest := by
  obtain ⟨⟨value, behind, hshort⟩, hp, rfl, hrest⟩ := he
  obtain rfl : behind = t :: us := hrest
  rw [parseArgument, if_neg (Nat.not_le.2 hcount)]
  simp only [hp, ht, hq, if_true]
  exact ⟨_, rfl, rfl, rfl⟩

end

/-- No argument starts with a closing parenthesis. -/
theorem Arguments.first {us : List Token} {args : List Expr} :
    Arguments us args → args ≠ [] → ∃ t vs, us = t :: vs ∧ t.kind ≠ .rightParen
  | .none, hne => absurd rfl hne
  | .one h, _ => by
    obtain ⟨t, vs, hts, -, hkind⟩ := h.first
    exact ⟨t, vs, hts, hkind⟩
  | .more h _ _ _, _ => by
    obtain ⟨t, vs, rfl, -, hkind⟩ := h.first
    exact ⟨t, _, rfl, hkind⟩

/-- The arguments of a call, once those of a call that has some are read. -/
theorem parseArguments_of_parseArgument {us : List Token} {args : List Expr} {u : Token}
    (h : Arguments us args) (hu : u.kind = .rightParen) (rest : List Token)
    (hread : args ≠ [] → ∃ p : Parsed _ (us ++ u :: rest),
      parseArgument 0 (us ++ u :: rest) = .ok p ∧ p.value = (args, u) ∧ p.rest = rest) :
    ∃ p : Parsed _ (us ++ u :: rest),
      parseArguments (us ++ u :: rest) = .ok p ∧ p.value = (args, u) ∧ p.rest = rest := by
  by_cases hne : args = []
  · subst hne
    cases h
    rw [List.nil_append, parseArguments, if_pos hu]
    exact ⟨_, rfl, rfl, rfl⟩
  · have hread := hread hne
    obtain ⟨t, vs, rfl, hkind⟩ := h.first hne
    rwa [List.cons_append, parseArguments, if_neg hkind]

-- ---------------------------------------------------------------------------
-- Derivations are found
-- ---------------------------------------------------------------------------

/-- What the reader of a category makes of a derivation and of what stands behind it. -/
def Completes : Category → List Token → Expr → Prop
  | .expression, ts, e => ∀ all rest, all = ts ++ rest → Ends 7 rest →
      Answers (parseLevel .or all) e rest
  | .level l, ts, e => ∀ all rest, all = ts ++ rest → Ends l.height rest →
      ∃ p : Parsed Expr all, p.value = e ∧ p.rest = rest ∧ parseLevel l all = parseChain l p
  | .unary, ts, e => ∀ all rest, all = ts ++ rest → Ends 1 rest →
      Answers (parseUnary all) e rest
  | .call, ts, e | .primary, ts, e => ∀ all rest, all = ts ++ rest →
      ∃ p : Parsed Expr all, p.value = e ∧ p.rest = rest ∧ parseUnary all = parseCalls p

/-- A chain of operators ends where none of them and nothing tighter follows. -/
theorem Completes.level {l : Level} {ts rest : List Token} {e : Expr}
    (h : Completes (.level l) ts e) (hrest : Ends (l.height + 1) rest) :
    Answers (parseLevel l (ts ++ rest)) e rest := by
  obtain ⟨p, rfl, hp, hread⟩ := h _ rest rfl (hrest.mono (Nat.le_succ _))
  exact ⟨p, hread.trans (parseChain_done (by rwa [hp])), rfl, hp⟩

/-- An operand that is complete is what the reader of operands answers with. -/
theorem Completes.operand {l : Level} {ts rest : List Token} {e : Expr}
    (h : Completes (operandOf l) ts e) (hrest : Ends l.height rest) :
    Answers (parseOperand l (ts ++ rest)) e rest := by
  rw [parseOperand]
  split
  · next tighter hl =>
    have hheight : tighter.height + 1 = l.height := by cases l <;> cases hl <;> rfl
    rw [operandOf_eq_level hl] at h
    exact h.level (hheight ▸ hrest)
  · next hl =>
    have hheight : 1 = l.height := by
      cases l <;> cases hl
      rfl
    rw [operandOf_eq_unary hl] at h
    exact h _ rest rfl (hheight ▸ hrest)

mutual

theorem Derives.completes {s : Category} {ts : List Token} {e : Expr} :
    Derives s ts e → Completes s ts e
  | .expression h => by
    rintro all rest rfl hrest
    exact Completes.level h.completes hrest
  | .operand h => by
    rintro all rest rfl hrest
    obtain ⟨p, hread, rfl, hp⟩ := Completes.operand h.completes hrest
    exact ⟨p, rfl, hp, by rw [parseLevel, hread]⟩
  | @Derives.join l ts us t a b c ha ht hb => by
    rintro all rest rfl hrest
    -- the reader of the level arrives behind the left operand, and takes one more turn
    obtain ⟨p, rfl, hp, hread⟩ :=
      ha.completes (ts ++ t :: us ++ rest) (t :: (us ++ rest)) (by simp) (ht.ends _)
    obtain ⟨q, hq, hqrest, hstep⟩ := parseChain_join hp ht (Completes.operand hb.completes hrest)
    exact ⟨q, hq, hqrest, hread.trans hstep⟩
  | @Derives.sign ts t e op ht h => by
    rintro all rest rfl hrest
    obtain ⟨p, hread, rfl, hp⟩ := h.completes _ rest rfl hrest
    rw [List.cons_append, parseUnary]
    simp only [sign_iff.1 ht, hread]
    exact ⟨_, rfl, rfl, hp⟩
  | .unsigned h => by
    rintro all rest rfl hrest
    obtain ⟨p, rfl, hp, hread⟩ := h.completes _ rest rfl
    exact ⟨p, hread.trans (parseCalls_done fun t us hr => (hrest t us (hp.symm.trans hr)).1),
      rfl, hp⟩
  | @Derives.apply ts us t u f args hf ht hargs hmax hu => by
    rintro all rest rfl
    obtain ⟨p, rfl, hp, hread⟩ :=
      hf.completes (ts ++ t :: (us ++ [u]) ++ rest) (t :: (us ++ u :: rest)) (by simp)
    obtain ⟨q, hq, hqv, hqrest⟩ := parseArguments_of_parseArgument hargs hu rest fun hne =>
      hargs.completes hne hu 0 rest _ rfl (by simpa [maxArguments] using hmax)
    obtain ⟨r, hr, hrrest, hstep⟩ := parseCalls_apply hp ht hq
    exact ⟨r, by rw [hr, hqv], hrrest.trans hqrest, hread.trans hstep⟩
  | .uncalled h => h.completes
  | @Derives.atom t e h => by
    rintro all rest rfl
    exact parseUnary_atom h rest
  | @Derives.group ts t u e ht h hu => by
    rintro all rest hall
    obtain rfl : all = t :: (ts ++ u :: rest) := by simpa using hall
    exact parseUnary_group ht (h.completes _ _ rfl (.of_kind 7 (.inr hu))) hu

theorem Arguments.completes {us : List Token} {args : List Expr} {u : Token} :
    Arguments us args → args ≠ [] → u.kind = .rightParen → ∀ count rest all,
      all = us ++ u :: rest → count + args.length ≤ maxArguments →
        ∃ p : Parsed _ all, parseArgument count all = .ok p ∧ p.value = (args, u) ∧ p.rest = rest
  | .none, hne, _ => absurd rfl hne
  | .one h, _, hu => by
    rintro count rest all rfl hmax
    exact parseArgument_one hmax (h.completes _ _ rfl (.of_kind 7 (.inr hu))) hu
  | @Arguments.more ts us t e es h ht hs hne, _, hu => by
    rintro count rest all hall hmax
    obtain rfl : all = ts ++ t :: (us ++ u :: rest) := by simpa using hall
    rw [List.length_cons] at hmax
    obtain ⟨q, hq, hqv, hqrest⟩ := hs.completes hne hu (count + 1) rest _ rfl (by omega)
    obtain ⟨p, hp, hpv, hprest⟩ := parseArgument_more (by omega)
      (h.completes _ _ rfl (.of_kind 7 (.inl ht))) ht hq
    exact ⟨p, hp, by rw [hpv, hqv], hprest.trans hqrest⟩

end

end Reckoner.Grammar
