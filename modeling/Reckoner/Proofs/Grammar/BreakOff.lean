import Reckoner.Proofs.Grammar.Acceptance

/-!
# Reckoner — where expressions break off

An expression **breaks off** behind some tokens (`Breaks`) when these are the front of an
expression, and the token that comes next, or the end of the list, cannot go on with it. Like
the grammar this is said without reading anything: there is one case for every place in a rule
of the grammar at which the rest of the rule may be missing.

The token that cannot go on is where a fault shows, with one exception. A call is full with its
last argument, so that a comma behind that one cannot go on; but the fault shows behind the
comma (`ParseFault.shown`).

Main results:

* `parseLevel_ends` — a reader leaves only what cannot go on with what it has read;
* `parseLevel_breaks` — where a reader fails, an expression breaks off. There is one lemma for
  each reader, and the lemmas call each other as the readers do.
-/

namespace Reckoner

/-- The tokens from the one on at which a fault shows, among those from the one on that cannot
go on. -/
def ParseFault.shown : ParseFault → List Token → List Token
  | .tooManyArguments, rest => rest.tail
  | _, rest => rest

namespace Grammar

open Reckoner.Expr

-- ---------------------------------------------------------------------------
-- Breaking off
-- ---------------------------------------------------------------------------

/-- An expression may start with this token. -/
def StartsOperand (t : Token) : Prop :=
  (∃ op, Sign t.kind op) ∨ t.kind = .leftParen ∨ ∃ e, Atom t e

mutual

/-- An expression of a category breaks off behind some tokens, at a token or at the end. -/
inductive Breaks : Category → List Token → Option Token → ParseFault → Prop
  | expression {ts : List Token} {stop : Option Token} {fault : ParseFault}
      (h : Breaks (.level .or) ts stop fault) : Breaks .expression ts stop fault
  | operand {l : Level} {ts : List Token} {stop : Option Token} {fault : ParseFault}
      (h : Breaks (operandOf l) ts stop fault) : Breaks (.level l) ts stop fault
  | join {l : Level} {ts us : List Token} {t : Token} {a : Expr} {c : Connective}
      {stop : Option Token} {fault : ParseFault} (ha : Derives (.level l) ts a)
      (ht : Operator l t.kind c) (hb : Breaks (operandOf l) us stop fault) :
      Breaks (.level l) (ts ++ t :: us) stop fault
  | sign {ts : List Token} {t : Token} {op : UnaryOp} {stop : Option Token} {fault : ParseFault}
      (ht : Sign t.kind op) (h : Breaks .unary ts stop fault) : Breaks .unary (t :: ts) stop fault
  | unsigned {ts : List Token} {stop : Option Token} {fault : ParseFault}
      (h : Breaks .call ts stop fault) : Breaks .unary ts stop fault
  /-- A call that is closed at once has no arguments that could break off. -/
  | apply {ts us : List Token} {t : Token} {f : Expr} {stop : Option Token} {fault : ParseFault}
      (hf : Derives .call ts f) (ht : t.kind = .leftParen)
      (hopen : ∀ u ∈ (us ++ stop.toList).head?, u.kind ≠ .rightParen)
      (hargs : BreaksAmong 0 us stop fault) : Breaks .call (ts ++ t :: us) stop fault
  | uncalled {ts : List Token} {stop : Option Token} {fault : ParseFault}
      (h : Breaks .primary ts stop fault) : Breaks .call ts stop fault
  | missing {stop : Option Token} (hstop : ∀ t ∈ stop, ¬ StartsOperand t) :
      Breaks .primary [] stop .operand
  | group {ts : List Token} {t : Token} {stop : Option Token} {fault : ParseFault}
      (ht : t.kind = .leftParen) (h : Breaks .expression ts stop fault) :
      Breaks .primary (t :: ts) stop fault
  | unclosed {ts : List Token} {t : Token} {e : Expr} {stop : Option Token}
      (ht : t.kind = .leftParen) (h : Derives .expression ts e) (hends : Ends 7 stop.toList)
      (hstop : ∀ u ∈ stop, u.kind ≠ .rightParen) : Breaks .primary (t :: ts) stop .closingGroup

/-- The arguments of a call break off, where so many stand in front of these. -/
inductive BreaksAmong : Nat → List Token → Option Token → ParseFault → Prop
  | argument {count : Nat} {ts : List Token} {stop : Option Token} {fault : ParseFault}
      (hcount : count < 8) (h : Breaks .expression ts stop fault) :
      BreaksAmong count ts stop fault
  | unclosed {count : Nat} {ts : List Token} {e : Expr} {stop : Option Token}
      (hcount : count < 8) (h : Derives .expression ts e) (hends : Ends 7 stop.toList)
      (hstop : ∀ u ∈ stop, u.kind ≠ .comma ∧ u.kind ≠ .rightParen) :
      BreaksAmong count ts stop .closingCall
  | more {count : Nat} {ts us : List Token} {t : Token} {e : Expr} {stop : Option Token}
      {fault : ParseFault} (hcount : count < 8) (h : Derives .expression ts e)
      (ht : t.kind = .comma) (hs : BreaksAmong (count + 1) us stop fault) :
      BreaksAmong count (ts ++ t :: us) stop fault
  | full {ts : List Token} {t : Token} {e : Expr} (h : Derives .expression ts e)
      (ht : t.kind = .comma) : BreaksAmong 7 ts (some t) .tooManyArguments

end

/-- Where a unary expression breaks off, an expression does. -/
theorem Breaks.ofUnary {ts : List Token} {stop : Option Token} {fault : ParseFault}
    (h : Breaks .unary ts stop fault) : Breaks .expression ts stop fault :=
  have hterm : Breaks (.level .term) ts stop fault :=
    .operand (l := .term) (.operand (l := .factor) h)
  have hequality : Breaks (.level .equality) ts stop fault :=
    .operand (l := .equality) (.operand (l := .comparison) hterm)
  .expression (.operand (l := .or) (.operand (l := .and) hequality))

/-- Only the first token decides whether an expression ends in front of it. -/
theorem ends_head {height : Nat} {rest : List Token} :
    Ends height rest.head?.toList ↔ Ends height rest := by
  cases rest with
  | nil => exact Iff.rfl
  | cons t us =>
    constructor
    · rintro h t' us' ⟨⟩
      exact h t [] rfl
    · rintro h t' us' ⟨⟩
      exact h t us rfl

/-- The token that comes next is all that is seen of the others. -/
theorem head?_append_head? (us rest : List Token) :
    (us ++ rest.head?.toList).head? = (us ++ rest).head? := by
  cases us with
  | nil => cases rest <;> rfl
  | cons => rfl

-- ---------------------------------------------------------------------------
-- What readers leave
-- ---------------------------------------------------------------------------

/-- Levels are told apart by their heights. -/
theorem height_injective {l l' : Level} (h : l.height = l'.height) : l = l' := by
  cases l <;> cases l' <;> first | rfl | cases h

/-- The next tighter level is one step lower. -/
theorem height_of_tighter {l l' : Level} (h : l.tighter? = some l') :
    l'.height + 1 = l.height := by
  cases l <;> cases h <;> rfl

/-- A unary expression ends wherever it is not called. -/
theorem ends_one {rest : List Token} (h : ∀ t us, rest = t :: us → t.kind ≠ .leftParen) :
    Ends 1 rest :=
  fun t us hrest => ⟨h t us hrest, fun l _ _ => by cases l <;> decide⟩

/-- A chain of operators ends in front of a token that its operands end in front of and that
is none of its operators. -/
theorem ends_level {l : Level} {rest : List Token} (h : Ends l.height rest)
    (hnone : ∀ t us, rest = t :: us → ∀ c, ¬ Operator l t.kind c) :
    Ends (l.height + 1) rest := by
  intro t us hrest
  refine ⟨(h t us hrest).1, fun l' c ho => ?_⟩
  have hle := (h t us hrest).2 l' c ho
  have hne : l.height ≠ l'.height := by
    intro heq
    obtain rfl := height_injective heq
    exact hnone t us hrest c ho
  omega

/-- Calls are read as long as there are parentheses that open. -/
theorem parseCalls_leaves {ts : List Token} (callee p : Parsed Expr ts)
    (h : parseCalls callee = .ok p) : ∀ t us, p.rest = t :: us → t.kind ≠ .leftParen := by
  rw [parseCalls] at h
  split at h
  · next hrest =>
    cases h
    intro t us heq
    cases hrest.symm.trans heq
  · next t rest hrest =>
    split at h
    · split at h
      · cases h
      · next args _ =>
        have hlen : callee.rest.length = rest.length + 1 := by rw [hrest, List.length_cons]
        have := args.shorter
        exact parseCalls_leaves _ p h
    · next ht =>
      cases h
      intro t' us' heq
      cases hrest.symm.trans heq
      exact ht
termination_by callee.rest.length
decreasing_by simp only [Parsed.weaken]; omega

/-- A unary expression is read up to where it ends. -/
theorem parseUnary_ends (ts : List Token) (p : Parsed Expr ts) (h : parseUnary ts = .ok p) :
    Ends 1 p.rest := by
  cases ts with
  | nil =>
    rw [parseUnary] at h
    cases h
  | cons t rest =>
    rw [parseUnary] at h
    split at h
    · split at h
      · cases h
      · next operand hoperand =>
        cases h
        exact parseUnary_ends rest operand hoperand
    · split at h
      · cases h
      · next callee _ => exact ends_one (parseCalls_leaves callee p h)
termination_by ts.length

mutual

/-- A chain of a level is read up to where it ends. -/
theorem parseLevel_ends (l : Level) (ts : List Token) (p : Parsed Expr ts)
    (h : parseLevel l ts = .ok p) : Ends (l.height + 1) p.rest := by
  rw [parseLevel] at h
  split at h
  · cases h
  · next left hleft =>
    have := left.shorter
    exact parseChain_ends l left p h (parseOperand_ends l ts left hleft)
termination_by (ts.length, 2 * l.height + 4)
decreasing_by
  · exact Prod.Lex.right _ (by omega)
  · exact Prod.Lex.left _ _ (by omega)

/-- So is an operand of the level. -/
theorem parseOperand_ends (l : Level) (ts : List Token) (p : Parsed Expr ts)
    (h : parseOperand l ts = .ok p) : Ends l.height p.rest := by
  rw [parseOperand] at h
  split at h
  · next tighter hl =>
    have hheight := height_of_tighter hl
    rw [← hheight]
    exact parseLevel_ends tighter ts p h
  · next hl =>
    have hheight : l.height = 1 := by cases l <;> first | rfl | cases hl
    rw [hheight]
    exact parseUnary_ends ts p h
termination_by (ts.length, 2 * l.height + 3)
decreasing_by exact Prod.Lex.right _ (by omega)

/-- So is what stands behind the first operand. -/
theorem parseChain_ends {ts : List Token} (l : Level) (left p : Parsed Expr ts)
    (h : parseChain l left = .ok p) (hleft : Ends l.height left.rest) :
    Ends (l.height + 1) p.rest := by
  rw [parseChain] at h
  split at h
  · next hrest =>
    cases h
    rw [hrest]
    exact .nil _
  · next t rest hrest =>
    -- the chain is over where the next token is no operator of its level
    have hdone (hnone : ∀ c, ¬ Operator l t.kind c) : Ends (l.height + 1) left.rest := by
      refine ends_level hleft fun t' us' heq => ?_
      cases hrest.symm.trans heq
      exact hnone
    split at h
    · next hc =>
      cases h
      exact hdone fun c ho => nomatch hc.symm.trans (operator_iff.1 ho).1
    · next c hc =>
      split at h
      · next hl =>
        split at h
        · cases h
        · next right hright =>
          have hlen : left.rest.length = rest.length + 1 := by rw [hrest, List.length_cons]
          have := right.shorter
          exact parseChain_ends l _ p h (parseOperand_ends l rest right hright)
      · next hl =>
        cases h
        refine hdone fun c' ho => hl ?_
        obtain ⟨hc', hl'⟩ := operator_iff.1 ho
        cases hc.symm.trans hc'
        exact hl'
termination_by (left.rest.length, 0)
decreasing_by
  · exact Prod.Lex.left _ _ (by omega)
  · exact Prod.Lex.left _ _ (by simp only [Parsed.weaken]; omega)

end

-- ---------------------------------------------------------------------------
-- Readers fail where expressions break off
-- ---------------------------------------------------------------------------

/-- A fault in a list of tokens, behind the first of which something holds of those that come
next and of the kind of fault. -/
def FailsBehind (P : List Token → Option Token → ParseFault → Prop) (ts : List Token)
    (e : ParseError) : Prop :=
  ∃ xs rest, ts = xs ++ rest ∧ e.remaining = e.fault.shown rest ∧ P xs rest.head? e.fault

/-- A fault seen from further in front. -/
theorem FailsBehind.lift {P Q : List Token → Option Token → ParseFault → Prop}
    {us : List Token} {e : ParseError} (h : FailsBehind P us e) (front : List Token)
    (hup : ∀ xs stop, P xs stop e.fault → Q (front ++ xs) stop e.fault) :
    FailsBehind Q (front ++ us) e := by
  obtain ⟨xs, rest, rfl, hshown, hP⟩ := h
  exact ⟨front ++ xs, rest, (List.append_assoc ..).symm, hshown, hup xs _ hP⟩

/-- Nothing is read behind the last argument that a call may have. -/
theorem parseArgument_full (ts : List Token) :
    parseArgument maxArguments ts = .error ⟨.tooManyArguments, ts⟩ := by
  rw [parseArgument, if_pos (Nat.le_refl _)]

mutual

/-- Where a chain of a level cannot be read, one breaks off. -/
theorem parseLevel_breaks (l : Level) (ts : List Token) (e : ParseError)
    (h : parseLevel l ts = .error e) : FailsBehind (Breaks (.level l)) ts e := by
  rw [parseLevel] at h
  split at h
  · next e' he =>
    cases h
    exact (parseOperand_breaks l ts e he).lift [] fun _ _ => .operand
  · next left hleft =>
    have := left.shorter
    obtain ⟨xs, hxs, hd⟩ := parseOperand_sound l ts left hleft
    rw [hxs]
    exact (parseChain_breaks l left e h xs (.operand hd)).lift xs fun _ _ => id
termination_by (ts.length, 2 * l.height + 4)
decreasing_by
  · exact Prod.Lex.right _ (by omega)
  · exact Prod.Lex.left _ _ (by omega)

/-- The same for an operand of a level. -/
theorem parseOperand_breaks (l : Level) (ts : List Token) (e : ParseError)
    (h : parseOperand l ts = .error e) : FailsBehind (Breaks (operandOf l)) ts e := by
  rw [parseOperand] at h
  split at h
  · next tighter hl =>
    have := Level.height_tighter hl
    rw [operandOf_eq_level hl]
    exact parseLevel_breaks tighter ts e h
  · next hl =>
    rw [operandOf_eq_unary hl]
    exact parseUnary_breaks ts e h
termination_by (ts.length, 2 * l.height + 3)
decreasing_by
  · exact Prod.Lex.right _ (by omega)
  · exact Prod.Lex.right _ (by omega)

/-- Where a chain breaks off, from its first operand on. -/
theorem parseChain_breaks {ts : List Token} (l : Level) (left : Parsed Expr ts)
    (e : ParseError) (h : parseChain l left = .error e) (xs : List Token)
    (hd : Derives (.level l) xs left.value) :
    FailsBehind (fun ys => Breaks (.level l) (xs ++ ys)) left.rest e := by
  rw [parseChain] at h
  split at h
  · cases h
  · next t rest hrest =>
    split at h
    · cases h
    · next c hc =>
      split at h
      · next hl =>
        subst hl
        have hop : Operator c.level t.kind c := operator_iff.2 ⟨hc, rfl⟩
        have hlen : left.rest.length = rest.length + 1 := by rw [hrest, List.length_cons]
        rw [hrest]
        split at h
        · next e' he =>
          cases h
          exact (parseOperand_breaks c.level rest e he).lift [t] fun _ _ => .join hd hop
        · next right hright =>
          have := right.shorter
          obtain ⟨us, hus, hd'⟩ := parseOperand_sound c.level rest right hright
          rw [hus]
          refine (parseChain_breaks c.level _ e h (xs ++ t :: us) (.join hd hop hd')).lift
            (t :: us) fun ys stop hys => ?_
          rwa [List.append_assoc] at hys
      · cases h
termination_by (left.rest.length, 0)
decreasing_by
  · exact Prod.Lex.left _ _ (by omega)
  · exact Prod.Lex.left _ _ (by simp only [Parsed.weaken]; omega)

/-- The same for a term with signs in front of it. -/
theorem parseUnary_breaks (ts : List Token) (e : ParseError) (h : parseUnary ts = .error e) :
    FailsBehind (Breaks .unary) ts e := by
  match ts with
  | [] =>
    rw [parseUnary] at h
    cases h
    exact ⟨[], [], rfl, rfl, .unsigned (.uncalled (.missing nofun))⟩
  | t :: rest =>
    rw [parseUnary] at h
    split at h
    · next op hop =>
      split at h
      · next e' he =>
        cases h
        exact (parseUnary_breaks rest e he).lift [t] fun _ _ => .sign (sign_iff.2 hop)
      · cases h
    · next hsign =>
      split at h
      · next e' he =>
        cases h
        have hnosign : ∀ op, ¬ Sign t.kind op := fun op ho =>
          nomatch hsign.symm.trans (sign_iff.1 ho)
        exact (parsePrimary_breaks t rest e he hnosign).lift [] fun _ _ h =>
          .unsigned (.uncalled h)
      · next callee hcallee =>
        have := callee.shorter
        obtain ⟨xs, hxs, hd⟩ := parsePrimary_sound t rest callee hcallee
        rw [hxs]
        exact (parseCalls_breaks callee e h xs (.uncalled hd)).lift xs fun _ _ => .unsigned
termination_by (ts.length, 2)
decreasing_by
  · exact Prod.Lex.left _ _ (by simp)
  · exact Prod.Lex.right _ (by omega)
  · exact Prod.Lex.left _ _ (by omega)

/-- The same for what stands behind all signs: an atom, or an expression in parentheses. -/
theorem parsePrimary_breaks (t : Token) (ts : List Token) (e : ParseError)
    (h : parsePrimary t ts = .error e) (hsign : ∀ op, ¬ Sign t.kind op) :
    FailsBehind (Breaks .primary) (t :: ts) e := by
  rw [parsePrimary] at h
  split at h
  · next ht =>
    split at h
    · next e' he =>
      cases h
      exact (parseLevel_breaks .or ts e he).lift [t] fun _ _ h => .group ht (.expression h)
    · next inner hinner =>
      obtain ⟨xs, hxs, hd⟩ := parseLevel_sound .or ts inner hinner
      have hends := ends_head.2 (parseLevel_ends .or ts inner hinner)
      rw [hxs]
      split at h
      · next hrest =>
        cases h
        rw [hrest] at hends ⊢
        exact ⟨t :: xs, [], rfl, rfl, .unclosed ht (.expression hd) hends nofun⟩
      · next closing rest hrest =>
        split at h
        · cases h
        · next hclosing =>
          cases h
          rw [hrest] at hends ⊢
          refine ⟨t :: xs, closing :: rest, rfl, rfl, .unclosed ht (.expression hd) hends ?_⟩
          rintro u ⟨⟩
          exact hclosing
  · next ht =>
    split at h
    · cases h
    · next he =>
      cases h
      refine ⟨[], t :: ts, rfl, rfl, .missing ?_⟩
      rintro u ⟨⟩ (⟨op, hop⟩ | hparen | ⟨e, hatom⟩)
      · exact hsign op hop
      · exact ht hparen
      · exact nomatch he.symm.trans (atom_iff.1 hatom)
termination_by (ts.length + 1, 0)

/-- Where a chain of calls breaks off, from its callee on. -/
theorem parseCalls_breaks {ts : List Token} (callee : Parsed Expr ts) (e : ParseError)
    (h : parseCalls callee = .error e) (xs : List Token) (hd : Derives .call xs callee.value) :
    FailsBehind (fun ys => Breaks .call (xs ++ ys)) callee.rest e := by
  rw [parseCalls] at h
  split at h
  · cases h
  · next t rest hrest =>
    split at h
    · next ht =>
      have hlen : callee.rest.length = rest.length + 1 := by rw [hrest, List.length_cons]
      rw [hrest]
      split at h
      · next e' he =>
        cases h
        exact (parseArguments_breaks rest e he).lift [t] fun _ _ h => .apply hd ht h.1 h.2
      · next args hargs =>
        have := args.shorter
        obtain ⟨us, hus, hclosing, hd', hmax⟩ := parseArguments_sound rest args hargs
        have hsplit : t :: rest = t :: (us ++ [args.value.2]) ++ args.rest := by
          rw [List.cons_append, List.append_assoc]
          exact congrArg (t :: ·) hus
        rw [hsplit]
        refine (parseCalls_breaks _ e h _ (.apply hd ht hd' hmax hclosing)).lift
          (t :: (us ++ [args.value.2])) fun ys stop hys => ?_
        rwa [List.append_assoc] at hys
    · cases h
termination_by (callee.rest.length, 0)
decreasing_by
  · exact Prod.Lex.left _ _ (by omega)
  · exact Prod.Lex.left _ _ (by simp only [Parsed.weaken]; omega)

/-- Arguments break off only if they are not closed at once. -/
theorem parseArguments_breaks (ts : List Token) (e : ParseError)
    (h : parseArguments ts = .error e) :
    FailsBehind (fun us stop fault => (∀ u ∈ (us ++ stop.toList).head?, u.kind ≠ .rightParen) ∧
      BreaksAmong 0 us stop fault) ts e := by
  have hargs (hopen : ∀ u ∈ ts.head?, u.kind ≠ .rightParen) (h : parseArgument 0 ts = .error e) :
      FailsBehind (fun us stop fault =>
        (∀ u ∈ (us ++ stop.toList).head?, u.kind ≠ .rightParen) ∧ BreaksAmong 0 us stop fault)
        ts e := by
    obtain ⟨us, rest, hts, hshown, hbreaks⟩ := parseArgument_breaks 0 ts e (by decide) h
    refine ⟨us, rest, hts, hshown, fun u hu => hopen u ?_, hbreaks⟩
    rwa [hts, ← head?_append_head?]
  match ts with
  | [] =>
    rw [parseArguments] at h
    exact hargs nofun h
  | t :: rest =>
    rw [parseArguments] at h
    split at h
    · cases h
    · next ht =>
      refine hargs ?_ h
      rintro u ⟨⟩
      exact ht
termination_by (ts.length, 18)

/-- The same for the arguments that are left, with as many in front of them as have been read. -/
theorem parseArgument_breaks (count : Nat) (ts : List Token) (e : ParseError)
    (hcount : count < 8) (h : parseArgument count ts = .error e) :
    FailsBehind (BreaksAmong count) ts e := by
  have hroom : ¬ maxArguments ≤ count := Nat.not_le.2 hcount
  rw [parseArgument, if_neg hroom] at h
  split at h
  · next e' he =>
    cases h
    exact (parseLevel_breaks .or ts e he).lift [] fun _ _ h => .argument hcount (.expression h)
  · next arg harg =>
    obtain ⟨xs, hxs, hd⟩ := parseLevel_sound .or ts arg harg
    have hends := ends_head.2 (parseLevel_ends .or ts arg harg)
    have := arg.shorter
    rw [hxs]
    split at h
    · next hrest =>
      cases h
      rw [hrest] at hends ⊢
      exact ⟨xs, [], rfl, rfl, .unclosed hcount (.expression hd) hends nofun⟩
    · next t rest hrest =>
      have hlen : arg.rest.length = rest.length + 1 := by rw [hrest, List.length_cons]
      rw [hrest] at hends ⊢
      split at h
      · next ht =>
        split at h
        · next e' he =>
          cases h
          by_cases hfull : count + 1 < 8
          · have hmore := parseArgument_breaks (count + 1) rest e hfull he
            have hup := hmore.lift (xs ++ [t]) (Q := BreaksAmong count) fun us stop hus => by
              rw [List.append_assoc]
              exact .more hcount (.expression hd) ht hus
            rwa [List.append_assoc] at hup
          · -- the comma is behind the last argument that a call may have
            obtain rfl : count = 7 := by omega
            cases (parseArgument_full rest).symm.trans he
            exact ⟨xs, t :: rest, rfl, rfl, .full (.expression hd) ht⟩
        · cases h
      · next hcomma =>
        split at h
        · cases h
        · next hclosing =>
          cases h
          refine ⟨xs, t :: rest, rfl, rfl, .unclosed hcount (.expression hd) hends ?_⟩
          rintro u ⟨⟩
          exact ⟨hcomma, hclosing⟩
termination_by (ts.length, 17)
decreasing_by
  · exact Prod.Lex.right _ (by decide)
  · exact Prod.Lex.left _ _ (by omega)

end

end Grammar

end Reckoner
