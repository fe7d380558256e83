import Reckoner.Expr.Parse
import Reckoner.Proofs.Grammar.Basic

/-!
# Reckoner — what is read derives

Every reader of `Reckoner.Expr.Parse` answers with a tree that derives from the
reader's category of the grammar, and with the tokens behind those it derives from.
There is one lemma for each reader, and the lemmas call each other as the readers do.
-/

namespace Reckoner.Grammar

open Reckoner.Expr

-- ---------------------------------------------------------------------------
-- The tables of the grammar are those of the readers
-- ---------------------------------------------------------------------------

/-- The operators of a level are the tokens that the readers take for connectives of this level. -/
theorem operator_iff {l : Level} {k : TokenKind} {c : Connective} :
    Operator l k c ↔ Connective.ofKind? k = some c ∧ c.level = l := by
  constructor
  · intro h
    cases h <;> exact ⟨rfl, rfl⟩
  · rintro ⟨h, rfl⟩
    unfold Connective.ofKind? at h
    split at h <;> cases h <;> constructor

/-- The signs are the tokens that they take for operators in front of an operand. -/
theorem sign_iff {k : TokenKind} {op : UnaryOp} : Sign k op ↔ UnaryOp.ofKind? k = some op := by
  constructor
  · intro h
    cases h <;> rfl
  · intro h
    unfold UnaryOp.ofKind? at h
    split at h <;> cases h <;> constructor

/-- The atoms are the tokens that they take for trees by themselves. -/
theorem atom_iff {t : Token} {e : Expr} : Atom t e ↔ ofToken? t = some e := by
  constructor
  · intro h
    cases h with
    | number h | string h | true h | false h | nil h | identifier h => simp only [ofToken?, h]
  · intro h
    unfold ofToken? at h
    split at h <;> cases h
    · exact .true ‹_›
    · exact .false ‹_›
    · exact .nil ‹_›
    · exact .number ‹_›
    · exact .string ‹_›
    · exact .identifier ‹_›

/-- The operands of a level are chains of the next tighter one. -/
theorem operandOf_eq_level {l l' : Level} (h : l.tighter? = some l') :
    operandOf l = .level l' := by
  cases l <;> cases h <;> rfl

/-- At the tightest level they are signed terms. -/
theorem operandOf_eq_unary {l : Level} (h : l.tighter? = none) : operandOf l = .unary := by
  cases l <;> cases h
  rfl

-- ---------------------------------------------------------------------------
-- One lemma for each reader
-- ---------------------------------------------------------------------------

mutual

/-- A chain of a level: its first operand derives, and so does what the operators behind it make of
it. -/
theorem parseLevel_sound (l : Level) (ts : List Token) (p : Parsed Expr ts)
    (h : parseLevel l ts = .ok p) :
    ∃ xs, ts = xs ++ p.rest ∧ Derives (.level l) xs p.value := by
  rw [parseLevel] at h
  split at h
  · cases h
  · next left hleft =>
    obtain ⟨xs, hxs, hd⟩ := parseOperand_sound l ts left hleft
    have := left.shorter
    obtain ⟨ys, hys, hd'⟩ := parseChain_sound l left p h xs (.operand hd)
    exact ⟨xs ++ ys, hxs.trans (by rw [hys, List.append_assoc]), hd'⟩
termination_by (ts.length, 2 * l.height + 4)
decreasing_by
  · exact Prod.Lex.right _ (by omega)
  · exact Prod.Lex.left _ _ (by omega)

/-- An operand of a level. -/
theorem parseOperand_sound (l : Level) (ts : List Token) (p : Parsed Expr ts)
    (h : parseOperand l ts = .ok p) :
    ∃ xs, ts = xs ++ p.rest ∧ Derives (operandOf l) xs p.value := by
  rw [parseOperand] at h
  split at h
  · next tighter hl =>
    have := Level.height_tighter hl
    rw [operandOf_eq_level hl]
    exact parseLevel_sound tighter ts p h
  · next hl =>
    rw [operandOf_eq_unary hl]
    exact parseUnary_sound ts p h
termination_by (ts.length, 2 * l.height + 3)
decreasing_by
  · exact Prod.Lex.right _ (by omega)
  · exact Prod.Lex.right _ (by omega)

/-- What a chain is built from: its first operand, and then what the chain reads. -/
theorem parseChain_sound {ts : List Token} (l : Level) (left p : Parsed Expr ts)
    (h : parseChain l left = .ok p) (xs : List Token) (hd : Derives (.level l) xs left.value) :
    ∃ ys, left.rest = ys ++ p.rest ∧ Derives (.level l) (xs ++ ys) p.value := by
  rw [parseChain] at h
  split at h
  · cases h
    exact ⟨[], rfl, by rwa [List.append_nil]⟩
  · next t rest hrest =>
    split at h
    · cases h
      exact ⟨[], rfl, by rwa [List.append_nil]⟩
    · next c hc =>
      split at h
      · next hl =>
        subst hl
        split at h
        · cases h
        · next right hright =>
          have hlen : left.rest.length = rest.length + 1 := by rw [hrest, List.length_cons]
          have := right.shorter
          -- the chain goes on from the tree joined to the operand just read
          obtain ⟨us, hus, hd'⟩ := parseOperand_sound c.level rest right hright
          obtain ⟨ys, hys, hd''⟩ := parseChain_sound c.level _ p h (xs ++ t :: us)
            (.join hd (operator_iff.2 ⟨hc, rfl⟩) hd')
          refine ⟨t :: (us ++ ys), ?_, ?_⟩
          · rw [show right.rest = ys ++ p.rest from hys] at hus
            rw [hrest, List.cons_append, List.append_assoc, ← hus]
          · simpa using hd''
      · cases h
        exact ⟨[], rfl, by rwa [List.append_nil]⟩
termination_by (left.rest.length, 0)
decreasing_by
  · exact Prod.Lex.left _ _ (by omega)
  · exact Prod.Lex.left _ _ (by simp only [Parsed.weaken]; omega)

/-- A term with the signs in front of it. -/
theorem parseUnary_sound (ts : List Token) (p : Parsed Expr ts) (h : parseUnary ts = .ok p) :
    ∃ xs, ts = xs ++ p.rest ∧ Derives .unary xs p.value := by
  match ts with
  | [] =>
    rw [parseUnary] at h
    cases h
  | t :: rest =>
    rw [parseUnary] at h
    split at h
    · next op hop =>
      split at h
      · cases h
      · next operand hoperand =>
        cases h
        obtain ⟨xs, hxs, hd⟩ := parseUnary_sound rest operand hoperand
        exact ⟨t :: xs, congrArg (t :: ·) hxs, .sign (sign_iff.2 hop) hd⟩
    · split at h
      · cases h
      · next callee hcallee =>
        obtain ⟨xs, hxs, hd⟩ := parsePrimary_sound t rest callee hcallee
        have := callee.shorter
        obtain ⟨ys, hys, hd'⟩ := parseCalls_sound callee p h xs (.uncalled hd)
        exact ⟨xs ++ ys, hxs.trans (by rw [hys, List.append_assoc]), .unsigned hd'⟩
termination_by (ts.length, 2)
decreasing_by
  · exact Prod.Lex.left _ _ (by simp)
  · exact Prod.Lex.right _ (by omega)
  · exact Prod.Lex.left _ _ (by omega)

/-- An atom, or an expression in parentheses. -/
theorem parsePrimary_sound (t : Token) (ts : List Token) (p : Parsed Expr (t :: ts))
    (h : parsePrimary t ts = .ok p) :
    ∃ xs, t :: ts = xs ++ p.rest ∧ Derives .primary xs p.value := by
  rw [parsePrimary] at h
  split at h
  · next ht =>
    split at h
    · cases h
    · next inner hinner =>
      split at h
      · cases h
      · next closing rest hrest =>
        split at h
        · next hclosing =>
          cases h
          obtain ⟨xs, hxs, hd⟩ := parseLevel_sound .or ts inner hinner
          rw [hrest] at hxs
          exact ⟨t :: (xs ++ [closing]), congrArg (t :: ·) (hxs.trans (by simp)),
            .group ht (.expression hd) hclosing⟩
        · cases h
  · split at h
    · next e he =>
      cases h
      exact ⟨[t], rfl, .atom (atom_iff.2 he)⟩
    · cases h
termination_by (ts.length + 1, 0)

/-- What a chain of calls is built from: its callee, and then what the calls read. -/
theorem parseCalls_sound {ts : List Token} (callee p : Parsed Expr ts)
    (h : parseCalls callee = .ok p) (xs : List Token) (hd : Derives .call xs callee.value) :
    ∃ ys, callee.rest = ys ++ p.rest ∧ Derives .call (xs ++ ys) p.value := by
  rw [parseCalls] at h
  split at h
  · cases h
    exact ⟨[], rfl, by rwa [List.append_nil]⟩
  · next t rest hrest =>
    split at h
    · next ht =>
      split at h
      · cases h
      · next args hargs =>
        have hlen : callee.rest.length = rest.length + 1 := by rw [hrest, List.length_cons]
        have := args.shorter
        obtain ⟨us, hus, hclosing, hd', hmax⟩ := parseArguments_sound rest args hargs
        obtain ⟨ys, hys, hd''⟩ := parseCalls_sound _ p h (xs ++ t :: (us ++ [args.value.2]))
          (.apply hd ht hd' hmax hclosing)
        refine ⟨t :: (us ++ [args.value.2] ++ ys), ?_, ?_⟩
        · rw [show args.rest = ys ++ p.rest from hys] at hus
          rw [hrest]
          exact congrArg (t :: ·) (hus.trans (by simp))
        · simpa using hd''
    · cases h
      exact ⟨[], rfl, by rwa [List.append_nil]⟩
termination_by (callee.rest.length, 0)
decreasing_by
  · exact Prod.Lex.left _ _ (by omega)
  · exact Prod.Lex.left _ _ (by simp only [Parsed.weaken]; omega)

/-- The arguments of a call derive from the tokens in front of the parenthesis that closes it, and
there are no more than eight. -/
theorem parseArguments_sound (ts : List Token) (p : Parsed (List Expr × Token) ts)
    (h : parseArguments ts = .ok p) :
    ∃ xs, ts = xs ++ p.value.2 :: p.rest ∧ p.value.2.kind = .rightParen ∧
      Arguments xs p.value.1 ∧ p.value.1.length ≤ 8 := by
  match ts with
  | [] =>
    rw [parseArguments] at h
    obtain ⟨xs, hxs, -⟩ := parseArgument_sound 0 [] p h
    simp at hxs
  | t :: rest =>
    rw [parseArguments] at h
    split at h
    · next ht =>
      cases h
      exact ⟨[], rfl, ht, .none, by simp⟩
    · obtain ⟨xs, hxs, hclosing, hd, -, hmax⟩ := parseArgument_sound 0 (t :: rest) p h
      exact ⟨xs, hxs, hclosing, hd, by simpa [maxArguments] using hmax⟩
termination_by (ts.length, 18)

/-- The arguments read from one on are at least one, and with those before it no more
than a call may have. -/
theorem parseArgument_sound (count : Nat) (ts : List Token) (p : Parsed (List Expr × Token) ts)
    (h : parseArgument count ts = .ok p) :
    ∃ xs, ts = xs ++ p.value.2 :: p.rest ∧ p.value.2.kind = .rightParen ∧
      Arguments xs p.value.1 ∧ p.value.1 ≠ [] ∧ count + p.value.1.length ≤ maxArguments := by
  rw [parseArgument] at h
  split at h
  · cases h
  · next hcount =>
    split at h
    · cases h
    · next arg harg =>
      obtain ⟨xs, hxs, hd⟩ := parseLevel_sound .or ts arg harg
      split at h
      · cases h
      · next t rest hrest =>
        split at h
        · next ht =>
          split at h
          · cases h
          · next more hmore =>
            cases h
            have hlen : arg.rest.length = rest.length + 1 := by rw [hrest, List.length_cons]
            have := arg.shorter
            obtain ⟨us, hus, hclosing, hd', hne, hmax⟩ :=
              parseArgument_sound (count + 1) rest more hmore
            rw [hrest] at hxs
            refine ⟨xs ++ t :: us, hxs.trans ?_, hclosing, .more (.expression hd) ht hd' hne,
              List.cons_ne_nil _ _, ?_⟩
            · rw [List.append_assoc, List.cons_append]
              exact congrArg (xs ++ t :: ·) hus
            · simp only [Parsed.weaken, List.length_cons]
              omega
        · split at h
          · next ht =>
            cases h
            rw [hrest] at hxs
            refine ⟨xs, hxs, ht, .one (.expression hd), List.cons_ne_nil _ _, ?_⟩
            simp only [List.length_cons, List.length_nil]
            omega
          · cases h
termination_by (ts.length, 17)
decreasing_by
  · exact Prod.Lex.right _ (by decide)
  · exact Prod.Lex.left _ _ (by omega)

end

end Reckoner.Grammar
