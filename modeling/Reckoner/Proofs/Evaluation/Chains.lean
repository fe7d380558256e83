import Mathlib.Data.List.Forall2
import Reckoner.Proofs.Evaluation.Course

/-!
# Reckoner — chains of `or` and of `and`

A chain joins operands by one of the two operators that may leave their right operand alone,
with parentheses anywhere (`Chain`). However it is bracketed, it does what a single pass over its
operands does (`evaluateUntil`): they are evaluated one after the other, up to the first one that
fails or decides. An operator further out asks of the value of an inner chain again whether it
decides, and the answer is the same, so nothing is evaluated for it.

Main results:

* `evaluateUntil_append` — a pass over operands goes on where a pass over the first of them did
  not end;
* `Chain.evaluate` — a chain is a pass over its operands;
* `evaluateUntil_eq` — where a pass ends;
* `chain_evaluates_up_to` — what a chain comes to, and that its negation is the chain of the
  negations under the other operator.
-/

namespace Reckoner

variable {σ : Type}

-- ---------------------------------------------------------------------------
-- The two operators
-- ---------------------------------------------------------------------------

/-- The other one of the two operators. -/
def LogicalOp.dual : LogicalOp → LogicalOp
  | .and => .or
  | .or => .and

/-- A value decides for an operator exactly when its negation does for the other one. -/
theorem LogicalOp.decides_dual_not (op : LogicalOp) (v : Value) :
    op.dual.decides (.bool !v.isTruthy) = op.decides v := by
  cases op with
  | and => rfl
  | or => exact Bool.not_not v.isTruthy

namespace Expr

variable {env : Environment} {host : Host σ} {op : LogicalOp}

-- ---------------------------------------------------------------------------
-- Chains
-- ---------------------------------------------------------------------------

/-- An expression joins operands, in their order, by an operator. Parts of it, or all of it, may
stand in parentheses. A chain of one operand is that operand. -/
inductive Chain (op : LogicalOp) : List Expr → Expr → Prop
  | operand (e : Expr) : Chain op [e] e
  | group {es : List Expr} {e : Expr} (h : Chain op es e) (p : Place) : Chain op es (.group e p)
  | join {es fs : List Expr} {a b : Expr} (ha : Chain op es a) (hb : Chain op fs b) (p : Place) :
      Chain op (es ++ fs) (.logical op a b p)

theorem Chain.ne_nil {es : List Expr} {e : Expr} (h : Chain op es e) : es ≠ [] := by
  induction h with
  | operand e => exact List.cons_ne_nil e []
  | group _ _ ih => exact ih
  | join _ _ _ iha _ => exact List.append_ne_nil_of_left_ne_nil iha _

/-- The negation of an expression, which may stand in parentheses. -/
def Negates (e n : Expr) : Prop := ∃ e' p, Chain .or [e] e' ∧ n = .unary .not e' p

-- ---------------------------------------------------------------------------
-- One pass over the operands
-- ---------------------------------------------------------------------------

/-- Evaluates expressions one after the other, up to the first one that fails or whose value
decides. -/
def evaluateUntil (env : Environment) (host : Host σ) (op : LogicalOp) :
    List Expr → Evaluation σ Value
  | [] => return .nil
  | [e] => e.evaluate env host
  | e :: es => do
    let v ← e.evaluate env host
    if op.decides v then return v else evaluateUntil env host op es

theorem evaluateUntil_cons (e : Expr) {es : List Expr} (hes : es ≠ []) :
    evaluateUntil env host op (e :: es) = (do
      let v ← e.evaluate env host
      if op.decides v then return v else evaluateUntil env host op es) := by
  cases es with
  | nil => exact absurd rfl hes
  | cons f es => rfl

/-- **A pass goes on where it did not end.** Whether the value of the first operands decides is
asked once more, which changes nothing: either the pass had ended with that value, or it is that
of the last one of them. -/
theorem evaluateUntil_append {es fs : List Expr} (hes : es ≠ []) (hfs : fs ≠ []) :
    evaluateUntil env host op (es ++ fs) = (do
      let v ← evaluateUntil env host op es
      if op.decides v then return v else evaluateUntil env host op fs) := by
  induction es with
  | nil => exact absurd rfl hes
  | cons e es ih =>
    cases es with
    | nil => exact evaluateUntil_cons e hfs
    | cons e' es =>
      have hne : e' :: es ≠ [] := List.cons_ne_nil e' es
      rw [List.cons_append, evaluateUntil_cons e (List.append_ne_nil_of_left_ne_nil hne fs),
        evaluateUntil_cons e hne, ih hne, bind_assoc]
      refine bind_congr fun v => ?_
      by_cases hv : op.decides v = true
      · rw [if_pos hv, if_pos hv, pure_bind, if_pos hv]
      · rw [if_neg hv, if_neg hv]

/-- **A chain is a pass over its operands**, however it is bracketed. -/
theorem Chain.evaluate {es : List Expr} {e : Expr} (h : Chain op es e) :
    e.evaluate env host = evaluateUntil env host op es := by
  induction h with
  | operand e => rfl
  | group _ _ ih =>
    rw [Expr.evaluate]
    exact ih
  | join ha hb _ iha ihb => rw [Expr.evaluate, iha, ihb, evaluateUntil_append ha.ne_nil hb.ne_nil]

/-- A pass ends with one of the expressions: those before it have values that do not decide, and
it fails, or decides, or is the last one. -/
theorem evaluateUntil_eq {es : List Expr} (hes : es ≠ []) (s : Run σ) :
    ∃ before d after vs s', es = before ++ d :: after ∧
      evaluateAll env host before s = .ok vs s' ∧ (∀ v ∈ vs, op.decides v = false) ∧
      evaluateUntil env host op es s = d.evaluate env host s' ∧
      (after ≠ [] → (∃ failure s₁, d.evaluate env host s' = .error failure s₁) ∨
        ∃ v s₁, d.evaluate env host s' = .ok v s₁ ∧ op.decides v = true) := by
  induction es generalizing s with
  | nil => exact absurd rfl hes
  | cons e es ih =>
    have hnone : evaluateAll env host [] s = .ok [] s := rfl
    have hpassed : ∀ v ∈ ([] : List Value), op.decides v = false := nofun
    rcases eq_or_ne es [] with rfl | hne
    · exact ⟨[], e, [], [], s, rfl, hnone, hpassed, rfl, fun h => absurd rfl h⟩
    · rw [evaluateUntil_cons e hne]
      cases he : e.evaluate env host s with
      | error failure s₁ =>
        refine ⟨[], e, es, [], s, rfl, hnone, hpassed, ?_, fun _ => .inl ⟨failure, s₁, he⟩⟩
        rw [Evaluation.bind_of_error he, he]
      | ok v s₁ =>
        rw [Evaluation.bind_of_ok he]
        cases hv : op.decides v with
        | true =>
          refine ⟨[], e, es, [], s, rfl, hnone, hpassed, ?_, fun _ => .inr ⟨v, s₁, he, hv⟩⟩
          rw [he]
          rfl
        | false =>
          obtain ⟨before, d, after, vs, s', rfl, hbefore, hvs, hpass, hafter⟩ := ih hne s₁
          refine ⟨e :: before, d, after, v :: vs, s', rfl, ?_, List.forall_mem_cons.2 ⟨hv, hvs⟩,
            hpass, hafter⟩
          rw [evaluateAll, Evaluation.bind_of_ok he, Evaluation.bind_of_ok hbefore]
          rfl

-- ---------------------------------------------------------------------------
-- Negations
-- ---------------------------------------------------------------------------

theorem evaluate_not (e : Expr) (p : Place) :
    (Expr.unary .not e p).evaluate env host = (do
      let v ← e.evaluate env host
      return .bool !v.isTruthy) := by
  rw [Expr.evaluate]
  rfl

theorem Negates.evaluate {e n : Expr} (h : Negates e n) :
    n.evaluate env host = (do
      let v ← e.evaluate env host
      return .bool !v.isTruthy) := by
  obtain ⟨e', p, he', rfl⟩ := h
  rw [evaluate_not, he'.evaluate]
  rfl

/-- A pass over negations, under the other operator, ends with the negation of what the pass over
the expressions ends with. -/
theorem evaluateUntil_dual {es ns : List Expr} (h : List.Forall₂ Negates es ns) (hes : es ≠ []) :
    evaluateUntil env host op.dual ns = (do
      let v ← evaluateUntil env host op es
      return .bool !v.isTruthy) := by
  induction h with
  | nil => exact absurd rfl hes
  | @cons e n es ns he hrest ih =>
    rcases eq_or_ne es [] with rfl | hne
    · cases hrest
      exact he.evaluate
    · have hns : ns ≠ [] := by
        rintro rfl
        cases hrest
        exact hne rfl
      rw [evaluateUntil_cons n hns, evaluateUntil_cons e hne, he.evaluate, ih hne, bind_assoc,
        bind_assoc]
      refine bind_congr fun v => ?_
      rw [pure_bind, op.decides_dual_not]
      by_cases hv : op.decides v = true
      · rw [if_pos hv, if_pos hv, pure_bind]
      · rw [if_neg hv, if_neg hv]

/-- **Chains stop at the first operand that decides.** Operands are joined by `or`, or by `and`,
and the chain is evaluated from any run. The operands are evaluated from left to right, each
once, up to one of them: those before it have values that do not decide (that are falsy for `or`,
truthy for `and`), and it fails, or its value decides, or it is the last operand. Every
bracketing of the chain comes to just what that operand comes to: the very failure or the very
value, in the same run. And the negation of a chain, however it is bracketed, does just what any
chain of the negations does under the other operator. -/
theorem chain_evaluates_up_to (env : Environment) (host : Host σ) (op : LogicalOp) {es : List Expr}
    (hes : es ≠ []) (s : Run σ) :
    (∃ before d after vs s', es = before ++ d :: after ∧
      evaluateAll env host before s = .ok vs s' ∧ (∀ v ∈ vs, op.decides v = false) ∧
      (after ≠ [] → (∃ failure s₁, d.evaluate env host s' = .error failure s₁) ∨
        ∃ v s₁, d.evaluate env host s' = .ok v s₁ ∧ op.decides v = true) ∧
      ∀ e, Chain op es e → e.evaluate env host s = d.evaluate env host s') ∧
    ∀ e ns n p, Chain op es e → List.Forall₂ Negates es ns → Chain op.dual ns n →
      (Expr.unary .not e p).evaluate env host s = n.evaluate env host s := by
  constructor
  · obtain ⟨before, d, after, vs, s', hsplit, hbefore, hvs, hpass, hafter⟩ :=
      @evaluateUntil_eq σ env host op es hes s
    refine ⟨before, d, after, vs, s', hsplit, hbefore, hvs, hafter, fun e he => ?_⟩
    rw [he.evaluate, hpass]
  · intro e ns n p he hnegates hn
    rw [evaluate_not, he.evaluate, hn.evaluate, evaluateUntil_dual hnegates hes]

/-- Of `f()`, `g()` and `h()`, the first is nil and the second is a string, so that `h`, which
fails, is not called: not by `(f() or g()) or h()`, not by `f() or (g() or h())`, and not by
`!f() and (!g() and !h())`. -/
theorem chain_evaluates_up_to_second :
    let env := ((Environment.empty.define "f" (.function ⟨"f", none, .hosted, 0⟩)).define "g"
      (.function ⟨"g", none, .hosted, 1⟩)).define "h" (.function ⟨"h", none, .hosted, 2⟩)
    let host : Host (List String) := ⟨fun f _ called =>
      ⟨if f.identity = 0 then .ok .nil else if f.identity = 1 then .ok (.string "")
        else .error (.io "closed"), called ++ [f.name], []⟩⟩
    let call (name : String) : Expr := .call (.var name default) [] default default
    let f := call "f"
    let g := call "g"
    let h := call "h"
    let or (a b : Expr) : Expr := .logical .or a b default
    let and (a b : Expr) : Expr := .logical .and a b default
    let not (a : Expr) : Expr := .unary .not a default
    let group (a : Expr) : Expr := .group a default
    (or f (group (or g h))).evaluate env host ⟨[], #[]⟩ =
        (or (or f g) h).evaluate env host ⟨[], #[]⟩ ∧
      (not (or (or f g) h)).evaluate env host ⟨[], #[]⟩ =
        (and (not f) (group (and (not g) (not h)))).evaluate env host ⟨[], #[]⟩ ∧
      ∃ s₁, (or (or f g) h).evaluate env host ⟨[], #[]⟩ = .ok (.string "") s₁ ∧
        s₁.host = ["f", "g"] := by
  intro env host call f g h or and not group
  have hleft : Chain .or [f, g, h] (or (or f g) h) :=
    .join (.join (.operand f) (.operand g) _) (.operand h) _
  have hright : Chain .or [f, g, h] (or f (group (or g h))) :=
    .join (.operand f) (.group (.join (.operand g) (.operand h) _) _) _
  have hnegations : Chain .and [not f, not g, not h] (and (not f) (group (and (not g) (not h)))) :=
    .join (.operand _) (.group (.join (.operand _) (.operand _) _) _) _
  have hnot (a : Expr) : Negates a (not a) := ⟨a, _, .operand a, rfl⟩
  obtain ⟨⟨_, _, _, _, _, -, -, -, -, hchains⟩, hdual⟩ :=
    chain_evaluates_up_to env host .or (List.cons_ne_nil f [g, h]) ⟨[], #[]⟩
  refine ⟨(hchains _ hright).trans (hchains _ hleft).symm, ?_, _, rfl, rfl⟩
  exact hdual _ _ _ _ hleft (.cons (hnot f) (.cons (hnot g) (.cons (hnot h) .nil))) hnegations

end Expr

end Reckoner
