import Reckoner.Proofs.Evaluation.Course

/-!
# Reckoner — where failures come from

An evaluation fails because a function failed that it called, or because a node of the
expression had operands without a result. In the second case the failure is that node's
own: it carries its place, and evaluating the node alone, from where the evaluation had
come to, ends with the same failure (`Expr.origin`).
-/

namespace Reckoner.Expr

variable {σ : Type} {env : Environment} {host : Host σ}

/-- The failure of a node of an expression whose operands have no result. -/
def FailsAtNode (env : Environment) (host : Host σ) (e : Expr) (failure : Failure) : Prop :=
  ∃ (n : Expr) (fault : OperandFault) (s s₁ : Run σ), e.Contains n ∧
    failure = fault.failure n.place ∧ n.evaluate env host s = .error failure s₁

/-- The failure of a function that was called with values of a kind. -/
def FailsInCall (host : Host σ) (values : Value → Prop) (failure : Failure) : Prop :=
  ∃ (f : Function) (args : List Value) (s s₁ : Run σ), values (.function f) ∧
    (∀ v ∈ args, values v) ∧ f.call host args s = .error failure s₁

/-- The value of an argument comes from evaluating an expression. -/
theorem mem_evaluateAll {es : List Expr} {s s₁ : Run σ} {vs : List Value} {v : Value}
    (h : evaluateAll env host es s = .ok vs s₁) (hv : v ∈ vs) :
    ∃ (e : Expr) (s₂ s₃ : Run σ), e.evaluate env host s₂ = .ok v s₃ := by
  induction es generalizing s vs with
  | nil =>
    rw [evaluateAll] at h
    cases h
    exact absurd hv List.not_mem_nil
  | cons e es ih =>
    rw [evaluateAll] at h
    obtain ⟨w, s', hw, h⟩ := Evaluation.bind_eq_ok h
    obtain ⟨ws, s'', hws, h⟩ := Evaluation.bind_eq_ok h
    cases h
    rcases List.mem_cons.1 hv with rfl | hv
    · exact ⟨e, s, s', hw⟩
    · exact ih hws hv

/-- **Where failures come from.** A failure is that of a function which was called, or
that of a node whose operands have no result. -/
theorem origin {values : Value → Prop}
    (hvalues : ∀ (e : Expr) (s : Run σ) v s', e.evaluate env host s = .ok v s' → values v)
    (e : Expr) {s s₁ : Run σ} {failure : Failure} (h : e.evaluate env host s = .error failure s₁) :
    FailsInCall host values failure ∨ FailsAtNode env host e failure := by
  obtain ⟨n, s', hn, hstops⟩ := evaluate_eq_error_iff.1 h
  have hcontains := hn.contains
  have hfails := hstops.evaluate
  cases hstops with
  | operand | operands => exact .inr ⟨_, _, s', s₁, hcontains, rfl, hfails⟩
  | @callee _ _ t _ _ _ _ v =>
    exact .inr ⟨_, .callee v t.line, s', s₁, hcontains, rfl, hfails⟩
  | @call _ _ _ _ _ _ _ _ g vs _ hf hargs hcall =>
    -- the arguments are values of expressions, like the callee
    refine .inl ⟨g, vs, _, s₁, hvalues _ _ _ _ hf, fun w hw => ?_, hcall⟩
    obtain ⟨a, s₃, s₄, ha⟩ := mem_evaluateAll hargs hw
    exact hvalues a s₃ w s₄ ha

end Reckoner.Expr
