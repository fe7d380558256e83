import Reckoner.Evaluation
import Reckoner.Proofs.Tree

/-!
# Reckoner — the course of an evaluation

Evaluating a node begins the evaluation of its children one after the other, each from the
run that the ones before it left (`Begins`), and so reaches nodes further down (`Reaches`).
An evaluation fails exactly when it reaches a node that stops it: one whose operands have
values but no result, or a call whose function fails (`Stops`). It ends right there, in the
run that the node left.

Main results:

* `evaluate_eq_error_iff` — an evaluation fails exactly where it is stopped;
* `reached_or_skipped` — one that succeeds reaches every node, but those in right operands
  of `and` and `or` that their left operands decide against.
-/

namespace Reckoner

variable {σ α β : Type}

-- ---------------------------------------------------------------------------
-- Computations in two parts
-- ---------------------------------------------------------------------------

namespace Evaluation

/-- Behind a result the second part goes on from the run that it left. -/
theorem bind_of_ok {x : Evaluation σ α} {f : α → Evaluation σ β} {s s' : Run σ} {v : α}
    (h : x s = .ok v s') : (x >>= f) s = f v s' := by
  change EStateM.bind x f s = f v s'
  unfold EStateM.bind
  rw [h]

/-- Behind a failure nothing is done. -/
theorem bind_of_error {x : Evaluation σ α} {f : α → Evaluation σ β} {s s₁ : Run σ}
    {failure : Failure} (h : x s = .error failure s₁) : (x >>= f) s = .error failure s₁ := by
  change EStateM.bind x f s = .error failure s₁
  unfold EStateM.bind
  rw [h]

/-- A computation in two parts fails in the first or in the second. -/
theorem bind_eq_error {x : Evaluation σ α} {f : α → Evaluation σ β} {s s₁ : Run σ}
    {failure : Failure} (h : (x >>= f) s = .error failure s₁) :
    x s = .error failure s₁ ∨ ∃ v s', x s = .ok v s' ∧ f v s' = .error failure s₁ := by
  cases hx : x s with
  | ok v s' => exact .inr ⟨v, s', rfl, (bind_of_ok hx).symm.trans h⟩
  | error _ _ =>
    rw [bind_of_error hx] at h
    cases h
    exact .inl rfl

/-- A computation in two parts succeeds if both do. -/
theorem bind_eq_ok {x : Evaluation σ α} {f : α → Evaluation σ β} {s s₁ : Run σ} {w : β}
    (h : (x >>= f) s = .ok w s₁) : ∃ v s', x s = .ok v s' ∧ f v s' = .ok w s₁ := by
  cases hx : x s with
  | ok v s' => exact ⟨v, s', rfl, (bind_of_ok hx).symm.trans h⟩
  | error _ _ => cases (bind_of_error hx).symm.trans h

/-- An operator that succeeds leaves the run as it was. -/
theorem ofOperator_eq_ok {p : Place} {x : Except OperandFault α} {s s₁ : Run σ} {v : α}
    (h : ofOperator p x s = .ok v s₁) : x = .ok v ∧ s₁ = s := by
  cases x with
  | ok w =>
    cases h
    exact ⟨rfl, rfl⟩
  | error fault => cases h

/-- An operator that fails does too, and fails at its node. -/
theorem ofOperator_eq_error {p : Place} {x : Except OperandFault α} {s s₁ : Run σ}
    {failure : Failure} (h : ofOperator p x s = .error failure s₁) :
    s₁ = s ∧ ∃ fault : OperandFault, x = .error fault ∧ failure = fault.failure p := by
  cases x with
  | ok v => cases h
  | error fault =>
    cases h
    exact ⟨rfl, fault, rfl, rfl⟩

end Evaluation

namespace Expr

variable {env : Environment} {host : Host σ}

-- ---------------------------------------------------------------------------
-- Reaching nodes
-- ---------------------------------------------------------------------------

/-- When a node is evaluated from a run, the evaluation of a child begins from another:
that which is left by the children before it. -/
inductive Begins (env : Environment) (host : Host σ) : Expr → Run σ → Expr → Run σ → Prop
  | group {e : Expr} {p : Place} {s : Run σ} : Begins env host (.group e p) s e s
  | operand {op : UnaryOp} {e : Expr} {p : Place} {s : Run σ} :
      Begins env host (.unary op e p) s e s
  | left {op : BinaryOp} {a b : Expr} {p : Place} {s : Run σ} :
      Begins env host (.binary op a b p) s a s
  | right {op : BinaryOp} {a b : Expr} {p : Place} {s s' : Run σ} {v : Value}
      (ha : a.evaluate env host s = .ok v s') : Begins env host (.binary op a b p) s b s'
  | deciding {op : LogicalOp} {a b : Expr} {p : Place} {s : Run σ} :
      Begins env host (.logical op a b p) s a s
  | undecided {op : LogicalOp} {a b : Expr} {p : Place} {s s' : Run σ} {v : Value}
      (ha : a.evaluate env host s = .ok v s') (hv : op.decides v = false) :
      Begins env host (.logical op a b p) s b s'
  | callee {f : Expr} {args : List Expr} {t : Token} {p : Place} {s : Run σ} :
      Begins env host (.call f args t p) s f s
  | argument {f a : Expr} {before after : List Expr} {t : Token} {p : Place}
      {s s₁ s' : Run σ} {v : Value} {vs : List Value} (hf : f.evaluate env host s = .ok v s₁)
      (hbefore : evaluateAll env host before s₁ = .ok vs s') :
      Begins env host (.call f (before ++ a :: after) t p) s a s'

/-- When a node is evaluated from a run, a node of its tree is evaluated from another. -/
inductive Reaches (env : Environment) (host : Host σ) : Expr → Run σ → Expr → Run σ → Prop
  | self (e : Expr) (s : Run σ) : Reaches env host e s e s
  | child {e c n : Expr} {s s' s'' : Run σ} (hc : Begins env host e s c s')
      (hn : Reaches env host c s' n s'') : Reaches env host e s n s''

/-- Only children of a node are begun. -/
theorem Begins.mem_children {e c : Expr} {s s' : Run σ} (h : Begins env host e s c s') :
    c ∈ e.children := by
  cases h with
  | group => exact mem_group
  | operand => exact mem_unary
  | left => exact left_mem_binary
  | right => exact right_mem_binary
  | deciding => exact left_mem_logical
  | undecided => exact right_mem_logical
  | callee => exact callee_mem_call
  | argument => exact arg_mem_call (List.mem_append_right _ (List.mem_cons_self ..))

/-- Only nodes of a tree are reached. -/
theorem Reaches.contains {e n : Expr} {s s' : Run σ} (h : Reaches env host e s n s') :
    e.Contains n := by
  induction h with
  | self => exact .self _
  | child hc _ ih => exact .child hc.mem_children ih

-- ---------------------------------------------------------------------------
-- Several expressions
-- ---------------------------------------------------------------------------

/-- Arguments are evaluated in two parts just as in one. -/
theorem evaluateAll_append (xs ys : List Expr) :
    evaluateAll env host (xs ++ ys) = (do
      let vs ← evaluateAll env host xs
      let ws ← evaluateAll env host ys
      return vs ++ ws) := by
  induction xs with
  | nil => simp [evaluateAll]
  | cons x xs ih => simp [evaluateAll, ih]

/-- If the values of several expressions fail, then that of one of them does, after those
before it have values. -/
theorem evaluateAll_eq_error {es : List Expr} {s s₁ : Run σ} {failure : Failure}
    (h : evaluateAll env host es s = .error failure s₁) :
    ∃ before e after vs s', es = before ++ e :: after ∧
      evaluateAll env host before s = .ok vs s' ∧ e.evaluate env host s' = .error failure s₁ := by
  induction es generalizing s with
  | nil =>
    rw [evaluateAll] at h
    cases h
  | cons e es ih =>
    rw [evaluateAll] at h
    rcases Evaluation.bind_eq_error h with h | ⟨v, s', hv, h⟩
    · exact ⟨[], e, es, [], s, rfl, by rw [evaluateAll]; rfl, h⟩
    · rcases Evaluation.bind_eq_error h with h | ⟨vs, s'', -, h⟩
      · obtain ⟨before, e', after, vs, s'', rfl, hvs, h⟩ := ih h
        refine ⟨e :: before, e', after, v :: vs, s'', rfl, ?_, h⟩
        rw [evaluateAll, Evaluation.bind_of_ok hv, Evaluation.bind_of_ok hvs]
        rfl
      · cases h

/-- If several expressions have values, then each has, after those before it. -/
theorem evaluateAll_eq_ok {before after : List Expr} {e : Expr} {s s₁ : Run σ} {us : List Value}
    (h : evaluateAll env host (before ++ e :: after) s = .ok us s₁) :
    ∃ vs s' v s'', evaluateAll env host before s = .ok vs s' ∧
      e.evaluate env host s' = .ok v s'' := by
  rw [evaluateAll_append] at h
  obtain ⟨vs, s', hvs, h⟩ := Evaluation.bind_eq_ok h
  obtain ⟨ws, s₂, hws, -⟩ := Evaluation.bind_eq_ok h
  rw [evaluateAll] at hws
  obtain ⟨v, s'', hv, -⟩ := Evaluation.bind_eq_ok hws
  exact ⟨vs, s', v, s'', hvs, hv⟩

-- ---------------------------------------------------------------------------
-- Where evaluations fail
-- ---------------------------------------------------------------------------

/-- A node that is evaluated from a run fails when its operands have values: they have no
result, what is called is no function, or the function fails. The run that is left is the
one in which that shows. -/
inductive Stops (env : Environment) (host : Host σ) : Expr → Run σ → Failure → Run σ → Prop
  | operand {op : UnaryOp} {e : Expr} {p : Place} {s s₁ : Run σ} {v : Value}
      {fault : OperandFault} (he : e.evaluate env host s = .ok v s₁)
      (hfault : op.apply v = .error fault) :
      Stops env host (.unary op e p) s (fault.failure p) s₁
  | operands {op : BinaryOp} {a b : Expr} {p : Place} {s s₁ s₂ : Run σ} {v w : Value}
      {fault : OperandFault} (ha : a.evaluate env host s = .ok v s₁)
      (hb : b.evaluate env host s₁ = .ok w s₂) (hfault : op.apply v w = .error fault) :
      Stops env host (.binary op a b p) s (fault.failure p) s₂
  | callee {f : Expr} {args : List Expr} {t : Token} {p : Place} {s s₁ s₂ : Run σ} {v : Value}
      {vs : List Value} (hf : f.evaluate env host s = .ok v s₁)
      (hargs : evaluateAll env host args s₁ = .ok vs s₂) (hv : ∀ g, v ≠ .function g) :
      Stops env host (.call f args t p) s ((OperandFault.callee v t.line).failure p) s₂
  | call {f : Expr} {args : List Expr} {t : Token} {p : Place} {s s₁ s₂ s₃ : Run σ}
      {g : Function} {vs : List Value} {failure : Failure}
      (hf : f.evaluate env host s = .ok (.function g) s₁)
      (hargs : evaluateAll env host args s₁ = .ok vs s₂)
      (hcall : g.call host vs { s₂ with events := s₂.events.push (.calling g vs t) } =
        .error failure s₃) :
      Stops env host (.call f args t p) s failure s₃

/-- What a call does when its callee and its arguments have values. -/
theorem evaluate_call {f : Expr} {args : List Expr} {t : Token} {p : Place} {s s₁ s₂ : Run σ}
    {v : Value} {vs : List Value} (hf : f.evaluate env host s = .ok v s₁)
    (hargs : evaluateAll env host args s₁ = .ok vs s₂) :
    (Expr.call f args t p).evaluate env host s = match v with
      | .function g => g.call host vs { s₂ with events := s₂.events.push (.calling g vs t) }
      | v => .error ((OperandFault.callee v t.line).failure p) s₂ := by
  rw [evaluate, Evaluation.bind_of_ok hf, Evaluation.bind_of_ok hargs]
  cases v <;> rfl

/-- A node that stops an evaluation fails. -/
theorem Stops.evaluate {e : Expr} {s s₁ : Run σ} {failure : Failure}
    (h : Stops env host e s failure s₁) : e.evaluate env host s = .error failure s₁ := by
  cases h with
  | operand he hfault => rw [Expr.evaluate, Evaluation.bind_of_ok he, hfault]; rfl
  | operands ha hb hfault =>
    rw [Expr.evaluate, Evaluation.bind_of_ok ha, Evaluation.bind_of_ok hb, hfault]
    rfl
  | @callee _ _ _ _ _ _ _ v _ hf hargs hv =>
    rw [evaluate_call hf hargs]
    cases v with
    | function g => exact absurd rfl (hv g)
    | nil | bool | number | string | foreign => rfl
  | call hf hargs hcall => rw [evaluate_call hf hargs]; exact hcall

/-- The failure of a child is that of the node, and nothing happens after it. -/
theorem Begins.error {e c : Expr} {s s' s₁ : Run σ} {failure : Failure}
    (h : Begins env host e s c s') (hc : c.evaluate env host s' = .error failure s₁) :
    e.evaluate env host s = .error failure s₁ := by
  cases h with
  | group => rw [evaluate, hc]
  | operand | left | deciding | callee => rw [evaluate, Evaluation.bind_of_error hc]
  | right ha => rw [evaluate, Evaluation.bind_of_ok ha, Evaluation.bind_of_error hc]
  | undecided ha hv => rw [evaluate, Evaluation.bind_of_ok ha, hv, if_neg nofun, hc]
  | @argument f _ before after t p _ s₂ _ v vs hf hbefore =>
    -- the arguments behind this one are not looked at
    have hrest : evaluateAll env host (c :: after) s' = .error failure s₁ := by
      rw [evaluateAll, Evaluation.bind_of_error hc]
    have hargs : evaluateAll env host (before ++ c :: after) s₂ = .error failure s₁ := by
      rw [evaluateAll_append, Evaluation.bind_of_ok hbefore, Evaluation.bind_of_error hrest]
    rw [evaluate, Evaluation.bind_of_ok hf, Evaluation.bind_of_error hargs]

/-- A failure is not caught on its way up. -/
theorem Reaches.error {e n : Expr} {s s' s₁ : Run σ} {failure : Failure}
    (h : Reaches env host e s n s') (hn : n.evaluate env host s' = .error failure s₁) :
    e.evaluate env host s = .error failure s₁ := by
  induction h with
  | self => exact hn
  | child hc _ ih => exact hc.error (ih hn)

/-- A failing evaluation fails in a child whose evaluation begins, or stops at the node. -/
theorem begins_or_stops {e : Expr} {s s₁ : Run σ} {failure : Failure}
    (h : e.evaluate env host s = .error failure s₁) :
    Stops env host e s failure s₁ ∨
      ∃ c s', Begins env host e s c s' ∧ c.evaluate env host s' = .error failure s₁ := by
  cases e using Expr.casesOn with
  | literal l p | var name p => cases h
  | group e p => exact .inr ⟨e, s, .group, h⟩
  | unary op e p =>
    rw [evaluate] at h
    rcases Evaluation.bind_eq_error h with h | ⟨v, s', hv, h⟩
    · exact .inr ⟨e, s, .operand, h⟩
    · obtain ⟨rfl, fault, hfault, rfl⟩ := Evaluation.ofOperator_eq_error h
      exact .inl (.operand hv hfault)
  | binary op a b p =>
    rw [evaluate] at h
    rcases Evaluation.bind_eq_error h with h | ⟨v, s', hv, h⟩
    · exact .inr ⟨a, s, .left, h⟩
    rcases Evaluation.bind_eq_error h with h | ⟨w, s'', hw, h⟩
    · exact .inr ⟨b, s', .right hv, h⟩
    · obtain ⟨rfl, fault, hfault, rfl⟩ := Evaluation.ofOperator_eq_error h
      exact .inl (.operands hv hw hfault)
  | logical op a b p =>
    rw [evaluate] at h
    rcases Evaluation.bind_eq_error h with h | ⟨v, s', hv, h⟩
    · exact .inr ⟨a, s, .deciding, h⟩
    · by_cases hd : op.decides v = true
      · rw [if_pos hd] at h
        cases h
      · rw [if_neg hd] at h
        exact .inr ⟨b, s', .undecided hv (Bool.not_eq_true _ ▸ hd), h⟩
  | call f args t p =>
    cases hf : f.evaluate env host s with
    | error _ _ =>
      rw [evaluate, Evaluation.bind_of_error hf] at h
      cases h
      exact .inr ⟨f, s, .callee, hf⟩
    | ok v s' =>
      cases hargs : evaluateAll env host args s' with
      | error _ _ =>
        rw [evaluate, Evaluation.bind_of_ok hf, Evaluation.bind_of_error hargs] at h
        cases h
        obtain ⟨before, a, after, vs, s'', rfl, hbefore, ha⟩ := evaluateAll_eq_error hargs
        exact .inr ⟨a, s'', .argument hf hbefore, ha⟩
      | ok vs s'' =>
        rw [evaluate_call hf hargs] at h
        cases v with
        | function g => exact .inl (.call hf hargs h)
        | nil | bool | number | string | foreign =>
          cases h
          exact .inl (.callee hf hargs nofun)

/-- **Where evaluations fail.** An evaluation fails exactly when it reaches a node that
stops it, and it ends there: with the failure of that node, in the run that it left. -/
theorem evaluate_eq_error_iff {e : Expr} {s s₁ : Run σ} {failure : Failure} :
    e.evaluate env host s = .error failure s₁ ↔
      ∃ n s', Reaches env host e s n s' ∧ Stops env host n s' failure s₁ := by
  constructor
  · intro h
    -- down the tree, from each node to the child that fails, until a node stops by itself
    induction e using children_induct generalizing s with
    | node e ih =>
      rcases begins_or_stops h with hstops | ⟨c, s', hc, hfails⟩
      · exact ⟨e, s, .self e s, hstops⟩
      · obtain ⟨n, s'', hn, hstops⟩ := ih c hc.mem_children hfails
        exact ⟨n, s'', .child hc hn, hstops⟩
  · rintro ⟨n, s', hn, hstops⟩
    exact hn.error hstops.evaluate

-- ---------------------------------------------------------------------------
-- What is skipped
-- ---------------------------------------------------------------------------

/-- A node lies in the right operand of an `and` or `or` that is reached and whose left
value decides. -/
def Skips (env : Environment) (host : Host σ) (e : Expr) (s : Run σ) (n : Expr) : Prop :=
  ∃ (op : LogicalOp) (a b : Expr) (p : Place) (s' s'' : Run σ) (v : Value),
    Reaches env host e s (.logical op a b p) s' ∧ a.evaluate env host s' = .ok v s'' ∧
      op.decides v = true ∧ b.Contains n

/-- What is skipped below a child is skipped below the node. -/
theorem Skips.child {e c n : Expr} {s s' : Run σ} (hc : Begins env host e s c s')
    (h : Skips env host c s' n) : Skips env host e s n := by
  obtain ⟨op, a, b, p, s₁, s₂, v, hl, ha, hv, hn⟩ := h
  exact ⟨op, a, b, p, s₁, s₂, v, .child hc hl, ha, hv, hn⟩

/-- An evaluation that succeeds begins that of a child, or its left operand decides. -/
theorem begins_or_decided {e c : Expr} {s s₁ : Run σ} {v : Value}
    (h : e.evaluate env host s = .ok v s₁) (hc : c ∈ e.children) :
    (∃ s' w s'', Begins env host e s c s' ∧ c.evaluate env host s' = .ok w s'') ∨
      ∃ op a p w s', e = .logical op a c p ∧ a.evaluate env host s = .ok w s' ∧
        op.decides w = true := by
  cases e using Expr.casesOn with
  | literal | var => exact absurd hc List.not_mem_nil
  | group e p =>
    obtain rfl := List.mem_singleton.1 hc
    exact .inl ⟨s, v, s₁, .group, h⟩
  | unary op e p =>
    obtain rfl := List.mem_singleton.1 hc
    rw [evaluate] at h
    obtain ⟨w, s', hw, -⟩ := Evaluation.bind_eq_ok h
    exact .inl ⟨s, w, s', .operand, hw⟩
  | binary op a b p =>
    rw [evaluate] at h
    obtain ⟨w, s', hw, h⟩ := Evaluation.bind_eq_ok h
    obtain ⟨u, s'', hu, -⟩ := Evaluation.bind_eq_ok h
    rcases List.mem_cons.1 hc with rfl | hc
    · exact .inl ⟨s, w, s', .left, hw⟩
    · obtain rfl := List.mem_singleton.1 hc
      exact .inl ⟨s', u, s'', .right hw, hu⟩
  | logical op a b p =>
    rw [evaluate] at h
    obtain ⟨w, s', hw, h⟩ := Evaluation.bind_eq_ok h
    rcases List.mem_cons.1 hc with rfl | hc
    · exact .inl ⟨s, w, s', .deciding, hw⟩
    · obtain rfl := List.mem_singleton.1 hc
      by_cases hd : op.decides w = true
      · exact .inr ⟨op, a, p, w, s', rfl, hw, hd⟩
      · rw [if_neg hd] at h
        exact .inl ⟨s', v, s₁, .undecided hw (Bool.not_eq_true _ ▸ hd), h⟩
  | call f args t p =>
    rw [evaluate] at h
    obtain ⟨w, s', hw, h⟩ := Evaluation.bind_eq_ok h
    obtain ⟨us, s'', hargs, -⟩ := Evaluation.bind_eq_ok h
    rcases List.mem_cons.1 hc with rfl | hc
    · exact .inl ⟨s, w, s', .callee, hw⟩
    · -- all arguments have values, so this one does behind those before it
      obtain ⟨before, after, rfl⟩ := List.append_of_mem hc
      obtain ⟨vs, s₂, u, s₃, hvs, hu⟩ := evaluateAll_eq_ok hargs
      exact .inl ⟨s₂, u, s₃, .argument hw hvs, hu⟩

/-- **What a successful evaluation reaches**: every node that it does not skip. -/
theorem reached_or_skipped {e n : Expr} {s s₁ : Run σ} {v : Value} (hn : e.Contains n)
    (h : e.evaluate env host s = .ok v s₁) :
    (∃ s', Reaches env host e s n s') ∨ Skips env host e s n := by
  induction hn generalizing s s₁ v with
  | self e => exact .inl ⟨s, .self e s⟩
  | child hc hn ih =>
    rcases begins_or_decided h hc with ⟨s', w, s'', hbegins, hw⟩ | ⟨op, a, p, w, s', rfl, ha, hd⟩
    · rcases ih hw with ⟨s₂, hreaches⟩ | hskips
      · exact .inl ⟨s₂, .child hbegins hreaches⟩
      · exact .inr (hskips.child hbegins)
    · exact .inr ⟨op, a, _, p, s, s', w, .self _ s, ha, hd, hn⟩

end Expr

end Reckoner
