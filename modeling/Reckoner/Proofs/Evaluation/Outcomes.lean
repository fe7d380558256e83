import Reckoner.Proofs.Evaluation.Calls

/-!
# Reckoner — what calls come to

Every call that an evaluation makes has a value or fails (`Call.outcome`). An evaluation
goes on after a call only if the call has a value, so there are two ways for it to fail:
its last call failed, and that failure is passed on as it is (`PassedOn`); or all its calls
had values, and a node of the expression rejects the kinds of its operands (`Raised`).

Main results:

* `evaluate_succeeds`, `Reaches.succeeds` — as long as an evaluation goes on, all its calls
  have values;
* `UnaryOp.apply_eq_error_iff`, `BinaryOp.apply_eq_error_iff` — which kinds of operands the
  operators reject;
* `failure_origin` — where failures come from, and that a call which fails is the last one.
-/

namespace Reckoner

variable {σ α β : Type} {host : Host σ}

-- ---------------------------------------------------------------------------
-- Outcomes of calls
-- ---------------------------------------------------------------------------

/-- What a computation comes to, whatever it does to the run. -/
def Evaluation.outcome (x : Evaluation σ α) (s : Run σ) : Except Failure α :=
  match x s with
  | .ok v _ => .ok v
  | .error failure _ => .error failure

/-- What a call comes to, from a state of the host. -/
def Call.outcome (host : Host σ) (state : σ) (c : Call) : Except Failure Value :=
  (c.function.call host c.args).outcome ⟨state, #[]⟩

/-- What calls come to that are made one after the other. -/
def outcomes (host : Host σ) : σ → List Call → List (Except Failure Value)
  | _, [] => []
  | state, c :: rest => c.outcome host state :: outcomes host (c.hostAfter host state) rest

/-- Calls behind other calls start from the state that these leave. -/
theorem outcomes_append (host : Host σ) (state : σ) (cs ds : List Call) :
    outcomes host state (cs ++ ds) =
      outcomes host state cs ++ outcomes host (cs.foldl (Call.hostAfter host) state) ds := by
  induction cs generalizing state with
  | nil => rfl
  | cons c cs ih => rw [List.cons_append, outcomes, outcomes, ih, List.cons_append, List.foldl_cons]

namespace Evaluation

theorem outcome_of_ok {x : Evaluation σ α} {s s₁ : Run σ} {v : α} (h : x s = .ok v s₁) :
    x.outcome s = .ok v := by
  rw [outcome, h]

theorem outcome_of_error {x : Evaluation σ α} {s s₁ : Run σ} {failure : Failure}
    (h : x s = .error failure s₁) : x.outcome s = .error failure := by
  rw [outcome, h]

/-- A result that takes no run is what it comes to. -/
theorem outcome_ofExcept (x : Except Failure α) (s : Run σ) : (ofExcept x).outcome s = x := by
  cases x <;> rfl

end Evaluation

/-- What a function comes to depends on the state of the host alone, not on what has been
observed. -/
theorem Function.outcome_call (host : Host σ) (f : Function) (args : List Value) (s : Run σ) :
    (f.call host args).outcome s = (f.call host args).outcome ⟨s.host, #[]⟩ := by
  unfold Function.call
  cases f.checkArity args with
  | error failure => rfl
  | ok _ =>
    cases f.routine with
    | builtin b =>
      show (Evaluation.ofExcept (b.apply args)).outcome s =
        (Evaluation.ofExcept (b.apply args)).outcome ⟨s.host, #[]⟩
      rw [Evaluation.outcome_ofExcept, Evaluation.outcome_ofExcept]
    | hosted =>
      show (Evaluation.ofExcept (host.call f args s.host).outcome).outcome _ =
        (Evaluation.ofExcept (host.call f args s.host).outcome).outcome _
      rw [Evaluation.outcome_ofExcept, Evaluation.outcome_ofExcept]

/-- The outcome of the call that a node makes. -/
theorem Call.outcome_eq (host : Host σ) (c : Call) (s : Run σ) (e : Event) :
    c.outcome host s.host =
      (c.function.call host c.args).outcome { s with events := s.events.push e } :=
  (c.function.outcome_call host c.args { s with events := s.events.push e }).symm

-- ---------------------------------------------------------------------------
-- Calls that have values
-- ---------------------------------------------------------------------------

/-- On the way from one run to another these calls are made, and every one has a value. -/
structure Succeeds (host : Host σ) (made : List Call) (s s₁ : Run σ) : Prop where
  makes : Makes host made s s₁
  values : ∃ vs : List Value, outcomes host s.host made = vs.map .ok

namespace Succeeds

theorem refl (s : Run σ) : Succeeds host [] s s := ⟨.refl s, [], rfl⟩

/-- Calls that have values, one after the other. -/
theorem trans {made made' : List Call} {s s₁ s₂ : Run σ} (h : Succeeds host made s s₁)
    (h' : Succeeds host made' s₁ s₂) : Succeeds host (made ++ made') s s₂ := by
  obtain ⟨hmakes, vs, hvs⟩ := h
  obtain ⟨hmakes', vs', hvs'⟩ := h'
  refine ⟨hmakes.trans hmakes', vs ++ vs', ?_⟩
  rw [outcomes_append, hvs, ← hmakes.host, hvs', List.map_append]

/-- A function that is called and has a value. -/
theorem call {f : Function} {args : List Value} {t : Token} {s s₁ : Run σ} {v : Value}
    (h : f.call host args { s with events := s.events.push (.calling f args t) } = .ok v s₁) :
    Succeeds host [⟨f, args, t⟩] s s₁ := by
  have hmakes := makes_call host f args t s
  rw [Evaluation.final_of_ok h] at hmakes
  have houtcome := Call.outcome_eq host ⟨f, args, t⟩ s (.calling f args t)
  rw [Evaluation.outcome_of_ok h] at houtcome
  exact ⟨hmakes, [v], congrArg (fun o => [o]) houtcome⟩

end Succeeds

namespace Expr

variable {env : Environment}

theorem evaluateAll_succeeds_of {es : List Expr}
    (ih : ∀ e ∈ es, ∀ (s s₁ : Run σ) (v : Value), e.evaluate env host s = .ok v s₁ →
      ∃ made, Succeeds host made s s₁)
    {s s₁ : Run σ} {vs : List Value} (h : evaluateAll env host es s = .ok vs s₁) :
    ∃ made, Succeeds host made s s₁ := by
  induction es generalizing s vs with
  | nil =>
    rw [evaluateAll] at h
    cases h
    exact ⟨[], .refl _⟩
  | cons e es ihs =>
    obtain ⟨ihe, ihes⟩ := List.forall_mem_cons.1 ih
    rw [evaluateAll] at h
    obtain ⟨v, s', hv, h⟩ := Evaluation.bind_eq_ok h
    obtain ⟨vs, s'', hvs, h⟩ := Evaluation.bind_eq_ok h
    cases h
    obtain ⟨made, hmade⟩ := ihe s s' v hv
    obtain ⟨made', hmade'⟩ := ihs ihes hvs
    exact ⟨made ++ made', hmade.trans hmade'⟩

/-- **All calls of an evaluation that succeeds have values.** -/
theorem evaluate_succeeds {e : Expr} {s s₁ : Run σ} {v : Value}
    (h : e.evaluate env host s = .ok v s₁) : ∃ made, Succeeds host made s s₁ := by
  induction e generalizing s s₁ v with
  | literal l p =>
    cases h
    exact ⟨[], .refl s⟩
  | var name p =>
    cases h
    have hcalls := Run.calls_push s (.resolved name (env.get name))
    exact ⟨[], ⟨hcalls, rfl⟩, [], rfl⟩
  | group e p ih =>
    rw [evaluate] at h
    exact ih h
  | unary op e p ih =>
    rw [evaluate] at h
    obtain ⟨w, s', hw, h⟩ := Evaluation.bind_eq_ok h
    obtain ⟨-, rfl⟩ := Evaluation.ofOperator_eq_ok h
    exact ih hw
  | binary op a b p iha ihb =>
    rw [evaluate] at h
    obtain ⟨x, s', ha, h⟩ := Evaluation.bind_eq_ok h
    obtain ⟨y, s'', hb, h⟩ := Evaluation.bind_eq_ok h
    obtain ⟨-, rfl⟩ := Evaluation.ofOperator_eq_ok h
    obtain ⟨made, hmade⟩ := iha ha
    obtain ⟨made', hmade'⟩ := ihb hb
    exact ⟨made ++ made', hmade.trans hmade'⟩
  | logical op a b p iha ihb =>
    rw [evaluate] at h
    obtain ⟨x, s', ha, h⟩ := Evaluation.bind_eq_ok h
    obtain ⟨made, hmade⟩ := iha ha
    by_cases hd : op.decides x = true
    · rw [if_pos hd] at h
      cases h
      exact ⟨made, hmade⟩
    · rw [if_neg hd] at h
      obtain ⟨made', hmade'⟩ := ihb h
      exact ⟨made ++ made', hmade.trans hmade'⟩
  | call f args t p ihf ihargs =>
    have hcall := h
    rw [evaluate] at h
    obtain ⟨w, s', hf, h⟩ := Evaluation.bind_eq_ok h
    obtain ⟨vs, s'', hargs, -⟩ := Evaluation.bind_eq_ok h
    obtain ⟨made, hmade⟩ := ihf hf
    obtain ⟨made', hmade'⟩ := evaluateAll_succeeds_of (fun a ha _ _ _ => ihargs a ha) hargs
    rw [evaluate_call hf hargs] at hcall
    cases w with
    | function g =>
      have hlast := Succeeds.call hcall
      exact ⟨(made ++ made') ++ [⟨g, vs, t⟩], (hmade.trans hmade').trans hlast⟩
    | nil | bool | number | string | foreign => cases hcall

/-- All calls have values where the arguments have. -/
theorem evaluateAll_succeeds {es : List Expr} {s s₁ : Run σ} {vs : List Value}
    (h : evaluateAll env host es s = .ok vs s₁) : ∃ made, Succeeds host made s s₁ :=
  evaluateAll_succeeds_of (fun _ _ _ _ _ => evaluate_succeeds) h

/-- Until a child is begun all calls have values. -/
theorem Begins.succeeds {e c : Expr} {s s' : Run σ} (h : Begins env host e s c s') :
    ∃ made, Succeeds host made s s' := by
  cases h with
  | group | operand | left | deciding | callee => exact ⟨[], .refl s⟩
  | right ha | undecided ha _ => exact evaluate_succeeds ha
  | argument hf hbefore =>
    obtain ⟨made, hmade⟩ := evaluate_succeeds hf
    obtain ⟨made', hmade'⟩ := evaluateAll_succeeds hbefore
    exact ⟨made ++ made', hmade.trans hmade'⟩

/-- All calls that are made before a node is reached have values. -/
theorem Reaches.succeeds {e n : Expr} {s s' : Run σ} (h : Reaches env host e s n s') :
    ∃ made, Succeeds host made s s' := by
  induction h with
  | self e s => exact ⟨[], .refl s⟩
  | child hc _ ih =>
    obtain ⟨made, hmade⟩ := hc.succeeds
    obtain ⟨made', hmade'⟩ := ih
    exact ⟨made ++ made', hmade.trans hmade'⟩

end Expr

-- ---------------------------------------------------------------------------
-- Kinds of operands
-- ---------------------------------------------------------------------------

/-- The kinds of operand that an operator takes. -/
def UnaryOp.Takes : UnaryOp → Value → Prop
  | .not, _ => True
  | .negate, v => ∃ x, v = .number x

/-- The kinds of operands that an operator takes: anything can be compared for equality,
numbers and strings can be added, and all else is done with numbers. -/
def BinaryOp.Takes : BinaryOp → Value → Value → Prop
  | .equal, _, _ | .notEqual, _, _ => True
  | .add, v, w =>
    (∃ x y, v = .number x ∧ w = .number y) ∨ ∃ x y, v = .string x ∧ w = .string y
  | _, v, w => ∃ x y, v = .number x ∧ w = .number y

/-- What is wrong with operands that an operator does not take. -/
def BinaryOp.fault (op : BinaryOp) (v w : Value) : OperandFault :=
  if op = .add then .addition v w else .numbers op v w

/-- An operator has no result exactly for an operand of a kind that it does not take. -/
theorem UnaryOp.apply_eq_error_iff {op : UnaryOp} {v : Value} {fault : OperandFault} :
    op.apply v = .error fault ↔ ¬ op.Takes v ∧ fault = .negation v := by
  cases op <;> cases v <;> simp [UnaryOp.apply, UnaryOp.Takes, eq_comm]

/-- An operator has no result exactly for operands of kinds that it does not take. -/
theorem BinaryOp.apply_eq_error_iff {op : BinaryOp} {v w : Value} {fault : OperandFault} :
    op.apply v w = .error fault ↔ ¬ op.Takes v w ∧ fault = op.fault v w := by
  constructor
  · intro h
    cases op <;> cases v <;> cases w <;> cases h <;> exact ⟨by simp [BinaryOp.Takes], rfl⟩
  · rintro ⟨htakes, rfl⟩
    cases op <;> cases v <;> cases w <;>
      first
      | rfl
      | exact absurd (by simp [BinaryOp.Takes]) htakes

-- ---------------------------------------------------------------------------
-- Two ways to fail
-- ---------------------------------------------------------------------------

namespace Expr

variable {env : Environment}

/-- A node that is evaluated from a run rejects its operands: they all have values, the
callee and the arguments of a call too, but not of the kinds that the node takes. The run
that is left is that of the last operand. -/
inductive Rejects (env : Environment) (host : Host σ) :
    Expr → Run σ → OperandFault → Run σ → Prop
  | negation {e : Expr} {p : Place} {s s₁ : Run σ} {v : Value}
      (he : e.evaluate env host s = .ok v s₁) (hv : ¬ UnaryOp.negate.Takes v) :
      Rejects env host (.unary .negate e p) s (.negation v) s₁
  | operands {op : BinaryOp} {a b : Expr} {p : Place} {s s₁ s₂ : Run σ} {v w : Value}
      (ha : a.evaluate env host s = .ok v s₁) (hb : b.evaluate env host s₁ = .ok w s₂)
      (hvw : ¬ op.Takes v w) : Rejects env host (.binary op a b p) s (op.fault v w) s₂
  | callee {f : Expr} {args : List Expr} {t : Token} {p : Place} {s s₁ s₂ : Run σ} {v : Value}
      {vs : List Value} (hf : f.evaluate env host s = .ok v s₁)
      (hargs : evaluateAll env host args s₁ = .ok vs s₂) (hv : ∀ g, v ≠ .function g) :
      Rejects env host (.call f args t p) s (.callee v t.line) s₂

/-- The calls before the last one had values, the last one failed, and its failure is
passed on as it is. -/
def PassedOn (host : Host σ) (state : σ) (made : List Call) (failure : Failure) : Prop :=
  ∃ vs : List Value, outcomes host state made = vs.map .ok ++ [.error failure]

/-- All calls had values, and the failure is that of a node which was reached and rejects
its operands: it says what is wrong with them, and where the node stands. -/
def Raised (env : Environment) (host : Host σ) (e : Expr) (s : Run σ) (made : List Call)
    (failure : Failure) (s₁ : Run σ) : Prop :=
  (∃ vs : List Value, outcomes host s.host made = vs.map .ok) ∧
    ∃ n s' fault, Reaches env host e s n s' ∧ Rejects env host n s' fault s₁ ∧
      failure = .diagnostic
        { stage := .runtime, message := fault.message
          line := some n.line, span := some n.span, notes := fault.notes }

/-- A node stops an evaluation after its operands, and all their calls had values: it rejects
the operands, or the call that it makes fails. -/
theorem Stops.after_operands {n : Expr} {s s₁ : Run σ} {failure : Failure}
    (h : Stops env host n s failure s₁) :
    ∃ made s', Succeeds host made s s' ∧
      ((∃ fault, Rejects env host n s fault s₁ ∧ s₁ = s' ∧ failure = fault.failure n.place) ∨
        ∃ c : Call, c.function.call host c.args
          { s' with events := s'.events.push (.calling c.function c.args c.closing) } =
            .error failure s₁) := by
  cases h with
  | @operand op _ _ _ _ _ _ he hfault =>
    obtain ⟨htakes, rfl⟩ := UnaryOp.apply_eq_error_iff.1 hfault
    obtain ⟨made, hmade⟩ := evaluate_succeeds he
    cases op with
    | not => exact absurd trivial htakes
    | negate => exact ⟨made, s₁, hmade, .inl ⟨_, .negation he htakes, rfl, rfl⟩⟩
  | operands ha hb hfault =>
    obtain ⟨htakes, rfl⟩ := BinaryOp.apply_eq_error_iff.1 hfault
    obtain ⟨made, hmade⟩ := evaluate_succeeds ha
    obtain ⟨made', hmade'⟩ := evaluate_succeeds hb
    exact ⟨_, s₁, hmade.trans hmade', .inl ⟨_, .operands ha hb htakes, rfl, rfl⟩⟩
  | callee hf hargs hv =>
    obtain ⟨made, hmade⟩ := evaluate_succeeds hf
    obtain ⟨made', hmade'⟩ := evaluateAll_succeeds hargs
    exact ⟨_, s₁, hmade.trans hmade', .inl ⟨_, .callee hf hargs hv, rfl, rfl⟩⟩
  | @call _ _ t _ _ _ s' _ g vs _ hf hargs hcall =>
    obtain ⟨made, hmade⟩ := evaluate_succeeds hf
    obtain ⟨made', hmade'⟩ := evaluateAll_succeeds hargs
    exact ⟨_, s', hmade.trans hmade', .inr ⟨⟨g, vs, t⟩, hcall⟩⟩

/-- The failure of an evaluation is passed on, or it is raised. -/
theorem passedOn_or_raised {e : Expr} {s s₁ : Run σ} {failure : Failure}
    (h : e.evaluate env host s = .error failure s₁) :
    ∃ made, Makes host made s s₁ ∧
      (PassedOn host s.host made failure ∨ Raised env host e s made failure s₁) := by
  obtain ⟨n, s', hn, hstops⟩ := evaluate_eq_error_iff.1 h
  obtain ⟨before, hbefore⟩ := hn.succeeds
  obtain ⟨operands, s'', hoperands, hend⟩ := hstops.after_operands
  have hall := hbefore.trans hoperands
  obtain ⟨vs, hvs⟩ := hall.values
  rcases hend with ⟨fault, hrejects, rfl, rfl⟩ | ⟨c, hcall⟩
  · exact ⟨_, hall.makes, .inr ⟨⟨vs, hvs⟩, n, s', fault, hn, hrejects, rfl⟩⟩
  · have hlast := makes_call host c.function c.args c.closing s''
    rw [Evaluation.final_of_error hcall] at hlast
    -- the call is made from the state of the host that those before it left
    have houtcome := Call.outcome_eq host c s'' (.calling c.function c.args c.closing)
    rw [Evaluation.outcome_of_error hcall] at houtcome
    refine ⟨_, hall.makes.trans hlast, .inl ⟨vs, ?_⟩⟩
    rw [outcomes_append, hvs, ← hall.makes.host]
    exact congrArg (fun o => vs.map .ok ++ [o]) houtcome

/-- There is no failure among values. -/
theorem not_value_of_error {vs : List α} {failure : Failure}
    {before after : List (Except Failure α)}
    (h : vs.map .ok = before ++ .error failure :: after) : False := by
  have hmem : Except.error failure ∈ before ++ .error failure :: after :=
    List.mem_append_right _ (List.mem_cons_self ..)
  rw [← h] at hmem
  obtain ⟨v, -, hv⟩ := List.mem_map.1 hmem
  cases hv

/-- Among values and one failure behind them, only the last is a failure. -/
theorem eq_last_of_error {vs : List α} {failure failure' : Failure}
    {before after : List (Except Failure α)}
    (h : vs.map .ok ++ [.error failure] = before ++ .error failure' :: after) :
    after = [] ∧ failure' = failure := by
  induction vs generalizing before with
  | nil =>
    cases before with
    | nil =>
      cases h
      exact ⟨rfl, rfl⟩
    | cons o before =>
      have hlength := congrArg List.length h
      simp at hlength
  | cons v vs ih =>
    cases before with
    | nil => cases h
    | cons o before =>
      rw [List.map_cons, List.cons_append, List.cons_append] at h
      exact ih (List.cons.inj h).2

/-- **Where failures come from.** An expression is evaluated, in any environment and from any
state of any host. If the evaluation fails, then either the last call it makes fails with
that very failure, or all its calls have values and a node rejects its operands: a negation,
an operator between two operands or a call, at whose line and span the failure lies. It is
one of the two and not both. And a call that fails is the last one, and the evaluation fails
with the failure of the call. -/
theorem failure_origin (env : Environment) (host : Host σ) (e : Expr) (s : Run σ) :
    ∃ made, Makes host made s ((e.evaluate env host).final s) ∧
      (∀ failure s₁, e.evaluate env host s = .error failure s₁ →
        (PassedOn host s.host made failure ∨ Raised env host e s made failure s₁) ∧
          ¬ (PassedOn host s.host made failure ∧ Raised env host e s made failure s₁)) ∧
      ∀ before failure after, outcomes host s.host made = before ++ .error failure :: after →
        after = [] ∧ ∃ s₁, e.evaluate env host s = .error failure s₁ := by
  cases h : e.evaluate env host s with
  | ok v s₁ =>
    obtain ⟨made, hmakes, vs, hvs⟩ := evaluate_succeeds h
    rw [Evaluation.final_of_ok h]
    refine ⟨made, hmakes, nofun, fun before failure after houtcomes => ?_⟩
    exact (not_value_of_error (hvs.symm.trans houtcomes)).elim
  | error failure s₁ =>
    obtain ⟨made, hmakes, horigin⟩ := passedOn_or_raised h
    rw [Evaluation.final_of_error h]
    refine ⟨made, hmakes, fun failure' s' hfails => ?_, fun before failure' after houtcomes => ?_⟩
    · cases hfails
      refine ⟨horigin, fun ⟨hpassed, hraised⟩ => ?_⟩
      obtain ⟨vs, hvs⟩ := hpassed
      obtain ⟨⟨ws, hws⟩, -⟩ := hraised
      exact not_value_of_error (hws.symm.trans hvs)
    · rcases horigin with ⟨vs, hvs⟩ | ⟨⟨vs, hvs⟩, -⟩
      · obtain ⟨rfl, rfl⟩ := eq_last_of_error (hvs.symm.trans houtcomes)
        exact ⟨rfl, s₁, rfl⟩
      · exact (not_value_of_error (hvs.symm.trans houtcomes)).elim

/-- The second argument of a call is a call that fails. Its failure is passed on, and
neither the third argument nor the outer call is come to. -/
theorem failure_origin_argument :
    let env := (Environment.empty.define "f" (.function ⟨"f", none, .hosted, 0⟩)).define "g"
      (.function ⟨"g", none, .hosted, 1⟩)
    let host : Host Nat :=
      ⟨fun f _ count => ⟨if f.identity = 1 then .error (.io "closed") else .ok .nil, count + 1, []⟩⟩
    let call (name : String) (args : List Expr) : Expr :=
      .call (.var name default) args default default
    let e := call "f" [call "f" [], call "g" [], call "f" []]
    ∃ made s₁, e.evaluate env host ⟨0, #[]⟩ = .error (.io "closed") s₁ ∧ s₁.host = 2 ∧
      Makes host made ⟨0, #[]⟩ s₁ ∧ PassedOn host 0 made (.io "closed") := by
  intro env host call e
  obtain ⟨made, hmakes, horigin, -⟩ := failure_origin env host e ⟨0, #[]⟩
  refine ⟨made, _, rfl, rfl, hmakes, ?_⟩
  obtain ⟨hpassed | hraised, -⟩ := horigin _ _ rfl
  · exact hpassed
  · -- an operator does not fail with an error of reading
    obtain ⟨-, _, _, _, -, -, hfailure⟩ := hraised
    cases hfailure

end Expr

end Reckoner
