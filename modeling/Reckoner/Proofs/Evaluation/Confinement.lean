import Reckoner.Proofs.Evaluation.Outcomes
import Reckoner.Proofs.Evaluation.Simulation

/-!
# Reckoner — no value is forged

An expression can make plain values of its own, but it gets functions and foreign values
only from its environment and from the functions that it calls. So take some set of values
that holds all plain ones, those of the environment, and whatever functions of the set
answer for arguments from the set. An evaluation never leaves it (`evaluate_confined`): its
value is in the set, and so are the functions it calls and the arguments it passes, also if
it fails in the end.

What a function answers may depend on the state of the host. The answers that count are
those which the host gives after calls within the set (`Host.Closed`).
-/

namespace Reckoner

variable {σ α β : Type} {host : Host σ} {values : Value → Prop} {start : σ}

-- ---------------------------------------------------------------------------
-- Calls within a set of values
-- ---------------------------------------------------------------------------

/-- The function that is called and all its arguments are among given values. -/
def Call.Within (values : Value → Prop) (c : Call) : Prop :=
  values (.function c.function) ∧ ∀ v ∈ c.args, values v

/-- A host comes from one state to another by calls within given values. -/
def Host.Leads (host : Host σ) (values : Value → Prop) (start state : σ) : Prop :=
  ∃ made : List Call, (∀ c ∈ made, c.Within values) ∧
    state = made.foldl (Call.hostAfter host) start

/-- Values are closed under calls: whatever calls within them were made before, a call within
them has a value among them if it has any. -/
def Host.Closed (host : Host σ) (values : Value → Prop) (start : σ) : Prop :=
  ∀ (state : σ) (c : Call) (v : Value), host.Leads values start state → c.Within values →
    c.outcome host state = .ok v → values v

/-- On the way from one run to another only calls within given values are made. -/
def Confined (host : Host σ) (values : Value → Prop) (s s₁ : Run σ) : Prop :=
  ∃ made, Makes host made s s₁ ∧ ∀ c ∈ made, c.Within values

/-- Where no call is made, none is made with other values. -/
theorem Confined.of_makes_nil {s s₁ : Run σ} (h : Makes host [] s s₁) :
    Confined host values s s₁ :=
  ⟨[], h, fun _ hc => absurd hc List.not_mem_nil⟩

theorem Confined.refl (s : Run σ) : Confined host values s s := .of_makes_nil (.refl s)

/-- What keeps to the values step by step keeps to them on the whole way. -/
theorem Confined.trans {s s₁ s₂ : Run σ} (h : Confined host values s s₁)
    (h' : Confined host values s₁ s₂) : Confined host values s s₂ := by
  obtain ⟨made, hmade, hwithin⟩ := h
  obtain ⟨made', hmade', hwithin'⟩ := h'
  exact ⟨made ++ made', hmade.trans hmade', List.forall_mem_append.2 ⟨hwithin, hwithin'⟩⟩

theorem Host.Leads.refl (state : σ) : host.Leads values state state :=
  ⟨[], fun _ hc => absurd hc List.not_mem_nil, rfl⟩

/-- Where the host has come by calls within the values, further ones lead on. -/
theorem Host.Leads.confined {s s₁ : Run σ} (h : host.Leads values start s.host)
    (h' : Confined host values s s₁) : host.Leads values start s₁.host := by
  obtain ⟨made, hwithin, hstate⟩ := h
  obtain ⟨made', hmade', hwithin'⟩ := h'
  refine ⟨made ++ made', List.forall_mem_append.2 ⟨hwithin, hwithin'⟩, ?_⟩
  rw [hmade'.host, hstate, List.foldl_append]

-- ---------------------------------------------------------------------------
-- Computations that keep to a set of values
-- ---------------------------------------------------------------------------

/-- From every state that calls within given values lead to, a computation makes only such
calls, and its result has a property if it has any. -/
def Keeps (host : Host σ) (values : Value → Prop) (start : σ) (P : α → Prop)
    (x : Evaluation σ α) : Prop :=
  ∀ s, host.Leads values start s.host →
    Confined host values s (x.final s) ∧ ∀ v s₁, x s = .ok v s₁ → P v

namespace Keeps

variable {P : α → Prop} {Q : β → Prop}

/-- A value with the property is a result that makes no calls. -/
theorem pure {v : α} (hv : P v) : Keeps host values start P (pure v) := by
  intro s _
  refine ⟨.refl s, fun w s₁ h => ?_⟩
  cases h
  exact hv

/-- A failure has no value that could lack the property. -/
theorem throw {failure : Failure} : Keeps host values start P (throw failure) := by
  intro s _
  refine ⟨.refl s, fun w s₁ h => ?_⟩
  cases h

/-- One computation behind another keeps to the values if both do; the second may rely on what the
first one answers. -/
theorem bind {x : Evaluation σ α} {f : α → Evaluation σ β} (hx : Keeps host values start P x)
    (hf : ∀ v, P v → Keeps host values start Q (f v)) : Keeps host values start Q (x >>= f) := by
  intro s hs
  obtain ⟨hfirst, hv⟩ := hx s hs
  cases hr : x s with
  | error failure s' =>
    rw [Evaluation.final_of_error hr] at hfirst
    rw [Evaluation.final_bind_of_error hr, Evaluation.bind_of_error hr]
    exact ⟨hfirst, nofun⟩
  | ok v s' =>
    rw [Evaluation.final_of_ok hr] at hfirst
    rw [Evaluation.final_bind_of_ok hr, Evaluation.bind_of_ok hr]
    -- the second part begins where calls within the set have led
    have hs' : host.Leads values start s'.host := hs.confined hfirst
    obtain ⟨hrest, hw⟩ := hf v (hv v s' hr) s' hs'
    exact ⟨hfirst.trans hrest, hw⟩

/-- An operator makes no calls, so its value is all there is to check. -/
theorem ofOperator {p : Place} {x : Except OperandFault α} (hx : ∀ v, x = .ok v → P v) :
    Keeps host values start P (Evaluation.ofOperator p x) := by
  cases x with
  | ok v => exact .pure (hx v rfl)
  | error fault => exact .throw

/-- A variable is looked up. -/
theorem resolve {name : String} {value : Value} (hv : values value) :
    Keeps host values start values (do
      Evaluation.record (.resolved name value)
      return value) := by
  intro s _
  have hmakes : Makes host [] s { s with events := s.events.push (.resolved name value) } :=
    ⟨Run.calls_push s (.resolved name value), rfl⟩
  refine ⟨.of_makes_nil hmakes, fun w s₁ h => ?_⟩
  cases h
  exact hv

/-- A function is called, and its value is among the given ones since they are closed under
calls. -/
theorem call (hclosed : host.Closed values start) {f : Function} {args : List Value} {t : Token}
    (hf : values (.function f)) (hargs : ∀ v ∈ args, values v) :
    Keeps host values start values (do
      Evaluation.record (.calling f args t)
      f.call host args) := by
  intro s hs
  have hwithin : Call.Within values ⟨f, args, t⟩ := ⟨hf, hargs⟩
  refine ⟨⟨_, makes_call host f args t s, List.forall_mem_singleton.2 hwithin⟩, fun v s₁ h => ?_⟩
  have houtcome := Call.outcome_eq host ⟨f, args, t⟩ s (.calling f args t)
  have hv : (f.call host args).outcome { s with events := s.events.push (.calling f args t) } =
      .ok v := Evaluation.outcome_of_ok h
  exact hclosed s.host ⟨f, args, t⟩ v hs hwithin (houtcome.trans hv)

end Keeps

-- ---------------------------------------------------------------------------
-- Expressions
-- ---------------------------------------------------------------------------

namespace Expr

variable {env : Environment}

/-- Arguments keep to the values together if each of them does. -/
theorem evaluateAll_keeps {es : List Expr}
    (ih : ∀ e ∈ es, Keeps host values start values (e.evaluate env host)) :
    Keeps host values start (fun vs => ∀ v ∈ vs, values v) (evaluateAll env host es) := by
  induction es with
  | nil =>
    rw [evaluateAll]
    exact .pure fun _ hv => absurd hv List.not_mem_nil
  | cons e es ihs =>
    obtain ⟨he, hes⟩ := List.forall_mem_cons.1 ih
    rw [evaluateAll]
    exact he.bind fun v hv => (ihs hes).bind fun vs hvs => .pure (List.forall_mem_cons.2 ⟨hv, hvs⟩)

/-- **No value is forged.** Take values that include all plain ones and what the variables of
an expression mean, and that are closed under calls. The evaluation of the expression keeps
to them. -/
theorem evaluate_keeps (hplain : ∀ v : Value, v.IsPlain → values v)
    (hclosed : host.Closed values start) {e : Expr}
    (hvars : ∀ name p, e.Contains (.var name p) → values (env.get name)) :
    Keeps host values start values (e.evaluate env host) := by
  induction e with
  | literal l p =>
    rw [evaluate]
    exact .pure (hplain _ (Value.isPlain_ofLiteral l))
  | var name p =>
    rw [evaluate]
    exact .resolve (hvars name p (.self _))
  | group e p ih =>
    rw [evaluate]
    exact ih fun name q hn => hvars name q (.child mem_group hn)
  | unary op e p ih =>
    rw [evaluate]
    refine (ih fun name q hn => hvars name q (.child mem_unary hn)).bind fun v _ => ?_
    exact .ofOperator fun w hw => hplain w (UnaryOp.isPlain_apply hw)
  | binary op a b p iha ihb =>
    rw [evaluate]
    refine (iha fun name q hn => hvars name q (.child left_mem_binary hn)).bind fun v _ => ?_
    refine (ihb fun name q hn => hvars name q (.child right_mem_binary hn)).bind fun w _ => ?_
    exact .ofOperator fun u hu => hplain u (BinaryOp.isPlain_apply hu)
  | logical op a b p iha ihb =>
    rw [evaluate]
    refine (iha fun name q hn => hvars name q (.child left_mem_logical hn)).bind fun v hv => ?_
    by_cases hd : op.decides v = true
    · rw [if_pos hd]
      exact .pure hv
    · rw [if_neg hd]
      exact ihb fun name q hn => hvars name q (.child right_mem_logical hn)
  | call f args t p ihf ihargs =>
    rw [evaluate]
    refine (ihf fun name q hn => hvars name q (.child callee_mem_call hn)).bind fun v hv => ?_
    have hargs : ∀ a ∈ args, Keeps host values start values (a.evaluate env host) :=
      fun a ha => ihargs a ha fun name q hn => hvars name q (.child (arg_mem_call ha) hn)
    refine (evaluateAll_keeps hargs).bind fun vs hvs => ?_
    cases v with
    | function g => exact .call hclosed hv hvs
    | nil | bool | number | string | foreign => exact .throw

end Expr

end Reckoner
