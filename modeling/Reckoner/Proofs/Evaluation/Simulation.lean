import Reckoner.Evaluation
import Reckoner.Proofs.Tree

/-!
# Reckoner — two evaluations of the same expression

An expression is evaluated twice: from different runs, in different environments, or
with its nodes at different places. A **simulation** says what is to be the same about
the two: which runs count as the same, which failures do, and which values can come up
at all. If single steps keep to it (`Simulation.Lawful`), the whole evaluations do
(`Simulation.evaluate`): both have the same value, or both fail with failures that
count as the same.

Every comparison of evaluations further on is an instance.
-/

namespace Reckoner

variable {σ α β : Type}

/-- What is to be the same about two evaluations. -/
structure Simulation (σ : Type) where
  /-- Runs that count as the same. -/
  runs : Run σ → Run σ → Prop
  /-- The values that can come up. -/
  values : Value → Prop
  /-- Failures that count as the same. -/
  failures : Failure → Failure → Prop

namespace Simulation

/-- Results that count as the same: one value with a property, or two failures. -/
inductive Matches (S : Simulation σ) (P : α → Prop) :
    EStateM.Result Failure (Run σ) α → EStateM.Result Failure (Run σ) α → Prop
  | ok {v : α} {s s' : Run σ} (hv : P v) (hs : S.runs s s') : Matches S P (.ok v s) (.ok v s')
  | error {f f' : Failure} {s s' : Run σ} (hf : S.failures f f') (hs : S.runs s s') :
      Matches S P (.error f s) (.error f' s')

/-- From runs that count as the same, two computations have results that do. -/
def Agree (S : Simulation σ) (P : α → Prop) (x x' : Evaluation σ α) : Prop :=
  ∀ s s', S.runs s s' → S.Matches P (x s) (x' s')

-- ---------------------------------------------------------------------------
-- Computations
-- ---------------------------------------------------------------------------

section Computations

variable {S : Simulation σ} {P : α → Prop} {Q : β → Prop}

/-- One value with the property on both sides. -/
theorem Agree.pure {v : α} (hv : P v) : S.Agree P (pure v) (pure v) :=
  fun _ _ hs => .ok hv hs

/-- Two failures that count as the same. -/
theorem Agree.throw {f f' : Failure} (hf : S.failures f f') :
    S.Agree P (throw f) (throw f') :=
  fun _ _ hs => .error hf hs

/-- Computations that agree, behind others that do: the second ones start from one value. -/
theorem Agree.bind {x x' : Evaluation σ α} {f f' : α → Evaluation σ β} (hx : S.Agree P x x')
    (hf : ∀ v, P v → S.Agree Q (f v) (f' v)) : S.Agree Q (x >>= f) (x' >>= f') := by
  intro s s' hs
  have hm := hx s s' hs
  show S.Matches Q (EStateM.bind x f s) (EStateM.bind x' f' s')
  unfold EStateM.bind
  generalize x s = r at hm
  generalize x' s' = r' at hm
  cases hm with
  | ok hv hs => exact hf _ hv _ _ hs
  | error hf hs => exact .error hf hs

/-- Two events may be recorded if the runs still count as the same with them. -/
theorem Agree.record {e e' : Event}
    (h : ∀ s s', S.runs s s' →
      S.runs { s with events := s.events.push e } { s' with events := s'.events.push e' }) :
    S.Agree (fun _ => True) (Evaluation.record e) (Evaluation.record e') :=
  fun s s' hs => .ok trivial (h s s' hs)

/-- An operator at two places: its value is the same, and its failure has to count as the same at
both. -/
theorem Agree.ofOperator {p p' : Place} {x : Except OperandFault α} (hv : ∀ v, x = .ok v → P v)
    (hf : ∀ fault, x = .error fault → S.failures (fault.failure p) (fault.failure p')) :
    S.Agree P (Evaluation.ofOperator p x) (Evaluation.ofOperator p' x) := by
  cases x with
  | ok v => exact .pure (hv v rfl)
  | error fault => exact .throw (hf fault rfl)

/-- A result that takes no run. -/
theorem agree_ofExcept (hf : ∀ failure, S.failures failure failure) (x : Except Failure α) :
    S.Agree (fun _ => True) (Evaluation.ofExcept x) (Evaluation.ofExcept x) := by
  cases x with
  | ok v => exact .pure trivial
  | error f => exact .throw (hf f)

/-- A function does the same in runs that count as the same, if these have one state of the
host, and still count as the same after one and the same reply. -/
theorem agree_call (hhost : ∀ {s s' : Run σ}, S.runs s s' → s.host = s'.host)
    (hreply : ∀ {s s' : Run σ} (state : σ) (events : List Event), S.runs s s' →
      S.runs ⟨state, s.events ++ events.map Event.relayed⟩
        ⟨state, s'.events ++ events.map Event.relayed⟩)
    (hf : ∀ failure, S.failures failure failure) (host : Host σ) (f : Function)
    (args : List Value) : S.Agree (fun _ => True) (f.call host args) (f.call host args) := by
  unfold Function.call
  refine (agree_ofExcept hf _).bind fun _ _ => ?_
  cases f.routine with
  | builtin b => exact agree_ofExcept hf _
  | hosted =>
    intro s s' hs
    let reply := host.call f args s.host
    show S.Matches _
      (Evaluation.ofExcept reply.outcome ⟨reply.state, s.events ++ reply.events.map Event.relayed⟩)
      (Evaluation.ofExcept (host.call f args s'.host).outcome
        ⟨(host.call f args s'.host).state,
          s'.events ++ (host.call f args s'.host).events.map Event.relayed⟩)
    rw [← hhost hs]
    exact agree_ofExcept hf _ _ _ (hreply reply.state reply.events hs)

end Computations

end Simulation

-- ---------------------------------------------------------------------------
-- Values of operators
-- ---------------------------------------------------------------------------

/-- The values that need no host. -/
def Value.IsPlain : Value → Prop
  | .nil | .bool _ | .number _ | .string _ => True
  | .function _ | .foreign _ => False

/-- A literal needs no host. -/
theorem Value.isPlain_ofLiteral (l : Literal) : (Value.ofLiteral l).IsPlain := by
  cases l <;> trivial

/-- Whatever operators are applied to, their values need no host either. -/
theorem UnaryOp.isPlain_apply {op : UnaryOp} {v w : Value} (h : op.apply v = .ok w) :
    w.IsPlain := by
  cases op <;> cases v <;> cases h <;> trivial

theorem BinaryOp.isPlain_apply {op : BinaryOp} {a b w : Value} (h : op.apply a b = .ok w) :
    w.IsPlain := by
  cases op <;> cases a <;> cases b <;> cases h <;> trivial

/-- Only about calls there is more to say than a message. -/
theorem UnaryOp.notes_of_apply {op : UnaryOp} {v : Value} {fault : OperandFault}
    (h : op.apply v = .error fault) : fault.notes = [] := by
  cases op <;> cases v <;> cases h <;> rfl

theorem BinaryOp.notes_of_apply {op : BinaryOp} {a b : Value} {fault : OperandFault}
    (h : op.apply a b = .error fault) : fault.notes = [] := by
  cases op <;> cases a <;> cases b <;> cases h <;> rfl

-- ---------------------------------------------------------------------------
-- Expressions
-- ---------------------------------------------------------------------------

namespace Simulation

/-- What single steps have to keep to, when the nodes of one expression and the tokens
that close its calls stand elsewhere in the other. -/
structure Lawful (S : Simulation σ) (host : Host σ) (place : Place → Place)
    (closing : Token → Token) : Prop where
  resolved : ∀ {s s' : Run σ} (name : String) (v : Value), S.runs s s' →
    S.runs { s with events := s.events.push (.resolved name v) }
      { s' with events := s'.events.push (.resolved name v) }
  calling : ∀ {s s' : Run σ} (f : Function) (args : List Value) (t : Token), S.runs s s' →
    S.runs { s with events := s.events.push (.calling f args t) }
      { s' with events := s'.events.push (.calling f args (closing t)) }
  plain : ∀ {v : Value}, v.IsPlain → S.values v
  call : ∀ {f : Function} {args : List Value}, S.values (.function f) →
    (∀ v ∈ args, S.values v) → S.Agree S.values (f.call host args) (f.call host args)
  fault : ∀ (fault : OperandFault) (p : Place), fault.notes = [] →
    S.failures (fault.failure p) (fault.failure (place p))
  callee : ∀ (v : Value) (t : Token) (p : Place),
    S.failures ((OperandFault.callee v t.line).failure p)
      ((OperandFault.callee v (closing t).line).failure (place p))

variable {S : Simulation σ} {host : Host σ} {place : Place → Place} {closing : Token → Token}
  {env env' : Environment}

/-- A name that occurs in an expression means the same in both environments, and
something that can come up. -/
def Bound (S : Simulation σ) (env env' : Environment) (e : Expr) : Prop :=
  ∀ name p, e.Contains (.var name p) → env.get name = env'.get name ∧ S.values (env.get name)

/-- What holds of the variables of a tree holds of those of its children. -/
theorem Bound.child {e c : Expr} (h : S.Bound env env' e) (hc : c ∈ e.children) :
    S.Bound env env' c :=
  fun name p hn => h name p (.child hc hn)

section Nodes

variable {a a' b b' e e' f f' : Expr}

/-- A literal has one value on both sides. This and what follows is the step of the induction for
each kind of node. -/
theorem Lawful.literal (h : S.Lawful host place closing) (v : Literal) (p p' : Place) :
    S.Agree S.values ((Expr.literal v p).evaluate env host)
      ((Expr.literal v p').evaluate env' host) := by
  rw [Expr.evaluate, Expr.evaluate]
  exact .pure (h.plain (Value.isPlain_ofLiteral v))

/-- A variable, if the two environments bind it to the same. -/
theorem Lawful.var (h : S.Lawful host place closing) {name : String}
    (hget : env.get name = env'.get name) (hv : S.values (env.get name)) (p p' : Place) :
    S.Agree S.values ((Expr.var name p).evaluate env host)
      ((Expr.var name p').evaluate env' host) := by
  rw [Expr.evaluate, Expr.evaluate]
  show S.Agree S.values _ (do
    let value := env'.get name
    Evaluation.record (.resolved name value)
    return value)
  rw [← hget]
  exact (Agree.record fun _ _ hs => h.resolved name _ hs).bind fun _ _ => .pure hv

/-- A sign whose operands agree. -/
theorem Lawful.unary (h : S.Lawful host place closing)
    (he : S.Agree S.values (e.evaluate env host) (e'.evaluate env' host)) (op : UnaryOp)
    (p : Place) :
    S.Agree S.values ((Expr.unary op e p).evaluate env host)
      ((Expr.unary op e' (place p)).evaluate env' host) := by
  rw [Expr.evaluate, Expr.evaluate]
  refine he.bind fun v _ => ?_
  exact .ofOperator (fun w hw => h.plain (UnaryOp.isPlain_apply hw))
    fun fault hfault => h.fault fault p (UnaryOp.notes_of_apply hfault)

/-- An operator between operands that agree. -/
theorem Lawful.binary (h : S.Lawful host place closing)
    (ha : S.Agree S.values (a.evaluate env host) (a'.evaluate env' host))
    (hb : S.Agree S.values (b.evaluate env host) (b'.evaluate env' host)) (op : BinaryOp)
    (p : Place) :
    S.Agree S.values ((Expr.binary op a b p).evaluate env host)
      ((Expr.binary op a' b' (place p)).evaluate env' host) := by
  rw [Expr.evaluate, Expr.evaluate]
  refine ha.bind fun v _ => hb.bind fun w _ => ?_
  exact .ofOperator (fun x hx => h.plain (BinaryOp.isPlain_apply hx))
    fun fault hfault => h.fault fault p (BinaryOp.notes_of_apply hfault)

/-- Both sides have one value for the left operand, so both go on or neither does. -/
theorem agree_logical (ha : S.Agree S.values (a.evaluate env host) (a'.evaluate env' host))
    (hb : S.Agree S.values (b.evaluate env host) (b'.evaluate env' host)) (op : LogicalOp)
    (p p' : Place) :
    S.Agree S.values ((Expr.logical op a b p).evaluate env host)
      ((Expr.logical op a' b' p').evaluate env' host) := by
  rw [Expr.evaluate, Expr.evaluate]
  refine ha.bind fun v hv => ?_
  by_cases hd : op.decides v = true
  · rw [if_pos hd, if_pos hd]
    exact .pure hv
  · rw [if_neg hd, if_neg hd]
    exact hb

/-- Arguments agree as lists if they agree one by one. -/
theorem evaluateAll_agree {g : Expr → Expr} {es : List Expr}
    (ih : ∀ e ∈ es, S.Agree S.values (e.evaluate env host) ((g e).evaluate env' host)) :
    S.Agree (fun vs => ∀ v ∈ vs, S.values v) (Expr.evaluateAll env host es)
      (Expr.evaluateAll env' host (es.map g)) := by
  induction es with
  | nil =>
    rw [List.map_nil, Expr.evaluateAll, Expr.evaluateAll]
    exact .pure (fun v hv => absurd hv List.not_mem_nil)
  | cons e es ihs =>
    rw [List.map_cons, Expr.evaluateAll, Expr.evaluateAll]
    refine (ih e (List.mem_cons_self ..)).bind fun v hv => ?_
    refine (ihs fun e he => ih e (List.mem_cons_of_mem _ he)).bind fun vs hvs => .pure ?_
    exact List.forall_mem_cons.2 ⟨hv, hvs⟩

/-- A call whose callees and arguments agree. -/
theorem Lawful.apply (h : S.Lawful host place closing) {g : Expr → Expr} {args : List Expr}
    (hf : S.Agree S.values (f.evaluate env host) (f'.evaluate env' host))
    (hargs : ∀ e ∈ args, S.Agree S.values (e.evaluate env host) ((g e).evaluate env' host))
    (t : Token) (p : Place) :
    S.Agree S.values ((Expr.call f args t p).evaluate env host)
      ((Expr.call f' (args.map g) (closing t) (place p)).evaluate env' host) := by
  rw [Expr.evaluate, Expr.evaluate]
  refine hf.bind fun v hv => (evaluateAll_agree hargs).bind fun vs hvs => ?_
  cases v with
  | function g =>
    exact (Agree.record fun _ _ hs => h.calling g vs t hs).bind fun _ _ => h.call hv hvs
  | nil | bool | number | string | foreign => exact .throw (h.callee _ t p)

end Nodes

/-- **What single steps keep to, evaluations keep to.** -/
theorem Lawful.evaluate (h : S.Lawful host place closing) (e : Expr) (hb : S.Bound env env' e) :
    S.Agree S.values (e.evaluate env host)
      ((e.relabel ⟨id, id, place, closing⟩).evaluate env' host) := by
  induction e with
  | literal l p => exact h.literal l p (place p)
  | var name p =>
    obtain ⟨hget, hv⟩ := hb name p (.self _)
    exact h.var hget hv p (place p)
  | group e p ih =>
    rw [Expr.relabel, Expr.evaluate, Expr.evaluate]
    exact ih (hb.child Expr.mem_group)
  | unary op e p ih => exact h.unary (ih (hb.child Expr.mem_unary)) op p
  | binary op a b p iha ihb =>
    exact h.binary (iha (hb.child Expr.left_mem_binary)) (ihb (hb.child Expr.right_mem_binary)) op p
  | logical op a b p iha ihb =>
    exact agree_logical (iha (hb.child Expr.left_mem_logical))
      (ihb (hb.child Expr.right_mem_logical)) op p (place p)
  | call f args t p ihf ihargs =>
    rw [Expr.relabel, Expr.relabelAll_eq_map]
    exact h.apply (ihf (hb.child Expr.callee_mem_call))
      (fun a ha => ihargs a ha (hb.child (Expr.arg_mem_call ha))) t p

end Simulation

end Reckoner
