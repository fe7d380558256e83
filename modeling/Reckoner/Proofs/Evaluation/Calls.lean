import Reckoner.Proofs.Evaluation.Course

/-!
# Reckoner — the calls of an evaluation

What an evaluation does to a run is to call functions, one after the other (`Makes`). It
makes its calls in the order in which they are closed in the tree: whatever lies on the way
from one run to another, the calls made meanwhile are closed by some of the tokens that
close calls there, in their order (`Passes`).

Main results:

* `evaluate_passes` — the calls that an evaluation makes are those of call nodes it reaches,
  in the order of their closing tokens;
* `Reaches.made` — those made before a node is reached are closed before the calls of the
  node, and those made afterwards behind them;
* `applied_iff_not_skipped` — an evaluation that succeeds makes the call of each node, but
  of those that it skips.
-/

namespace Reckoner

variable {σ α β : Type} {host : Host σ}

-- ---------------------------------------------------------------------------
-- Calls and runs
-- ---------------------------------------------------------------------------

/-- A function is called with arguments, from the call that a token closes. -/
structure Call where
  function : Function
  args : List Value
  closing : Token

/-- The call that is about to be made. Those that are relayed belong to evaluations of the
host. -/
def Event.call? : Event → Option Call
  | .calling f args t => some ⟨f, args, t⟩
  | _ => none

/-- The calls made in a run, in their order. -/
def Run.calls (run : Run σ) : List Call := run.events.toList.filterMap Event.call?

/-- The run in which a computation ends, with a result or without. -/
def Evaluation.final (x : Evaluation σ α) (s : Run σ) : Run σ :=
  match x s with
  | .ok _ s₁ | .error _ s₁ => s₁

/-- The state of the host after a call. -/
def Call.hostAfter (host : Host σ) (state : σ) (c : Call) : σ :=
  ((c.function.call host c.args).final ⟨state, #[]⟩).host

/-- On the way from one run to another these calls are made, each once and in this order,
and nothing else is done to the host. -/
structure Makes (host : Host σ) (made : List Call) (s s₁ : Run σ) : Prop where
  calls : s₁.calls = s.calls ++ made
  host : s₁.host = made.foldl (Call.hostAfter host) s.host

namespace Makes

theorem refl (s : Run σ) : Makes host [] s s :=
  ⟨(List.append_nil _).symm, rfl⟩

/-- Calls that are made one after the other. -/
theorem trans {made made' : List Call} {s s₁ s₂ : Run σ} (h : Makes host made s s₁)
    (h' : Makes host made' s₁ s₂) : Makes host (made ++ made') s s₂ := by
  constructor
  · rw [h'.calls, h.calls, List.append_assoc]
  · rw [h'.host, h.host, List.foldl_append]

/-- What lies between two runs fixes the calls that were made. -/
theorem unique {made made' : List Call} {s s₁ : Run σ} (h : Makes host made s s₁)
    (h' : Makes host made' s s₁) : made = made' :=
  List.append_cancel_left (h.calls.symm.trans h'.calls)

end Makes

/-- An event adds at most the call that it announces. -/
theorem Run.calls_push (s : Run σ) (e : Event) :
    Run.calls { s with events := s.events.push e } = s.calls ++ e.call?.toList := by
  unfold calls
  rw [Array.toList_push, List.filterMap_append]
  cases h : e.call? <;> simp [h]

/-- What the host relays are no calls of the expression, whatever the host is left with. -/
theorem Run.calls_relayed (s : Run σ) (state : σ) (es : List Event) :
    Run.calls ⟨state, s.events ++ es.map Event.relayed⟩ = s.calls := by
  have hrelayed : (es.map Event.relayed).filterMap Event.call? = [] := by
    rw [List.filterMap_map]
    exact List.filterMap_eq_nil_iff.2 fun _ _ => rfl
  unfold calls
  rw [Array.toList_appendList, List.filterMap_append, hrelayed, List.append_nil]

/-- What a function does depends on the state of the host alone, and all that is observed
of it is relayed. -/
theorem Function.exists_final_call (host : Host σ) (f : Function) (args : List Value) :
    ∃ (state : σ → σ) (observed : σ → List Event), ∀ s : Run σ,
      (f.call host args).final s =
        ⟨state s.host, s.events ++ (observed s.host).map Event.relayed⟩ := by
  -- only a function of the host touches the run
  have quiet {x : Evaluation σ Value} (hx : ∀ s, x.final s = s) :
      ∃ (state : σ → σ) (observed : σ → List Event), ∀ s : Run σ,
        x.final s = ⟨state s.host, s.events ++ (observed s.host).map Event.relayed⟩ :=
    ⟨id, fun _ => [], fun s => by rw [hx]; simp⟩
  have hexcept (x : Except Failure Value) (s : Run σ) : (Evaluation.ofExcept x).final s = s := by
    cases x <;> rfl
  unfold Function.call
  cases f.checkArity args with
  | error failure => exact quiet fun _ => rfl
  | ok _ =>
    cases f.routine with
    | builtin b => exact quiet (hexcept (b.apply args))
    | hosted =>
      refine ⟨fun h => (host.call f args h).state, fun h => (host.call f args h).events,
        fun s => ?_⟩
      exact hexcept (host.call f args s.host).outcome _

/-- To announce a call and to make it is one call. -/
theorem makes_call (host : Host σ) (f : Function) (args : List Value) (t : Token) (s : Run σ) :
    Makes host [⟨f, args, t⟩] s
      ((f.call host args).final { s with events := s.events.push (.calling f args t) }) := by
  obtain ⟨state, observed, hfinal⟩ := f.exists_final_call host args
  constructor
  · rw [hfinal, Run.calls_relayed, Run.calls_push]
    rfl
  · rw [hfinal]
    show state s.host = ((f.call host args).final ⟨s.host, #[]⟩).host
    rw [hfinal]

-- ---------------------------------------------------------------------------
-- Final runs
-- ---------------------------------------------------------------------------

namespace Evaluation

theorem final_of_ok {x : Evaluation σ α} {s s₁ : Run σ} {v : α} (h : x s = .ok v s₁) :
    x.final s = s₁ := by
  rw [final, h]

theorem final_of_error {x : Evaluation σ α} {s s₁ : Run σ} {failure : Failure}
    (h : x s = .error failure s₁) : x.final s = s₁ := by
  rw [final, h]

/-- Behind a result the second part of a computation decides where it ends. -/
theorem final_bind_of_ok {x : Evaluation σ α} {f : α → Evaluation σ β} {s s' : Run σ} {v : α}
    (h : x s = .ok v s') : (x >>= f).final s = (f v).final s' := by
  rw [final, bind_of_ok h, final]

/-- Behind a failure nothing more happens. -/
theorem final_bind_of_error {x : Evaluation σ α} {f : α → Evaluation σ β} {s s' : Run σ}
    {failure : Failure} (h : x s = .error failure s') : (x >>= f).final s = s' := by
  rw [final, bind_of_error h]

/-- An operator leaves the run as it is. -/
theorem final_ofOperator (p : Place) (x : Except OperandFault α) (s : Run σ) :
    (ofOperator p x).final s = s := by
  cases x <;> rfl

end Evaluation

-- ---------------------------------------------------------------------------
-- Passing closing tokens
-- ---------------------------------------------------------------------------

/-- On the way from one run to another only such calls are made, and they are closed by some
of the given tokens, each by one of its own and in their order. -/
def Passes (host : Host σ) (closings : List Token) (P : Call → Prop) (s s₁ : Run σ) : Prop :=
  ∃ made, Makes host made s s₁ ∧ (made.map Call.closing).Sublist closings ∧ ∀ c ∈ made, P c

namespace Passes

variable {ts us : List Token} {P Q : Call → Prop} {s s₁ s₂ : Run σ}

/-- Without calls any tokens can be passed. -/
theorem of_calls_eq (hcalls : s₁.calls = s.calls) (hhost : s₁.host = s.host) :
    Passes host ts P s s₁ :=
  ⟨[], ⟨hcalls.trans (List.append_nil _).symm, hhost⟩, List.nil_sublist _,
    fun _ hc => absurd hc List.not_mem_nil⟩

theorem refl (s : Run σ) : Passes host ts P s s := of_calls_eq rfl rfl

/-- Tokens behind other tokens are passed after them. -/
theorem trans (h : Passes host ts P s s₁) (h' : Passes host us P s₁ s₂) :
    Passes host (ts ++ us) P s s₂ := by
  obtain ⟨made, hmade, hts, hP⟩ := h
  obtain ⟨made', hmade', hus, hP'⟩ := h'
  refine ⟨made ++ made', hmade.trans hmade', ?_, List.forall_mem_append.2 ⟨hP, hP'⟩⟩
  rw [List.map_append]
  exact hts.append hus

/-- The calls keep any property that follows from the one they have. -/
theorem imp (h : Passes host ts P s s₁) (hPQ : ∀ c, P c → Q c) : Passes host ts Q s s₁ := by
  obtain ⟨made, hmade, hts, hP⟩ := h
  exact ⟨made, hmade, hts, fun c hc => hPQ c (hP c hc)⟩

/-- The second part of a computation passes tokens if the first has a result. -/
theorem rest {x : Evaluation σ α} {f : α → Evaluation σ β}
    (hf : ∀ v s', x s = .ok v s' → Passes host us P s' ((f v).final s')) :
    Passes host us P (x.final s) ((x >>= f).final s) := by
  cases hx : x s with
  | ok v s' =>
    rw [Evaluation.final_of_ok hx, Evaluation.final_bind_of_ok hx]
    exact hf v s' hx
  | error _ s' =>
    rw [Evaluation.final_of_error hx, Evaluation.final_bind_of_error hx]
    exact refl s'

/-- A computation passes the tokens of its two parts, the second of which may not be reached. -/
theorem bind {x : Evaluation σ α} {f : α → Evaluation σ β} (hx : Passes host ts P s (x.final s))
    (hf : ∀ v s', x s = .ok v s' → Passes host us P s' ((f v).final s')) :
    Passes host (ts ++ us) P s ((x >>= f).final s) :=
  hx.trans (rest hf)

/-- An operator makes no calls. -/
theorem operator_rest {x : Evaluation σ α} {f : α → Except OperandFault β} {p : Place} :
    Passes host [] P (x.final s) ((x >>= fun v => Evaluation.ofOperator p (f v)).final s) := by
  refine rest fun v s' _ => ?_
  rw [Evaluation.final_ofOperator]
  exact refl s'

/-- An operator behind a computation passes no more tokens. -/
theorem operator {x : Evaluation σ α} {f : α → Except OperandFault β} {p : Place}
    (hx : Passes host ts P s (x.final s)) :
    Passes host ts P s ((x >>= fun v => Evaluation.ofOperator p (f v)).final s) := by
  rw [← List.append_nil ts]
  exact hx.trans operator_rest

end Passes

namespace Expr

variable {env : Environment}

/-- A call that is made by a call node of the tree when that is reached: its callee has this
function for a value, and its arguments these values. -/
def Applies (env : Environment) (host : Host σ) (e : Expr) (s : Run σ) (c : Call) : Prop :=
  ∃ (f : Expr) (args : List Expr) (p : Place) (s' s₁ s₂ : Run σ),
    Reaches env host e s (.call f args c.closing p) s' ∧
      f.evaluate env host s' = .ok (.function c.function) s₁ ∧
      evaluateAll env host args s₁ = .ok c.args s₂

/-- A call that is made below a child is made below the node. -/
theorem Applies.child {e n : Expr} {s s' : Run σ} {c : Call} (hn : Begins env host e s n s')
    (h : Applies env host n s' c) : Applies env host e s c := by
  obtain ⟨f, args, p, s₁, s₂, s₃, hreaches, hf, hargs⟩ := h
  exact ⟨f, args, p, s₁, s₂, s₃, .child hn hreaches, hf, hargs⟩

/-- If each of several expressions passes its closing tokens after those before it, then
together they pass all. -/
theorem evaluateAll_passes {P : Call → Prop} {es : List Expr} {s : Run σ}
    (h : ∀ before e after vs s', es = before ++ e :: after →
      evaluateAll env host before s = .ok vs s' →
      Passes host e.closings P s' ((e.evaluate env host).final s')) :
    Passes host (closingsAll es) P s ((evaluateAll env host es).final s) := by
  induction es generalizing s with
  | nil => exact .refl s
  | cons e es ih =>
    rw [evaluateAll, closingsAll]
    refine Passes.bind (h [] e es [] s rfl (by rw [evaluateAll]; rfl)) fun v s' hv => ?_
    rw [← List.append_nil (closingsAll es)]
    -- what comes before an element of the rest is one longer in the whole list
    refine Passes.bind (ih fun before e' after vs s'' hes hvs => ?_) fun _ s'' _ => .refl s''
    refine h (e :: before) e' after (v :: vs) s'' (by rw [hes, List.cons_append]) ?_
    rw [evaluateAll, Evaluation.bind_of_ok hv, Evaluation.bind_of_ok hvs]
    rfl

/-- What a call does behind its callee and its arguments passes its own closing token. -/
theorem passes_apply {P : Call → Prop} {v : Value} {vs : List Value} {t : Token} {p : Place}
    {s : Run σ} (hP : ∀ g, v = .function g → P ⟨g, vs, t⟩) :
    Passes host [t] P s (Evaluation.final (match v with
      | .function g => do
        Evaluation.record (.calling g vs t)
        g.call host vs
      | v => throw ((OperandFault.callee v t.line).failure p)) s) := by
  cases v with
  | function g =>
    exact ⟨[⟨g, vs, t⟩], makes_call host g vs t s, List.Sublist.refl _,
      List.forall_mem_singleton.2 (hP g rfl)⟩
  | nil | bool | number | string | foreign => exact .refl s

/-- **The calls of an evaluation.** They are made by call nodes that are reached, and in the
order of their closing tokens. -/
theorem evaluate_passes (env : Environment) (host : Host σ) (e : Expr) (s : Run σ) :
    Passes host e.closings (Applies env host e s) s ((e.evaluate env host).final s) := by
  induction e generalizing s with
  | literal l p => exact .refl s
  | var name p => exact .of_calls_eq ((Run.calls_push s _).trans (List.append_nil _)) rfl
  | group e p ih =>
    rw [evaluate, closings]
    exact (ih s).imp fun _ => .child .group
  | unary op e p ih =>
    rw [evaluate, closings]
    exact ((ih s).imp fun _ => .child .operand).operator
  | binary op a b p iha ihb =>
    rw [evaluate, closings]
    refine ((iha s).imp fun _ => .child .left).bind fun v s' hv => ?_
    exact ((ihb s').imp fun _ => .child (.right hv)).operator
  | logical op a b p iha ihb =>
    rw [evaluate, closings]
    refine ((iha s).imp fun _ => .child .deciding).bind fun v s' hv => ?_
    by_cases hd : op.decides v = true
    · rw [if_pos hd]
      exact .refl s'
    · rw [if_neg hd]
      exact (ihb s').imp fun _ => .child (.undecided hv (Bool.not_eq_true _ ▸ hd))
  | call f args t p ihf ihargs =>
    rw [evaluate, closings]
    refine ((ihf s).imp fun _ => .child .callee).bind fun v s' hv => ?_
    refine Passes.bind (evaluateAll_passes fun before a after vs s'' hargs hvs => ?_)
      fun vs s'' hvs => passes_apply ?_
    · subst hargs
      have ha := ihargs a (List.mem_append_right _ (List.mem_cons_self ..)) s''
      exact ha.imp fun _ => .child (.argument hv hvs)
    · rintro g rfl
      exact ⟨f, args, p, s, s', s'', .self _ s, hv, hvs⟩

/-- Whatever it comes to, an evaluation passes the closing tokens of its tree. -/
theorem passes_closings (env : Environment) (host : Host σ) (e : Expr) (s : Run σ) :
    Passes host e.closings (fun _ => True) s ((e.evaluate env host).final s) :=
  (evaluate_passes env host e s).imp fun _ _ => trivial

theorem passes_closingsAll (env : Environment) (host : Host σ) (es : List Expr) (s : Run σ) :
    Passes host (closingsAll es) (fun _ => True) s ((evaluateAll env host es).final s) :=
  evaluateAll_passes fun _ e _ _ s' _ _ => passes_closings env host e s'

theorem passes_of_ok {e : Expr} {s s₁ : Run σ} {v : Value} (h : e.evaluate env host s = .ok v s₁) :
    Passes host e.closings (fun _ => True) s s₁ := by
  rw [← Evaluation.final_of_ok h]
  exact passes_closings env host e s

theorem passes_of_all_ok {es : List Expr} {s s₁ : Run σ} {vs : List Value}
    (h : evaluateAll env host es s = .ok vs s₁) :
    Passes host (closingsAll es) (fun _ => True) s s₁ := by
  rw [← Evaluation.final_of_ok h]
  exact passes_closingsAll env host es s

-- ---------------------------------------------------------------------------
-- Calls before and behind a node
-- ---------------------------------------------------------------------------

/-- On the way to a node the closing tokens in front of it are passed, and on the way from
there to the end those behind it. -/
def Around (env : Environment) (host : Host σ) (e : Expr) (s : Run σ) (n : Expr) (s' : Run σ) :
    Prop :=
  ∃ pre post, e.closings = pre ++ n.closings ++ post ∧
    Passes host pre (fun _ => True) s s' ∧
    Passes host post (fun _ => True) ((n.evaluate env host).final s')
      ((e.evaluate env host).final s)

theorem Around.refl (e : Expr) (s : Run σ) : Around env host e s e s :=
  ⟨[], [], by rw [List.nil_append, List.append_nil], .refl s, .refl _⟩

/-- The tokens around a node of a child are those around the child and, next to the node, those
around the node there. -/
theorem Around.trans {e c n : Expr} {s s' s'' : Run σ} (h : Around env host e s c s')
    (h' : Around env host c s' n s'') : Around env host e s n s'' := by
  obtain ⟨pre, post, hclosings, hpre, hpost⟩ := h
  obtain ⟨pre', post', hclosings', hpre', hpost'⟩ := h'
  refine ⟨pre ++ pre', post' ++ post, ?_, hpre.trans hpre', hpost'.trans hpost⟩
  rw [hclosings, hclosings']
  simp only [List.append_assoc]

/-- Every child stands between the closing tokens of the parts that are evaluated before it and of
those that are evaluated afterwards. -/
theorem Begins.around {e c : Expr} {s s' : Run σ} (h : Begins env host e s c s') :
    Around env host e s c s' := by
  have whole := passes_closings env host
  have wholes := passes_closingsAll env host
  cases h with
  | group =>
    refine ⟨[], [], by rw [closings, List.nil_append, List.append_nil], .refl s, ?_⟩
    rw [evaluate]
    exact .refl _
  | operand =>
    refine ⟨[], [], by rw [closings, List.nil_append, List.append_nil], .refl s, ?_⟩
    rw [evaluate]
    exact .operator_rest
  | @left _ _ b =>
    refine ⟨[], b.closings, by rw [closings, List.nil_append], .refl s, ?_⟩
    rw [evaluate]
    exact .rest fun v s' _ => (whole b s').operator
  | @right _ a _ _ _ _ v ha =>
    refine ⟨a.closings, [], by rw [closings, List.append_nil], passes_of_ok ha, ?_⟩
    rw [evaluate, Evaluation.final_bind_of_ok ha]
    exact .operator_rest
  | @deciding op _ b =>
    refine ⟨[], b.closings, by rw [closings, List.nil_append], .refl s, ?_⟩
    rw [evaluate]
    refine .rest fun v s' _ => ?_
    by_cases hd : op.decides v = true
    · rw [if_pos hd]
      exact .refl s'
    · rw [if_neg hd]
      exact whole b s'
  | @undecided _ a _ _ _ _ v ha hv =>
    refine ⟨a.closings, [], by rw [closings, List.append_nil], passes_of_ok ha, ?_⟩
    rw [evaluate, Evaluation.final_bind_of_ok ha, hv, if_neg Bool.false_ne_true]
    exact .refl _
  | @callee _ args t =>
    refine ⟨[], closingsAll args ++ [t], by rw [closings, List.nil_append], .refl s, ?_⟩
    rw [evaluate]
    exact .rest fun v s' _ => (wholes args s').bind fun vs s'' _ => passes_apply fun _ _ => trivial
  | @argument f _ before after t p _ s₁ _ v vs hf hbefore =>
    refine ⟨f.closings ++ closingsAll before, closingsAll after ++ [t], ?_,
      (passes_of_ok hf).trans (passes_of_all_ok hbefore), ?_⟩
    · simp only [closings, closingsAll_append, closingsAll, List.append_assoc]
    · -- with the arguments in front done, the evaluation goes on with this one
      rw [evaluate, Evaluation.final_bind_of_ok hf]
      simp only [evaluateAll_append, evaluateAll, bind_assoc, pure_bind]
      rw [Evaluation.final_bind_of_ok hbefore]
      exact .rest fun w s'' _ => (wholes after s'').bind fun ws s₂ _ =>
        passes_apply fun _ _ => trivial

/-- So does every node that is reached. -/
theorem Reaches.around {e n : Expr} {s s' : Run σ} (h : Reaches env host e s n s') :
    Around env host e s n s' := by
  induction h with
  | self e s => exact .refl e s
  | child hc _ ih => exact hc.around.trans ih

/-- The calls that are made before a node is reached are closed before those of the node,
and the calls that are made afterwards are closed behind them. -/
theorem Reaches.made {e n : Expr} {s s' : Run σ} {made node : List Call}
    (h : Reaches env host e s n s') (hmade : Makes host made s ((e.evaluate env host).final s))
    (hnode : Makes host node s' ((n.evaluate env host).final s')) :
    ∃ pre post before behind, e.closings = pre ++ n.closings ++ post ∧
      made = before ++ node ++ behind ∧ (before.map Call.closing).Sublist pre ∧
      (behind.map Call.closing).Sublist post ∧
      Makes host behind ((n.evaluate env host).final s') ((e.evaluate env host).final s) := by
  obtain ⟨pre, post, hclosings, ⟨before, hbefore, hpre, -⟩, behind, hbehind, hpost, -⟩ := h.around
  exact ⟨pre, post, before, behind, hclosings,
    hmade.unique ((hbefore.trans hnode).trans hbehind), hpre, hpost, hbehind⟩

-- ---------------------------------------------------------------------------
-- Which calls are made
-- ---------------------------------------------------------------------------

/-- What is called is found to be no function after all the arguments: either one of them
fails, or the evaluation ends in the run that they leave. -/
theorem Reaches.refuses {e f : Expr} {args : List Expr} {t : Token} {p : Place}
    {s s' s₁ : Run σ} {v : Value} (h : Reaches env host e s (.call f args t p) s')
    (hf : f.evaluate env host s' = .ok v s₁) (hv : ∀ g, v ≠ .function g) :
    (∃ failure s₂, evaluateAll env host args s₁ = .error failure s₂ ∧
      e.evaluate env host s = .error failure s₂) ∨
    ∃ vs s₂, evaluateAll env host args s₁ = .ok vs s₂ ∧
      e.evaluate env host s = .error ((OperandFault.callee v t.line).failure p) s₂ := by
  cases hargs : evaluateAll env host args s₁ with
  | error failure s₂ =>
    refine .inl ⟨failure, s₂, rfl, h.error ?_⟩
    rw [evaluate, Evaluation.bind_of_ok hf, Evaluation.bind_of_error hargs]
  | ok vs s₂ =>
    have hstops : Stops env host (.call f args t p) s' _ s₂ := .callee hf hargs hv
    exact .inr ⟨vs, s₂, rfl, h.error hstops.evaluate⟩

/-- A call that has a value is made. -/
theorem exists_makes_of_ok {f : Expr} {args : List Expr} {t : Token} {p : Place} {s s₁ : Run σ}
    {v : Value} (h : (Expr.call f args t p).evaluate env host s = .ok v s₁) :
    ∃ node, Makes host node s (((Expr.call f args t p).evaluate env host).final s) ∧
      t ∈ node.map Call.closing := by
  have hcall := h
  rw [evaluate] at h
  obtain ⟨w, s', hf, h⟩ := Evaluation.bind_eq_ok h
  obtain ⟨vs, s'', hargs, -⟩ := Evaluation.bind_eq_ok h
  rw [evaluate_call hf hargs] at hcall
  cases w with
  | function g =>
    obtain ⟨before, hbefore, -, -⟩ := (passes_of_ok hf).trans (passes_of_all_ok hargs)
    refine ⟨before ++ [⟨g, vs, t⟩], ?_, by simp⟩
    have hmade := hbefore.trans (makes_call host g vs t s'')
    rw [Evaluation.final, evaluate_call hf hargs]
    exact hmade
  | nil | bool | number | string | foreign => cases hcall

/-- **Which calls are made.** An evaluation that succeeds makes the call of a node exactly
when it does not skip it. -/
theorem applied_iff_not_skipped {e f : Expr} {args : List Expr} {t : Token} {p : Place}
    {s s₁ : Run σ} {v : Value} {made : List Call} (hnodup : e.closings.Nodup)
    (h : e.evaluate env host s = .ok v s₁)
    (hmade : Makes host made s ((e.evaluate env host).final s))
    (hn : e.Contains (.call f args t p)) :
    t ∈ made.map Call.closing ↔ ¬ Skips env host e s (.call f args t p) := by
  constructor
  · rintro happlied ⟨op, a, b, q, s', s'', w, hl, ha, hw, hb⟩
    -- the node ends where its left operand does, so only calls of that are made in it
    have hfinal : ((Expr.logical op a b q).evaluate env host).final s' =
        (a.evaluate env host).final s' := by
      rw [evaluate, Evaluation.final_bind_of_ok ha, if_pos hw, Evaluation.final_of_ok ha]
      rfl
    obtain ⟨node, hnode, hsites, -⟩ := passes_closings env host a s'
    rw [← hfinal] at hnode
    obtain ⟨pre, post, before, behind, hclosings, rfl, hpre, hpost, -⟩ := hl.made hmade hnode
    -- the token closes a call of the right operand, and no other one
    have ht := hb.mem_closings
    rw [hclosings, closings, List.append_assoc, List.append_assoc] at hnodup
    obtain ⟨-, hnodup, hnotpre⟩ := List.nodup_append.1 hnodup
    obtain ⟨-, hnodup, hnota⟩ := List.nodup_append.1 hnodup
    obtain ⟨-, -, hnotpost⟩ := List.nodup_append.1 hnodup
    simp only [List.map_append, List.mem_append] at happlied
    rcases happlied with (hmem | hmem) | hmem
    · have hlater := List.mem_append_right a.closings (List.mem_append_left post ht)
      exact hnotpre t (hpre.subset hmem) t hlater rfl
    · exact hnota t (hsites.subset hmem) t (List.mem_append_left post ht) rfl
    · exact hnotpost t ht t (hpost.subset hmem) rfl
  · intro hskips
    -- what is reached does not fail, or the whole evaluation would
    obtain ⟨s', hreaches⟩ := (reached_or_skipped hn h).resolve_right hskips
    cases hnode : (Expr.call f args t p).evaluate env host s' with
    | error failure s'' =>
      have hfails := hreaches.error hnode
      rw [h] at hfails
      cases hfails
    | ok w s'' =>
      obtain ⟨node, hnode, ht⟩ := exists_makes_of_ok hnode
      obtain ⟨_, _, before, behind, -, rfl, -, -, -⟩ := hreaches.made hmade hnode
      rw [List.map_append, List.map_append]
      exact List.mem_append_left _ (List.mem_append_right _ ht)

/-- **No call behind the failure.** If an evaluation fails, then its calls are made by the
time when a node stops it, and they are closed by tokens of that node or in front of it. -/
theorem made_before_stop {e : Expr} {s s₁ : Run σ} {failure : Failure} {made : List Call}
    (h : e.evaluate env host s = .error failure s₁)
    (hmade : Makes host made s ((e.evaluate env host).final s)) :
    ∃ n s' pre post, Reaches env host e s n s' ∧ Stops env host n s' failure s₁ ∧
      e.closings = pre ++ n.closings ++ post ∧
      (made.map Call.closing).Sublist (pre ++ n.closings) := by
  obtain ⟨n, s', hn, hstops⟩ := evaluate_eq_error_iff.1 h
  obtain ⟨node, hnode, hsites, -⟩ := passes_closings env host n s'
  obtain ⟨pre, post, before, behind, hclosings, rfl, hpre, -, hbehind⟩ := hn.made hmade hnode
  -- the evaluation ends in the run in which the node does
  rw [Evaluation.final_of_error hstops.evaluate, Evaluation.final_of_error h] at hbehind
  obtain rfl := hbehind.unique (.refl s₁)
  refine ⟨n, s', pre, post, hn, hstops, hclosings, ?_⟩
  rw [List.append_nil, List.map_append]
  exact hpre.append hsites

end Expr

end Reckoner
