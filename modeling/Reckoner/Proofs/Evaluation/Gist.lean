import Reckoner.Proofs.Evaluation.Simulation

/-!
# Reckoner — the gist of an evaluation

What an evaluation comes to, wherever its expression stands in a text: the value, or
the stage and the message of the failure; the state that the host is left in; and the
names looked up, the functions called and the arguments they were given. Lines, spans,
notes and the events of reading are left out (`gist`). The `account` of an evaluation says of
its failure what a view of failures keeps: the gist of it, or all of its wording, notes included.

Main results:

* `account_evaluate_relabel` — places have no part in an account that does not look at them;
* `evaluate_ungroup` — parentheses have no part in an evaluation at all;
* `account_evaluateSource` — the account of evaluating a text is that of its expression.
-/

namespace Reckoner

variable {σ α : Type}

/-- The stage and the message of a failure. -/
def Failure.gist : Failure → Failure
  | .diagnostic d => .diagnostic { stage := d.stage, message := d.message }
  | .io reason => .io reason

/-- What a failure says, without where. -/
def Failure.wording : Failure → Failure
  | .diagnostic d => .diagnostic { stage := d.stage, message := d.message, notes := d.notes }
  | .io reason => .io reason

/-- What an event says of the evaluation, without the places. -/
def Event.gist : Event → Option Event
  | .resolved name value => some (.resolved name value)
  | .calling f args _ => some (.calling f args default)
  | .relayed e => some (.relayed e)
  | .scanned _ | .parsedCall _ _ | .rejected _ | .failed _ => none

/-- The state of the host, and what happened during evaluations. -/
def Run.gist (run : Run σ) : σ × List Event :=
  (run.host, run.events.toList.filterMap Event.gist)

/-- What an evaluation comes to. -/
def gist : EStateM.Result Failure (Run σ) α → Except Failure α × σ × List Event
  | .ok v run => (.ok v, run.gist)
  | .error f run => (.error f.gist, run.gist)

/-- What an evaluation comes to, with so much of its failure as a view shows. -/
def account (view : Failure → Failure) :
    EStateM.Result Failure (Run σ) α → Except Failure α × σ × List Event
  | .ok v run => (.ok v, run.gist)
  | .error f run => (.error (view f), run.gist)

/-- The gist is the account in which a failure keeps its stage and its message. -/
theorem gist_eq_account (r : EStateM.Result Failure (Run σ) α) :
    gist r = account Failure.gist r := by
  cases r <;> rfl

-- ---------------------------------------------------------------------------
-- Runs
-- ---------------------------------------------------------------------------

/-- An event adds what it says of the evaluation, if that is anything. -/
theorem Run.gist_push (run : Run σ) (e : Event) :
    Run.gist { run with events := run.events.push e } =
      (run.gist.1, run.gist.2 ++ e.gist.toList) := by
  unfold Run.gist
  rw [Array.toList_push, List.filterMap_append]
  cases h : e.gist <;> simp [h]

theorem Run.gist_append (run : Run σ) (host : σ) (es : List Event) :
    Run.gist { host, events := run.events ++ es } =
      (host, run.gist.2 ++ es.filterMap Event.gist) := by
  unfold Run.gist
  rw [Array.toList_appendList, List.filterMap_append]

-- ---------------------------------------------------------------------------
-- Evaluations
-- ---------------------------------------------------------------------------

/-- Evaluations of which a view of failures gives the same account. -/
def Simulation.alike (σ : Type) (view : Failure → Failure) : Simulation σ where
  runs s s' := s.gist = s'.gist
  values _ := True
  failures f f' := view f = view f'

section Accounts

variable {view : Failure → Failure} {place : Place → Place} {closing : Token → Token}

/-- Results that count as the same have the same account. -/
theorem Simulation.account_eq_of_matches {P : α → Prop}
    {r r' : EStateM.Result Failure (Run σ) α}
    (h : (Simulation.alike σ view).Matches P r r') : account view r = account view r' := by
  cases h with
  | ok _ hs => exact congrArg (Prod.mk _) hs
  | error hf hs => exact Prod.ext (congrArg Except.error hf) hs

/-- A call takes nothing from a run but the state of the host. -/
theorem Simulation.alike_call (host : Host σ) (f : Function) (args : List Value) :
    (Simulation.alike σ view).Agree (fun _ => True) (f.call host args) (f.call host args) := by
  refine agree_call (fun hs => congrArg Prod.fst hs) (fun {s s'} state events hs => ?_)
    (fun _ => rfl) host f args
  show Run.gist _ = Run.gist _
  rw [Run.gist_append, Run.gist_append, show s.gist = s'.gist from hs]

/-- A view may look at the places of faults only where these stay. -/
theorem Simulation.alike_lawful (host : Host σ)
    (hfault : ∀ (fault : OperandFault) p, view (fault.failure p) = view (fault.failure (place p)))
    (hcallee : ∀ v (t : Token) p, view ((OperandFault.callee v t.line).failure p) =
      view ((OperandFault.callee v (closing t).line).failure (place p))) :
    (Simulation.alike σ view).Lawful host place closing where
  resolved name v hs := by
    show Run.gist _ = Run.gist _
    rw [Run.gist_push, Run.gist_push, show Run.gist _ = Run.gist _ from hs]
  calling f args t hs := by
    show Run.gist _ = Run.gist _
    rw [Run.gist_push, Run.gist_push, show Run.gist _ = Run.gist _ from hs]
    rfl
  plain _ := trivial
  call _ _ := alike_call host _ _
  fault fault p _ := hfault fault p
  callee := hcallee

/-- Places have no part in an account that does not look at them. -/
theorem account_evaluate_relabel (env : Environment) (host : Host σ) (view : Failure → Failure)
    (place : Place → Place) (closing : Token → Token)
    (hfault : ∀ (fault : OperandFault) p, view (fault.failure p) = view (fault.failure (place p)))
    (hcallee : ∀ v (t : Token) p, view ((OperandFault.callee v t.line).failure p) =
      view ((OperandFault.callee v (closing t).line).failure (place p)))
    (e : Expr) {s s' : Run σ} (hs : s.gist = s'.gist) :
    account view (e.evaluate env host s) =
      account view ((e.relabel ⟨id, id, place, closing⟩).evaluate env host s') :=
  Simulation.account_eq_of_matches
    ((Simulation.alike_lawful host hfault hcallee).evaluate e (fun _ _ _ => ⟨rfl, trivial⟩) s s' hs)

/-- What was observed of reading before has no part in it. -/
theorem account_evaluate (env : Environment) (host : Host σ) (view : Failure → Failure) (e : Expr)
    {s s' : Run σ} (hs : s.gist = s'.gist) :
    account view (e.evaluate env host s) = account view (e.evaluate env host s') := by
  have h := account_evaluate_relabel env host view id id (fun _ _ => rfl) (fun _ _ _ => rfl) e hs
  rwa [Expr.relabel_id] at h

end Accounts

/-- Places have no part in the gist of an evaluation. -/
theorem gist_evaluate_relabel (env : Environment) (host : Host σ) (place : Place → Place)
    (closing : Token → Token) (e : Expr) {s s' : Run σ} (hs : s.gist = s'.gist) :
    gist (e.evaluate env host s) =
      gist ((e.relabel ⟨id, id, place, closing⟩).evaluate env host s') := by
  rw [gist_eq_account, gist_eq_account]
  exact account_evaluate_relabel env host Failure.gist place closing (fun _ _ => rfl)
    (fun _ _ _ => rfl) e hs

/-- Places have no part in the gist of an evaluation. -/
theorem gist_evaluate_bare (env : Environment) (host : Host σ) (e : Expr) {s s' : Run σ}
    (hs : s.gist = s'.gist) :
    gist (e.evaluate env host s) = gist (e.bare.evaluate env host s') :=
  gist_evaluate_relabel env host _ _ e hs

-- ---------------------------------------------------------------------------
-- Parentheses
-- ---------------------------------------------------------------------------

namespace Expr

mutual

/-- A tree without its parentheses. -/
def ungroup : Expr → Expr
  | literal v p => literal v p
  | var n p => var n p
  | group e _ => ungroup e
  | unary op e p => unary op (ungroup e) p
  | binary op a b p => binary op (ungroup a) (ungroup b) p
  | logical op a b p => logical op (ungroup a) (ungroup b) p
  | call f args t p => call (ungroup f) (ungroupAll args) t p

def ungroupAll : List Expr → List Expr
  | [] => []
  | e :: es => ungroup e :: ungroupAll es

end

theorem ungroupAll_eq_map (es : List Expr) : ungroupAll es = es.map ungroup := by
  induction es with
  | nil => rfl
  | cons e es ih => rw [ungroupAll, ih, List.map_cons]

/-- Arguments may be replaced by others that are evaluated alike. -/
theorem evaluateAll_map (env : Environment) (host : Host σ) (g : Expr → Expr) (es : List Expr)
    (h : ∀ e ∈ es, (g e).evaluate env host = e.evaluate env host) :
    evaluateAll env host (es.map g) = evaluateAll env host es := by
  induction es with
  | nil => rfl
  | cons e es ih =>
    rw [List.map_cons, evaluateAll, evaluateAll, h e (List.mem_cons_self ..),
      ih fun e he => h e (List.mem_cons_of_mem _ he)]

/-- Parentheses have no part in an evaluation. -/
theorem evaluate_ungroup (env : Environment) (host : Host σ) (e : Expr) :
    e.ungroup.evaluate env host = e.evaluate env host := by
  induction e with
  | literal | var => rfl
  | group e p ih => rw [ungroup, evaluate, ih]
  | unary op e p ih => rw [ungroup, evaluate, evaluate, ih]
  | binary op a b p iha ihb | logical op a b p iha ihb =>
    rw [ungroup, evaluate, evaluate, iha, ihb]
  | call f args t p ihf ihargs =>
    rw [ungroup, ungroupAll_eq_map, evaluate, evaluate, ihf, evaluateAll_map env host _ args ihargs]

end Expr

-- ---------------------------------------------------------------------------
-- Texts
-- ---------------------------------------------------------------------------

/-- Nothing that happens while a text is read belongs to the gist. -/
theorem gist_readSource (source : String) :
    (readSource source).1.filterMap Event.gist = [] := by
  have hcalls (ts : List Token) : ((Token.closedCalls ts).map fun call =>
      Event.parsedCall call.args call.line).filterMap Event.gist = [] := by
    rw [List.filterMap_map]
    exact List.filterMap_eq_nil_iff.2 fun _ _ => rfl
  unfold readSource
  cases Token.scan source with
  | error d => rfl
  | ok tokens =>
    simp only
    cases Expr.ofTokens (Expr.body tokens) with
    | ok _ => exact hcalls _
    | error _ =>
      show List.filterMap Event.gist ((.scanned _ :: (Token.closedCalls _).map _) ++ [_]) = []
      rw [List.filterMap_append, List.filterMap_cons_none rfl, hcalls]
      rfl

/-- The run after a text is read has the gist of the run before. -/
theorem Run.gist_readSource (source : String) (s : Run σ) :
    Run.gist { s with events := s.events ++ (readSource source).1 } = s.gist := by
  rw [Run.gist_append, Reckoner.gist_readSource, List.append_nil]
  rfl

/-- A text that stands for an expression is evaluated by evaluating that, after what is
observed of the reading. -/
theorem evaluateSource_of_ok {source : String} {e : Expr} (h : Expr.ofSource source = .ok e)
    (env : Environment) (host : Host σ) (s : Run σ) :
    evaluateSource env host source s =
      match e.evaluate env host { s with events := s.events ++ (readSource source).1 } with
      | .ok v s₁ => .ok v s₁
      | .error f s₁ => .error f { s₁ with events := s₁.events.push (.failed f) } := by
  rw [← readSource_snd] at h
  unfold evaluateSource
  generalize readSource source = reading at h
  obtain ⟨events, outcome⟩ := reading
  obtain rfl : outcome = .ok e := h
  rfl

/-- A text that stands for no expression is refused with what is wrong with it. -/
theorem evaluateSource_of_error {source : String} {d : Diagnostic}
    (h : Expr.ofSource source = .error d) (env : Environment) (host : Host σ) (s : Run σ) :
    evaluateSource env host source s =
      .error (.diagnostic d) { s with events := s.events ++ (readSource source).1 } := by
  rw [← readSource_snd] at h
  unfold evaluateSource
  generalize readSource source = reading at h
  obtain ⟨events, outcome⟩ := reading
  obtain rfl : outcome = .error d := h
  rfl

/-- The account of evaluating a text is that of evaluating its expression. -/
theorem account_evaluateSource (view : Failure → Failure) {source : String} {e : Expr}
    (h : Expr.ofSource source = .ok e) (env : Environment) (host : Host σ) (s : Run σ) :
    account view (evaluateSource env host source s) = account view (e.evaluate env host s) := by
  rw [evaluateSource_of_ok h, ← account_evaluate env host view e (Run.gist_readSource source s)]
  cases e.evaluate env host { s with events := s.events ++ (readSource source).1 } with
  | ok v s' => rfl
  | error f s' =>
    simp only [account]
    rw [Run.gist_push]
    simp [Event.gist]

theorem gist_evaluateSource {source : String} {e : Expr} (h : Expr.ofSource source = .ok e)
    (env : Environment) (host : Host σ) (s : Run σ) :
    gist (evaluateSource env host source s) = gist (e.evaluate env host s) := by
  rw [gist_eq_account, gist_eq_account, account_evaluateSource Failure.gist h]

/-- What a text that stands for no expression comes to is the message about it. -/
theorem gist_evaluateSource_refused {source : String} {d : Diagnostic}
    (h : Expr.ofSource source = .error d) (env : Environment) (host : Host σ) (s : Run σ) :
    gist (evaluateSource env host source s) = (.error (Failure.diagnostic d).gist, s.gist) := by
  rw [evaluateSource_of_error h]
  exact congrArg (Prod.mk _) (Run.gist_readSource source s)

end Reckoner
