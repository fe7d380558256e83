import Reckoner.Prelude
import Reckoner.Proofs.Environment.Layers
import Reckoner.Proofs.Evaluation.Origin
import Reckoner.Proofs.Evaluation.Simulation
import Reckoner.Proofs.Extent

/-!
# Reckoner — steady functions

Functions are **steady** when they answer from their arguments alone, return no
functions but steady ones, and never say where in a text they failed. With steady
functions in its environment, an expression has one value or one failure, whatever the
run; and the only failures with a span are those of its own nodes.

Main results:

* `Environment.prelude_steady` — the functions of the prelude are steady;
* `Host.Steady.moved` — an expression that stands further on has the same value, or a
  failure that differs only in standing further on;
* `Host.Steady.origin` — a failure with a span is the failure of a node.
-/

namespace Reckoner

variable {σ : Type}

-- ---------------------------------------------------------------------------
-- Steady functions
-- ---------------------------------------------------------------------------

/-- A failure that does not say where in a text it lies. -/
def Failure.Unplaced (failure : Failure) : Prop :=
  ∀ d, failure = .diagnostic d → d.span = none

/-- If a value is a function, it is one of the given ones. -/
def Value.From (functions : Function → Prop) (v : Value) : Prop :=
  ∀ f, v = .function f → functions f

/-- The host computes the given functions from their arguments alone, its answers lead to
no other functions, and its failures do not say where they lie. -/
structure Host.Steady (host : Host σ) (functions : Function → Prop) : Prop where
  outcome : ∀ {f args}, functions f → f.routine = .hosted → (∀ v ∈ args, v.From functions) →
    ∀ s s', (host.call f args s).outcome = (host.call f args s').outcome
  result : ∀ {f args}, functions f → f.routine = .hosted → (∀ v ∈ args, v.From functions) →
    ∀ s v, (host.call f args s).outcome = .ok v → v.From functions
  unplaced : ∀ {f args}, functions f → f.routine = .hosted → (∀ v ∈ args, v.From functions) →
    ∀ s failure, (host.call f args s).outcome = .error failure → failure.Unplaced

/-- The functions that an environment leads to are steady. -/
def Environment.Steady (env : Environment) (host : Host σ) : Prop :=
  ∃ functions, host.Steady functions ∧ ∀ name, (env.get name).From functions

-- ---------------------------------------------------------------------------
-- Functions of the prelude
-- ---------------------------------------------------------------------------

/-- A plain value is no function, so it is none but the given ones. -/
theorem Value.IsPlain.from {v : Value} (h : v.IsPlain) (functions : Function → Prop) :
    v.From functions := by
  rintro f rfl
  exact h.elim

/-- A failure that has only a message does not say where it lies. -/
theorem unplaced_runtime (message : String) : (Failure.runtime message).Unplaced := by
  rintro d ⟨⟩
  rfl

namespace Builtin

theorem isPlain_of_map {ε α : Type} {x : Except ε α} {g : α → Value} {v : Value}
    (h : (do return g (← x)) = Except.ok v) (hg : ∀ a, (g a).IsPlain) : v.IsPlain := by
  cases x with
  | error _ => cases h
  | ok a =>
    cases h
    exact hg a

/-- The functions of the library that take one argument answer with plain values. -/
theorem isPlain_applyOne {b : Builtin} {a v : Value} (h : b.applyOne a = .ok v) : v.IsPlain := by
  unfold applyOne at h
  split at h
  case h_11 => cases h; trivial
  case h_12 => cases h; trivial
  case h_13 =>
    split at h
    · cases h
      trivial
    · cases h
  case h_14 => cases h
  all_goals exact isPlain_of_map h fun _ => trivial

/-- So do all functions of the library. -/
theorem isPlain_apply {b : Builtin} {args : List Value} {v : Value} (h : b.apply args = .ok v) :
    v.IsPlain := by
  unfold apply at h
  cases hc : b.compute args with
  | error _ => rw [hc] at h; cases h
  | ok w =>
    rw [hc] at h
    cases h
    unfold compute at hc
    split at hc
    · exact isPlain_of_map hc fun _ => trivial
    · exact isPlain_of_map hc fun _ => trivial
    · exact isPlain_applyOne hc
    · cases hc

/-- Their failures do not say where they lie. -/
theorem unplaced_apply {b : Builtin} {args : List Value} {failure : Failure}
    (h : b.apply args = .error failure) : failure.Unplaced := by
  unfold apply at h
  cases hc : b.compute args with
  | error fault =>
    rw [hc] at h
    cases h
    exact unplaced_runtime _
  | ok _ => rw [hc] at h; cases h

end Builtin

/-- Nor does the failure of a call with the wrong number of arguments. -/
theorem Function.unplaced_checkArity {f : Function} {args : List Value} {failure : Failure}
    (h : f.checkArity args = .error failure) : failure.Unplaced := by
  unfold Function.checkArity at h
  split at h
  · split at h
    · cases h
    · cases h
      exact unplaced_runtime _
  · cases h

-- ---------------------------------------------------------------------------
-- The prelude
-- ---------------------------------------------------------------------------

/-- In the prelude a name means one of the functions that are bound there, or nothing. -/
theorem Environment.get_prelude_cases (firstIdentity : Nat) (name : String) :
    (Environment.prelude firstIdentity).get name ∈ (Prelude.entries firstIdentity).map Prod.snd ∨
      (Environment.prelude firstIdentity).get name = .nil := by
  have hfind : (Environment.prelude firstIdentity).find? name =
      latest? (Prelude.entries firstIdentity) name :=
    Environment.find?_ofList (Prelude.entries firstIdentity) name
  unfold Environment.get
  rw [hfind]
  cases hlatest : latest? (Prelude.entries firstIdentity) name with
  | none => exact .inr rfl
  | some v => exact .inl (List.mem_map_of_mem (mem_of_latest? hlatest))

/-- The functions that the prelude binds are computed by the library. -/
theorem Prelude.routine_of_mem {firstIdentity : Nat} {f : Function}
    (h : .function f ∈ (Prelude.entries firstIdentity).map Prod.snd) :
    ∃ b, f.routine = .builtin b := by
  obtain ⟨pair, hpair, hf⟩ := List.mem_map.1 h
  obtain ⟨⟨b, identity⟩, -, rfl⟩ := List.mem_map.1 hpair
  cases hf
  exact ⟨b, rfl⟩

/-- The prelude binds names to functions that the library computes. -/
theorem Environment.get_prelude {firstIdentity : Nat} {name : String} {f : Function}
    (h : (Environment.prelude firstIdentity).get name = .function f) :
    ∃ b, f.routine = .builtin b := by
  rcases Environment.get_prelude_cases firstIdentity name with hmem | hnil
  · rw [h] at hmem
    exact Prelude.routine_of_mem hmem
  · rw [hnil] at h
    cases h

/-- The functions that the library computes are steady. -/
theorem Host.steady_builtins (host : Host σ) :
    host.Steady fun f => ∃ b, f.routine = .builtin b := by
  constructor
  all_goals
    rintro f args ⟨b, hb⟩ hhosted
    rw [hb] at hhosted
    cases hhosted

/-- The functions of the prelude are steady. -/
theorem Environment.prelude_steady (firstIdentity : Nat) (host : Host σ) :
    (Environment.prelude firstIdentity).Steady host :=
  ⟨_, host.steady_builtins, fun _ _ => get_prelude⟩

/-- Where no name means a function, there is nothing to ask of the host. -/
theorem Environment.empty_steady (host : Host σ) : Environment.empty.Steady host :=
  ⟨_, host.steady_builtins, fun _ _ => nofun⟩

namespace Environment.Steady

variable {host : Host σ} {env : Environment}

/-- A new layer brings no functions. -/
theorem inside (h : env.Steady host) : env.inside.Steady host := by
  obtain ⟨functions, hsteady, henv⟩ := h
  refine ⟨functions, hsteady, fun name => ?_⟩
  rw [get, find?_inside]
  exact henv name

/-- Values that are no functions can be bound. -/
theorem extend (h : env.Steady host) {pairs : List (String × Value)}
    (hplain : ∀ pair ∈ pairs, pair.2.IsPlain) : (env.extend pairs).Steady host := by
  obtain ⟨functions, hsteady, henv⟩ := h
  refine ⟨functions, hsteady, fun name => ?_⟩
  rw [get_extend]
  cases hlatest : latest? pairs name with
  | none => exact henv name
  | some v => exact (hplain _ (mem_of_latest? hlatest)).from functions

end Environment.Steady

-- ---------------------------------------------------------------------------
-- Expressions that stand further on
-- ---------------------------------------------------------------------------

/-- The fault of a call that ends further on. -/
def OperandFault.shift (x : Extent) : OperandFault → OperandFault
  | .callee found closingLine => .callee found (closingLine + x.lines)
  | fault => fault

/-- A fault that stands further on has the same message. -/
theorem OperandFault.message_shift (x : Extent) (fault : OperandFault) :
    (fault.shift x).message = fault.message := by
  cases fault <;> rfl

/-- Only a note says where a fault lies. -/
theorem OperandFault.shift_of_notes (x : Extent) {fault : OperandFault} (h : fault.notes = []) :
    fault.shift x = fault := by
  cases fault with
  | callee => cases h
  | negation | addition | numbers => rfl

/-- A failure, and the one it becomes when all nodes stand further on: the failure of a
function stays as it is, that of a node moves. -/
inductive Failure.Moved (x : Extent) : Failure → Failure → Prop
  | passed {failure : Failure} (h : failure.Unplaced) : Moved x failure failure
  | placed (fault : OperandFault) (p : Place) :
      Moved x (fault.failure p) ((fault.shift x).failure (p.shift x))

/-- Evaluations, from any runs, of an expression and of the same one further on. -/
def Simulation.moved (σ : Type) (x : Extent) (functions : Function → Prop) : Simulation σ where
  runs _ _ := True
  values v := v.From functions
  failures := Failure.Moved x

variable {host : Host σ} {functions : Function → Prop}

/-- From any two runs, a call of a steady function has one outcome. -/
theorem Host.Steady.call (h : host.Steady functions) {f : Function} {args : List Value}
    (hf : functions f) (hargs : ∀ v ∈ args, v.From functions) (s s' : Run σ) :
    ∃ (outcome : Except Failure Value) (s₁ s₁' : Run σ),
      f.call host args s = Evaluation.ofExcept outcome s₁ ∧
      f.call host args s' = Evaluation.ofExcept outcome s₁' ∧
      (∀ v, outcome = .ok v → v.From functions) ∧
      ∀ failure, outcome = .error failure → failure.Unplaced := by
  unfold Function.call
  cases harity : f.checkArity args with
  | error failure =>
    refine ⟨.error failure, s, s', rfl, rfl, nofun, ?_⟩
    rintro _ ⟨⟩
    exact Function.unplaced_checkArity harity
  | ok _ =>
    cases hroutine : f.routine with
    | builtin b =>
      exact ⟨b.apply args, s, s', rfl, rfl, fun v hv => (Builtin.isPlain_apply hv).from functions,
        fun _ => Builtin.unplaced_apply⟩
    | hosted =>
      let reply (run : Run σ) : Reply σ := host.call f args run.host
      let after (run : Run σ) : Run σ :=
        ⟨(reply run).state, run.events ++ (reply run).events.map Event.relayed⟩
      refine ⟨(reply s).outcome, after s, after s', rfl, ?_, h.result hf hroutine hargs s.host,
        h.unplaced hf hroutine hargs s.host⟩
      show Evaluation.ofExcept (reply s').outcome (after s') = _
      rw [show (reply s').outcome = (reply s).outcome from h.outcome hf hroutine hargs _ _]

/-- A call of a steady function does not notice what has happened before, or where. -/
theorem Host.Steady.agree_call (h : host.Steady functions) (x : Extent) {f : Function}
    {args : List Value} (hf : functions f) (hargs : ∀ v ∈ args, v.From functions) :
    (Simulation.moved σ x functions).Agree (Value.From functions) (f.call host args)
      (f.call host args) := by
  intro s s' _
  obtain ⟨outcome, s₁, s₁', hs, hs', hfrom, hunplaced⟩ := h.call hf hargs s s'
  rw [hs, hs']
  cases outcome with
  | ok v => exact .ok (hfrom v rfl) trivial
  | error failure => exact .error (.passed (hunplaced failure rfl)) trivial

/-- The failure of such a call does not say where it lies. -/
theorem Host.Steady.unplaced_call (h : host.Steady functions) {f : Function} {args : List Value}
    (hf : functions f) (hargs : ∀ v ∈ args, v.From functions) {s s₁ : Run σ} {failure : Failure}
    (hcall : f.call host args s = .error failure s₁) : failure.Unplaced := by
  obtain ⟨outcome, s₂, -, hs, -, -, hunplaced⟩ := h.call hf hargs s s
  rw [hs] at hcall
  cases outcome with
  | ok _ => cases hcall
  | error _ =>
    cases hcall
    exact hunplaced failure rfl

theorem Host.Steady.lawful (h : host.Steady functions) (x : Extent) :
    (Simulation.moved σ x functions).Lawful host (Place.shift x) (Token.shift x) where
  resolved _ _ _ := trivial
  calling _ _ _ _ := trivial
  plain hv := hv.from functions
  call hf hargs := h.agree_call x (hf _ rfl) hargs
  fault fault p h := by
    have hmoved := @Failure.Moved.placed x fault p
    rwa [OperandFault.shift_of_notes x h] at hmoved
  callee v t p := .placed (.callee v t.line) p

/-- An expression that stands further on has the same value, or a failure that has
moved with it, and says so in its notes. -/
theorem Host.Steady.moved (h : host.Steady functions) {env : Environment}
    (henv : ∀ name, (env.get name).From functions) (x : Extent) (e : Expr) (s s' : Run σ) :
    (Simulation.moved σ x functions).Matches (Value.From functions) (e.evaluate env host s)
      ((e.shift x).evaluate env host s') :=
  (h.lawful x).evaluate e (fun name _ _ => ⟨rfl, henv name⟩) s s' trivial

/-- The functions that an evaluation comes upon are the given ones. -/
theorem Host.Steady.from_of_evaluate (h : host.Steady functions) {env : Environment}
    (henv : ∀ name, (env.get name).From functions) {e : Expr} {s s₁ : Run σ} {v : Value}
    (hv : e.evaluate env host s = .ok v s₁) : v.From functions := by
  -- what is said of values does not depend on the shift, so take none
  have hm := h.moved henv ⟨0, 0⟩ e s s
  rw [hv] at hm
  generalize (e.shift ⟨0, 0⟩).evaluate env host s = r at hm
  cases hm with
  | ok hfrom _ => exact hfrom

/-- A failure with a span is the failure of a node. -/
theorem Host.Steady.origin (h : host.Steady functions) {env : Environment}
    (henv : ∀ name, (env.get name).From functions) {e : Expr} {s s₁ : Run σ} {d : Diagnostic}
    {span : Span} (he : e.evaluate env host s = .error (.diagnostic d) s₁)
    (hspan : d.span = some span) : Expr.FailsAtNode env host e (.diagnostic d) := by
  rcases e.origin (fun _ _ _ _ hv => h.from_of_evaluate henv hv) he with hcall | hnode
  · obtain ⟨f, args, s₂, s₃, hf, hargs, hcall⟩ := hcall
    -- a function that fails says nothing of where
    have hnone := h.unplaced_call (hf f rfl) hargs hcall d rfl
    rw [hspan] at hnone
    cases hnone
  · exact hnode

end Reckoner
