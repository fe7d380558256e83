import Reckoner.Proofs.Environment.Layers
import Reckoner.Proofs.Evaluation.Simulation

/-!
# Reckoner — literals in place of variables

A variable that means the value of a literal could as well be that literal. Binding names to
the values of literals, and writing the literals where the names stand (`Expr.substitute`),
make the same evaluation, but for the variables that are looked up in the one and not in the
other (`effects`).

Main results:

* `Simulation.agree_substitute` — an expression does the same where its variables mean what
  is written in their place;
* `evaluate_substitute` — names bound to literals, in the innermost layer of an environment
  or in a layer of their own.
-/

namespace Reckoner

variable {σ α : Type}

-- ---------------------------------------------------------------------------
-- Substitution
-- ---------------------------------------------------------------------------

namespace Expr

mutual

/-- A tree with literals in place of variables. A variable that has a replacement becomes
that literal, at the same place. -/
def substitute (replacement? : String → Option Literal) : Expr → Expr
  | literal v p => literal v p
  | var name p =>
    match replacement? name with
    | some v => literal v p
    | none => var name p
  | group e p => group (substitute replacement? e) p
  | unary op e p => unary op (substitute replacement? e) p
  | binary op a b p => binary op (substitute replacement? a) (substitute replacement? b) p
  | logical op a b p => logical op (substitute replacement? a) (substitute replacement? b) p
  | call f args t p => call (substitute replacement? f) (substituteAll replacement? args) t p

/-- The trees of a list, with literals in place of variables. -/
def substituteAll (replacement? : String → Option Literal) : List Expr → List Expr
  | [] => []
  | e :: es => substitute replacement? e :: substituteAll replacement? es

end

/-- In arguments names are replaced one by one. -/
theorem substituteAll_eq_map (replacement? : String → Option Literal) (es : List Expr) :
    substituteAll replacement? es = es.map (substitute replacement?) := by
  induction es with
  | nil => rfl
  | cons e es ih => rw [substituteAll, ih, List.map_cons]

end Expr

-- ---------------------------------------------------------------------------
-- Evaluations that differ in look-ups
-- ---------------------------------------------------------------------------

/-- Whether an event is the look-up of a variable. -/
def Event.isLookUp : Event → Bool
  | .resolved _ _ => true
  | .scanned _ | .parsedCall _ _ | .calling _ _ _ | .rejected _ | .failed _ | .relayed _ => false

/-- The state of the host, and what happened besides look-ups of variables. -/
def Run.effects (run : Run σ) : σ × List Event :=
  (run.host, run.events.toList.filter (!·.isLookUp))

/-- What an evaluation comes to, failures with all that they say, and what it does besides
looking up variables. -/
def effects : EStateM.Result Failure (Run σ) α → Except Failure α × σ × List Event
  | .ok v run => (.ok v, run.effects)
  | .error f run => (.error f, run.effects)

/-- An event has an effect unless it is a look-up. -/
theorem Run.effects_push (run : Run σ) (e : Event) :
    Run.effects { run with events := run.events.push e } =
      (run.effects.1, run.effects.2 ++ [e].filter (!·.isLookUp)) := by
  unfold Run.effects
  rw [Array.toList_push, List.filter_append]

theorem Run.effects_append (run : Run σ) (host : σ) (es : List Event) :
    Run.effects ⟨host, run.events ++ es⟩ =
      (host, run.effects.2 ++ es.filter (!·.isLookUp)) := by
  unfold Run.effects
  rw [Array.toList_appendList, List.filter_append]

/-- A variable that is looked up leaves nothing else behind. -/
theorem Run.effects_resolved (run : Run σ) (name : String) (v : Value) :
    Run.effects { run with events := run.events.push (.resolved name v) } = run.effects := by
  rw [Run.effects_push]
  exact Prod.ext rfl (List.append_nil _)

namespace Simulation

/-- Evaluations that have the same effects. -/
def effects (σ : Type) : Simulation σ where
  runs s s' := s.effects = s'.effects
  values _ := True
  failures := Eq

/-- Results that count as the same have the same effects, and the same value or failure. -/
theorem effects_eq_of_matches {P : α → Prop} {r r' : EStateM.Result Failure (Run σ) α}
    (h : (Simulation.effects σ).Matches P r r') : Reckoner.effects r = Reckoner.effects r' := by
  cases h with
  | ok _ hs => exact congrArg (Prod.mk _) hs
  | error hf hs =>
    cases hf
    exact congrArg (Prod.mk _) hs

theorem effects_lawful (host : Host σ) : (Simulation.effects σ).Lawful host id id where
  resolved name v hs := by
    show Run.effects _ = Run.effects _
    rw [Run.effects_resolved, Run.effects_resolved]
    exact hs
  calling f args t hs := by
    show Run.effects _ = Run.effects _
    rw [Run.effects_push, Run.effects_push, show Run.effects _ = Run.effects _ from hs]
    rfl
  plain _ := trivial
  call {f args} _ _ := by
    refine agree_call (fun hs => congrArg Prod.fst hs) (fun {s s'} state events hs => ?_)
      (fun _ => rfl) host f args
    show Run.effects _ = Run.effects _
    rw [Run.effects_append, Run.effects_append, show s.effects = s'.effects from hs]
  fault _ _ _ := rfl
  callee _ _ _ := rfl

/-- A variable does the same as the literal of its value. -/
theorem agree_var_literal {env env' : Environment} {host : Host σ} {name : String} {v : Literal}
    (hv : env.get name = .ofLiteral v) (p : Place) :
    (Simulation.effects σ).Agree (fun _ => True) ((Expr.var name p).evaluate env host)
      ((Expr.literal v p).evaluate env' host) := by
  intro s s' hs
  rw [Expr.evaluate, Expr.evaluate, ← hv]
  exact .ok trivial ((Run.effects_resolved s name _).trans hs)

/-- **Substitution.** An expression, in an environment in which each of its variables means the
literal that replaces it, or what it means in the other environment, does the same as the
expression with the literals in their places does in that one. -/
theorem agree_substitute {env env' : Environment} (host : Host σ)
    {replacement? : String → Option Literal}
    (henv : ∀ name, env.get name = ((replacement? name).map Value.ofLiteral).getD (env'.get name))
    (e : Expr) :
    (Simulation.effects σ).Agree (fun _ => True) (e.evaluate env host)
      ((e.substitute replacement?).evaluate env' host) := by
  have hlawful := effects_lawful host
  induction e with
  | literal v p => exact hlawful.literal v p p
  | var name p =>
    have hget := henv name
    rw [Expr.substitute]
    cases hv : replacement? name with
    | none =>
      rw [hv] at hget
      exact hlawful.var hget trivial p p
    | some v =>
      rw [hv] at hget
      exact agree_var_literal hget p
  | group e p ih =>
    rw [Expr.substitute, Expr.evaluate, Expr.evaluate]
    exact ih
  | unary op e p ih => exact hlawful.unary ih op p
  | binary op a b p iha ihb => exact hlawful.binary iha ihb op p
  | logical op a b p iha ihb => exact agree_logical iha ihb op p p
  | call f args t p ihf ihargs =>
    rw [Expr.substitute, Expr.substituteAll_eq_map]
    exact hlawful.apply ihf ihargs t p

end Simulation

-- ---------------------------------------------------------------------------
-- Names bound to literals
-- ---------------------------------------------------------------------------

/-- Names bound to the values of literals. -/
def literalBindings (m : List (String × Literal)) : List (String × Value) :=
  m.map fun (name, v) => (name, .ofLiteral v)

/-- A name is bound to the literal that replaces it. -/
theorem lookup_literalBindings (m : List (String × Literal)) (name : String) :
    (literalBindings m).lookup name = (m.lookup name).map Value.ofLiteral := by
  induction m with
  | nil => rfl
  | cons pair rest ih =>
    obtain ⟨n, v⟩ := pair
    show List.lookup name ((n, Value.ofLiteral v) :: literalBindings rest) = _
    rw [List.lookup_cons, List.lookup_cons, ih]
    cases name == n <;> rfl

/-- In an environment that binds names to literals, the literals come before what the names
meant. -/
theorem Environment.get_extend_literals {m : List (String × Literal)}
    (hm : (m.map Prod.fst).Nodup) (env : Environment) (name : String) :
    (env.extend (literalBindings m)).get name =
      ((m.lookup name).map Value.ofLiteral).getD (env.get name) := by
  have hnames : (literalBindings m).map Prod.fst = m.map Prod.fst := by
    rw [literalBindings, List.map_map]
    rfl
  rw [Environment.get_extend, latest?_of_nodup (hnames ▸ hm), lookup_literalBindings]

/-- **Literals in place of variables.** Names, each once, are bound to the values of literals,
in the innermost layer of any environment or in a new layer inside it, over whatever they meant
before. Then an expression has the same value or the very same failure, after the same calls
with the same arguments and with the host in the same state, as in the environment itself the
expression with these literals in place of the variables. -/
theorem evaluate_substitute (m : List (String × Literal)) (hm : (m.map Prod.fst).Nodup)
    (e : Expr) (env : Environment) (host : Host σ) (s : Run σ) :
    effects (e.evaluate (env.extend (literalBindings m)) host s) =
        effects ((e.substitute (m.lookup ·)).evaluate env host s) ∧
      effects (e.evaluate (env.inside.extend (literalBindings m)) host s) =
        effects ((e.substitute (m.lookup ·)).evaluate env host s) := by
  have hinside (name : String) : env.inside.get name = env.get name := by
    unfold Environment.get
    rw [Environment.find?_inside]
  constructor
  · refine Simulation.effects_eq_of_matches (Simulation.agree_substitute host ?_ e s s rfl)
    exact env.get_extend_literals hm
  · refine Simulation.effects_eq_of_matches (Simulation.agree_substitute host ?_ e s s rfl)
    intro name
    rw [env.inside.get_extend_literals hm, hinside]

/-- `x(f(y), x and g())` with `x` nil, which hides a function, and `y` a string: `f` is called
with the string, `g` is not called, and then nil is no function. -/
theorem evaluate_substitute_callee :
    let env := ((Environment.empty.define "x" (.function ⟨"x", none, .hosted, 0⟩)).define "f"
      (.function ⟨"f", none, .hosted, 1⟩)).define "g" (.function ⟨"g", none, .hosted, 2⟩)
    let host : Host Nat := ⟨fun _ args count => ⟨.ok (args.headD .nil), count + 1, []⟩⟩
    let m : List (String × Literal) := [("y", .string "é"), ("x", .nil)]
    let closing : Token := ⟨.rightParen, ")", none, 3, ⟨17, 18⟩⟩
    let place : Place := ⟨⟨0, 18⟩, 3⟩
    let e (x y : Expr) : Expr := .call x [.call (.var "f" default) [y] default default,
      .logical .and x (.call (.var "g" default) [] default default) default] closing place
    let var (name : String) : Expr := .var name default
    let literal (v : Literal) : Expr := .literal v default
    (m.map Prod.fst).Nodup ∧
      effects ((e (var "x") (var "y")).evaluate (env.extend (literalBindings m)) host ⟨0, #[]⟩) =
        effects ((e (literal .nil) (literal (.string "é"))).evaluate env host ⟨0, #[]⟩) ∧
      ∃ d events, effects ((e (var "x") (var "y")).evaluate (env.extend (literalBindings m)) host
          ⟨0, #[]⟩) = (.error (.diagnostic d), 1, events) ∧
        d.message = "callee `nil` (Nil) is an illegal function type" ∧
        d.notes = ["call closed at line 3"] := by
  intro env host m closing place e var literal
  have hm : (m.map Prod.fst).Nodup := by decide
  exact ⟨hm, (evaluate_substitute m hm (e (var "x") (var "y")) env host ⟨0, #[]⟩).1, _, _, rfl, rfl,
    by decide⟩

end Reckoner
