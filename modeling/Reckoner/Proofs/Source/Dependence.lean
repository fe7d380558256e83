import Reckoner.Proofs.Environment.Layers
import Reckoner.Proofs.Evaluation.Gist
import Reckoner.Proofs.Source.Reading

/-!
# Reckoner — what an evaluation depends on

An evaluation asks its environment for what the variables of its expression mean, and for
nothing else. In two environments that answer these questions alike it does the same, to the
last event (`evaluate_congr`). So an environment counts for nothing but for what its names
mean: how it is layered, what is hidden or never asked for, and in which order different
names were defined makes no difference (`evaluation_depends_on_names`).
-/

namespace Reckoner

open Reckoner.Grammar

variable {σ α : Type} {host : Host σ} {env env' : Environment}

-- ---------------------------------------------------------------------------
-- Expressions
-- ---------------------------------------------------------------------------

/-- Evaluations that do the same. -/
def Simulation.same (σ : Type) : Simulation σ where
  runs := Eq
  values _ := True
  failures := Eq

theorem Simulation.same_refl (x : Evaluation σ α) :
    (Simulation.same σ).Agree (fun _ => True) x x := by
  rintro s _ rfl
  cases x s with
  | ok v s₁ => exact .ok trivial rfl
  | error failure s₁ => exact .error rfl rfl

theorem Simulation.eq_of_same {P : α → Prop} {r r' : EStateM.Result Failure (Run σ) α}
    (h : (Simulation.same σ).Matches P r r') : r = r' := by
  cases h with
  | ok _ hs => exact congrArg (EStateM.Result.ok _) hs
  | error hf hs =>
    cases hf
    exact congrArg (EStateM.Result.error _) hs

theorem Simulation.same_lawful (host : Host σ) : (Simulation.same σ).Lawful host id id where
  resolved name v hs := by
    cases hs
    rfl
  calling f args t hs := by
    cases hs
    rfl
  plain _ := trivial
  call _ _ := same_refl _
  fault _ _ _ := rfl
  callee _ _ _ := rfl

/-- An expression does the same in two environments in which its variables mean the same. -/
theorem Expr.evaluate_congr {e : Expr}
    (h : ∀ name p, e.Contains (.var name p) → env.get name = env'.get name) :
    e.evaluate env host = e.evaluate env' host := by
  funext s
  have hbound : (Simulation.same σ).Bound env env' e := fun name p hn => ⟨h name p hn, trivial⟩
  have hmatches := (Simulation.same_lawful host).evaluate e hbound s s rfl
  rw [Expr.relabel_id] at hmatches
  exact Simulation.eq_of_same hmatches

-- ---------------------------------------------------------------------------
-- Texts
-- ---------------------------------------------------------------------------

/-- A text does the same in two environments in which the variables of its expression mean
the same. -/
theorem evaluateSource_congr {source : String}
    (h : ∀ e, Expr.ofSource source = .ok e →
      ∀ name p, e.Contains (.var name p) → env.get name = env'.get name) :
    evaluateSource env host source = evaluateSource env' host source := by
  funext s
  cases hsource : Expr.ofSource source with
  | ok e =>
    rw [evaluateSource_of_ok hsource, evaluateSource_of_ok hsource,
      Expr.evaluate_congr (h e hsource)]
  | error d => rw [evaluateSource_of_error hsource, evaluateSource_of_error hsource]

/-- No evaluation tells two environments apart. -/
def Environment.Alike (env env' : Environment) : Prop :=
  ∀ {σ : Type} (host : Host σ) (source : String),
    evaluateSource env host source = evaluateSource env' host source

theorem Environment.alike_of_find? (h : ∀ name, env.find? name = env'.find? name) :
    env.Alike env' := by
  intro σ host source
  refine evaluateSource_congr fun e _ name p _ => ?_
  unfold Environment.get
  rw [h]

/-- A binding of nil to a name that is not bound. -/
theorem Environment.BindsAt.alike_of_nil {inner : List Bindings} {name : String}
    (h : env.BindsAt env' inner name .nil) (hunbound : env.find? name = none) :
    env'.Alike env := by
  intro σ host source
  refine evaluateSource_congr fun e _ other p _ => ?_
  unfold Environment.get
  rw [h.find?_eq]
  by_cases hname : other = name
  · -- no layer binds the name, so none of those inside does
    obtain ⟨b, outer, hlayers, -⟩ := h
    have hinner : inner.findSome? (·.find? name) = none := by
      unfold Environment.find? at hunbound
      rw [hlayers, List.findSome?_append, Option.or_eq_none_iff] at hunbound
      exact hunbound.1
    rw [if_pos hname, hinner, hname, hunbound]
    rfl
  · rw [if_neg hname]

/-- A binding that is hidden by a layer inside it. -/
theorem Environment.BindsAt.alike_of_shadowed {inner : List Bindings} {name : String}
    {value : Value} (h : env.BindsAt env' inner name value)
    (hshadowed : ∃ b ∈ inner, b.find? name ≠ none) : env'.Alike env := by
  refine Environment.alike_of_find? fun other => ?_
  rw [h.find?_eq]
  by_cases hname : other = name
  · obtain ⟨b, outer, hlayers, -⟩ := h
    obtain ⟨v, hv⟩ : ∃ v, inner.findSome? (·.find? name) = some v := by
      rw [← Option.isSome_iff_exists, List.findSome?_isSome_iff]
      obtain ⟨b, hb, hne⟩ := hshadowed
      exact ⟨b, hb, Option.isSome_iff_ne_none.2 hne⟩
    unfold Environment.find?
    rw [if_pos hname, hlayers, List.findSome?_append, hname, hv]
    rfl
  · rw [if_neg hname]

/-- A binding of a name that does not occur. -/
theorem Environment.BindsAt.evaluateSource_of_unmentioned {inner : List Bindings} {name : String}
    {value : Value} {source : String} (h : env.BindsAt env' inner name value)
    (hunmentioned : ∀ e, Expr.ofSource source = .ok e → ∀ p, ¬ e.Contains (.var name p)) :
    evaluateSource env' host source = evaluateSource env host source := by
  refine evaluateSource_congr fun e he other p hn => ?_
  have hname : other ≠ name := by
    rintro rfl
    exact hunmentioned e he p hn
  unfold Environment.get
  rw [h.find?_eq, if_neg hname]

/-- Definitions in another order, in which those of one name come in their order. -/
theorem Environment.alike_of_reordered (env : Environment) {ps qs : List (String × Value)}
    (h : ∀ name, ps.filter (·.1 = name) = qs.filter (·.1 = name)) :
    (env.extend ps).Alike (env.extend qs) := by
  refine Environment.alike_of_find? fun name => ?_
  rw [Environment.find?_extend, Environment.find?_extend, ← latest?_filter ps, h name,
    latest?_filter]

/-- **Only the identifiers that occur matter.** In two environments in which the variables of
the expression that a text stands for mean the same, the evaluation of the text does the
same, from every state of every host: the same value or the same failure, in the same run
of events. So nothing tells environments apart, if all layers are made into one, if a layer
without bindings is put in somewhere, if a name that is not bound is bound to nil, if a name
is bound in a layer where another one hides it, or if different names are defined in
another order. And no text does something else when a name is bound that it does not
mention. -/
theorem evaluation_depends_on_names (env : Environment) :
    (∀ env' source, (∀ e, Expr.ofSource source = .ok e →
        ∀ name p, e.Contains (.var name p) → env.get name = env'.get name) →
      ∀ {σ : Type} (host : Host σ) (s : Run σ),
        evaluateSource env host source s = evaluateSource env' host source s) ∧
    env.flat.Alike env ∧
    (∀ (env' : Environment) inner outer, env.layers = inner ++ outer →
      env'.layers = inner ++ .empty :: outer → env'.Alike env) ∧
    (∀ env' inner name, env.BindsAt env' inner name .nil → env.find? name = none →
      env'.Alike env) ∧
    (∀ env' inner name value, env.BindsAt env' inner name value →
      (∃ b ∈ inner, b.find? name ≠ none) → env'.Alike env) ∧
    (∀ env' inner name value source, env.BindsAt env' inner name value →
      (∀ e, Expr.ofSource source = .ok e → ∀ p, ¬ e.Contains (.var name p)) →
      ∀ {σ : Type} (host : Host σ) (s : Run σ),
        evaluateSource env' host source s = evaluateSource env host source s) ∧
    ∀ ps qs : List (String × Value),
      (∀ name, ps.filter (·.1 = name) = qs.filter (·.1 = name)) →
      (ps.foldl (fun env pair => env.define pair.1 pair.2) env).Alike
        (qs.foldl (fun env pair => env.define pair.1 pair.2) env) := by
  refine ⟨fun env' source h σ host s => ?_, ?_, fun env' inner outer h h' => ?_,
    fun env' inner name h hunbound => ?_, fun env' inner name value h hshadowed => ?_,
    fun env' inner name value source h hunmentioned σ host s => ?_, fun ps qs h => ?_⟩
  · rw [evaluateSource_congr h]
  · exact Environment.alike_of_find? env.find?_flat
  · exact Environment.alike_of_find? (Environment.find?_of_empty_layer h h')
  · exact h.alike_of_nil hunbound
  · exact h.alike_of_shadowed hshadowed
  · rw [h.evaluateSource_of_unmentioned hunmentioned]
  · rw [← Environment.extend_eq_foldl, ← Environment.extend_eq_foldl]
    exact env.alike_of_reordered h

/-- A comparison that mentions `x`, in two environments that differ in their layers and in
what `y` means, and changes to them that make no difference. -/
theorem evaluation_depends_on_names_mentioned :
    let env := (Environment.empty.define "y" (.bool true)).define "x" (.string "a")
    let outer := Environment.empty.define "x" .nil
    let env' := outer.inside.define "x" (.string "a")
    env.get "y" ≠ env'.get "y" ∧
    (∀ (host : Host Nat) (s : Run Nat),
      evaluateSource env host "x == nil" s = evaluateSource env' host "x == nil" s) ∧
    (∀ (host : Host Nat) (s : Run Nat), evaluateSource (env.define "y" .nil) host "x == nil" s =
      evaluateSource env host "x == nil" s) ∧
    (env.define "z" .nil).Alike env ∧
    ((outer.define "x" (.bool true)).inside.define "x" (.string "a")).Alike env' ∧
    ((Environment.empty.define "x" (.string "a")).define "y" (.bool true)).Alike env := by
  intro env outer env'
  let x : Token := ⟨.identifier, "x", none, 1, ⟨0, 1⟩⟩
  let equal : Token := ⟨.equalEqual, "==", none, 1, ⟨2, 4⟩⟩
  let nil : Token := ⟨.keyword .nil, "nil", none, 1, ⟨5, 8⟩⟩
  have hsplits : Token.Splits [] .origin "x == nil".toList [x, equal, nil] :=
    @Token.Splits.token _ _ _ [] _ _ _ rfl rfl <| .blank rfl <|
      @Token.Splits.token _ _ _ ['='] _ _ _ rfl rfl <| .blank rfl <|
      @Token.Splits.token _ _ _ ['i', 'l'] _ _ _ rfl rfl <| .done _
  have hatom {t : Token} {e : Expr} (h : Atom t e) : Derives (.level .comparison) [t] e :=
    .operand (.operand (.operand (.unsigned (.uncalled (.atom h)))))
  have hequal : Derives (.level .equality) ([x] ++ equal :: [nil]) _ :=
    .join (.operand (hatom (.identifier rfl))) .equal (hatom (.nil rfl))
  have hsource := ofSource_eq_ok_iff.2 ⟨_, hsplits, hequal.toExpression⟩
  -- the only name in the tree is that of the left operand
  have hnames : ∀ e, Expr.ofSource "x == nil" = .ok e →
      ∀ name p, e.Contains (.var name p) → name = "x" := by
    intro e he name p hn
    cases hsource.symm.trans he
    obtain ⟨⟩ | ⟨hc, hn⟩ := hn
    rcases List.mem_cons.1 hc with rfl | hc
    · obtain ⟨⟩ | ⟨hc, -⟩ := hn
      · rfl
      · exact absurd hc List.not_mem_nil
    · obtain rfl := List.mem_singleton.1 hc
      obtain ⟨⟩ | ⟨hc, -⟩ := hn
      exact absurd hc List.not_mem_nil
  obtain ⟨hcongr, -, -, hnil, -, hunmentioned, -⟩ := evaluation_depends_on_names env
  obtain ⟨-, -, -, -, hshadowed, -⟩ := evaluation_depends_on_names env'
  obtain ⟨-, -, -, -, -, -, hreordered⟩ := evaluation_depends_on_names .empty
  refine ⟨by decide, hcongr env' _ fun e he name p hn => ?_,
    hunmentioned _ [] "y" .nil _ ⟨_, _, rfl, rfl⟩ fun e he p hn => ?_,
    hnil _ [] "z" ⟨_, _, rfl, rfl⟩ rfl,
    hshadowed _ [env'.own] "x" (.bool true) ⟨_, _, rfl, rfl⟩ ⟨_, List.mem_singleton_self _, ?_⟩,
    hreordered [("x", .string "a"), ("y", .bool true)] [("y", .bool true), ("x", .string "a")]
      fun name => ?_⟩
  · rw [hnames e he name p hn]
    rfl
  · exact absurd (hnames e he "y" p hn) (by decide)
  · decide
  · by_cases hname : "x" = name
    · subst hname
      rfl
    · simp [List.filter_cons, hname]

end Reckoner
