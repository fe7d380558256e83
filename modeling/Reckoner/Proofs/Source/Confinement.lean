import Reckoner.Proofs.Evaluation.Confinement
import Reckoner.Proofs.Evaluation.Gist
import Reckoner.Proofs.Evaluation.Steady
import Reckoner.Proofs.Source.Reading

/-!
# Reckoner — texts forge no values

The variables of the expression that a text stands for are names that stand in the text
(`mentions_of_contains`). So the evaluation of a text comes upon no values but plain ones,
those that the environment has for these names, and what functions of this kind answer
(`evaluateSource_forges_nothing`). With nothing bound no function is ever called, and the
prelude leads to no functions but its own.
-/

namespace Reckoner

open Reckoner.Expr Reckoner.Grammar

variable {σ : Type} {host : Host σ} {env : Environment} {values : Value → Prop}

-- ---------------------------------------------------------------------------
-- The names in a text
-- ---------------------------------------------------------------------------

/-- A name stands in a text as an identifier. -/
def Mentions (source name : String) : Prop :=
  ∃ tokens, Token.scan source = .ok tokens ∧
    ∃ t ∈ tokens, t.kind = .identifier ∧ t.lexeme = name

/-- The token that is read as a variable is an identifier. -/
theorem Grammar.Derives.identifier {s : Category} {ts : List Token} {e : Expr} {name : String}
    {p : Place} :
    Derives s ts e → e = .var name p → ∃ t ∈ ts, t.kind = .identifier ∧ t.lexeme = name
  | .expression h, he | .operand h, he | .unsigned h, he | .uncalled h, he => h.identifier he
  | .join (c := c) _ _ _, he => by cases c <;> cases he
  | .sign _ _, he | .apply _ _ _ _ _, he | .group _ _ _, he => by cases he
  | .atom (t := t) h, he => by
    subst he
    cases h with
    | identifier ht => exact ⟨t, List.mem_singleton.2 rfl, ht, rfl⟩

/-- The variables of an expression that is read from a text are identifiers of the text. -/
theorem mentions_of_contains {source name : String} {e : Expr} {p : Place}
    (h : Expr.ofSource source = .ok e) (hn : e.Contains (.var name p)) : Mentions source name := by
  obtain ⟨ts, hts, hd⟩ := ofSource_eq_ok_iff.1 h
  obtain ⟨xs, ms, ys, rfl, hvar⟩ := hd.contains hn
  obtain ⟨t, ht, hkind, hlexeme⟩ := hvar.identifier rfl
  have hmem : t ∈ xs ++ ms ++ ys := List.mem_append_left _ (List.mem_append_right _ ht)
  exact ⟨_, Token.scanFrom_eq_ok_iff.2 ⟨_, hts, rfl⟩, t, List.mem_append_left _ hmem, hkind,
    hlexeme⟩

-- ---------------------------------------------------------------------------
-- Texts
-- ---------------------------------------------------------------------------

/-- No function is called while a text is read. -/
theorem Run.calls_readSource (source : String) (s : Run σ) :
    Run.calls { s with events := s.events ++ (readSource source).1 } = s.calls := by
  have hcall (e : Event) (he : e.gist = none) : e.call? = none := by
    cases e with
    | calling f args t => cases he
    | scanned | parsedCall | resolved | rejected | failed | relayed => rfl
  have hnone : (readSource source).1.filterMap Event.call? = [] := by
    rw [List.filterMap_eq_nil_iff]
    intro e he
    exact hcall e (List.filterMap_eq_nil_iff.1 (Reckoner.gist_readSource source) e he)
  unfold Run.calls
  rw [Array.toList_appendList, List.filterMap_append, hnone, List.append_nil]

theorem makes_readSource (host : Host σ) (source : String) (s : Run σ) :
    Makes host [] s { s with events := s.events ++ (readSource source).1 } :=
  ⟨(Run.calls_readSource source s).trans (List.append_nil _).symm, rfl⟩

/-- What the evaluation of an expression keeps to, that of a text keeps to. -/
theorem Keeps.evaluateSource {source : String} {e : Expr} {s : Run σ}
    (hsource : Expr.ofSource source = .ok e)
    (h : Keeps host values s.host values (e.evaluate env host)) :
    Confined host values s ((evaluateSource env host source).final s) ∧
      ∀ v s₁, evaluateSource env host source s = .ok v s₁ → values v := by
  have hread : Confined host values s { s with events := s.events ++ (readSource source).1 } :=
    .of_makes_nil (makes_readSource host source s)
  obtain ⟨hconfined, hvalue⟩ :=
    h { s with events := s.events ++ (readSource source).1 } (.refl s.host)
  have heq := evaluateSource_of_ok hsource env host s
  cases he : e.evaluate env host { s with events := s.events ++ (readSource source).1 } with
  | ok v s₁ =>
    rw [he] at heq
    rw [Evaluation.final_of_ok he] at hconfined
    rw [Evaluation.final_of_ok heq, heq]
    refine ⟨hread.trans hconfined, fun w s₂ hw => ?_⟩
    cases hw
    exact hvalue v s₁ he
  | error failure s₁ =>
    rw [he] at heq
    rw [Evaluation.final_of_error he] at hconfined
    rw [Evaluation.final_of_error heq, heq]
    have hfailed : Makes host [] s₁ { s₁ with events := s₁.events.push (.failed failure) } :=
      ⟨Run.calls_push s₁ (.failed failure), rfl⟩
    exact ⟨(hread.trans hconfined).trans (.of_makes_nil hfailed), nofun⟩

/-- The evaluation of a text keeps to values that include all plain ones and what its
identifiers mean, and that are closed under calls. -/
theorem evaluateSource_confined (env : Environment) (source : String) (s : Run σ)
    (hplain : ∀ v : Value, v.IsPlain → values v)
    (hnames : ∀ name, Mentions source name → values (env.get name))
    (hclosed : host.Closed values s.host) :
    Confined host values s ((evaluateSource env host source).final s) ∧
      ∀ v s₁, evaluateSource env host source s = .ok v s₁ → values v := by
  cases hsource : Expr.ofSource source with
  | ok e =>
    have hvars : ∀ name p, e.Contains (.var name p) → values (env.get name) :=
      fun name p hn => hnames name (mentions_of_contains hsource hn)
    exact (evaluate_keeps hplain hclosed hvars).evaluateSource hsource
  | error d =>
    have heq := evaluateSource_of_error hsource env host s
    rw [Evaluation.final_of_error heq, heq]
    exact ⟨.of_makes_nil (makes_readSource host source s), nofun⟩

-- ---------------------------------------------------------------------------
-- Nothing bound, and the prelude
-- ---------------------------------------------------------------------------

/-- Plain values are closed under calls, as there is no function among them. -/
theorem Host.closed_isPlain (host : Host σ) (start : σ) : host.Closed Value.IsPlain start := by
  intro state c v _ hwithin _
  exact hwithin.1.elim

/-- Functions that the library computes have plain values. -/
theorem Call.isPlain_of_builtin {c : Call} {b : Builtin} {state : σ} {v : Value}
    (hroutine : c.function.routine = .builtin b) (h : c.outcome host state = .ok v) :
    v.IsPlain := by
  unfold Call.outcome Function.call at h
  cases harity : c.function.checkArity c.args with
  | error failure =>
    rw [harity] at h
    cases h
  | ok _ =>
    rw [harity, hroutine] at h
    have hb : (Evaluation.ofExcept (b.apply c.args)).outcome ⟨state, #[]⟩ = .ok v := h
    rw [Evaluation.outcome_ofExcept] at hb
    exact Builtin.isPlain_apply hb

/-- The values that an expression can come upon with the prelude: plain ones, and the
functions that are bound there. -/
def Prelude.Yields (firstIdentity : Nat) (v : Value) : Prop :=
  v.IsPlain ∨ v ∈ (Prelude.entries firstIdentity).map Prod.snd

theorem Prelude.closed_yields (firstIdentity : Nat) (host : Host σ) (start : σ) :
    host.Closed (Prelude.Yields firstIdentity) start := by
  intro state c v _ hwithin houtcome
  have hmem := hwithin.1.resolve_left (fun hplain => hplain.elim)
  obtain ⟨b, hb⟩ := Prelude.routine_of_mem hmem
  exact .inl (Call.isPlain_of_builtin hb houtcome)

theorem Prelude.yields_get (firstIdentity : Nat) (name : String) :
    Prelude.Yields firstIdentity ((Environment.prelude firstIdentity).get name) := by
  rcases Environment.get_prelude_cases firstIdentity name with hmem | hnil
  · exact .inr hmem
  · rw [hnil]
    exact .inl trivial

/-- There is nothing foreign in the prelude. -/
theorem Prelude.Yields.not_foreign {firstIdentity : Nat} {v : Value}
    (h : Prelude.Yields firstIdentity v) (x : Foreign) : v ≠ .foreign x := by
  rintro rfl
  rcases h with hplain | hmem
  · exact hplain
  · obtain ⟨pair, hpair, hx⟩ := List.mem_map.1 hmem
    obtain ⟨⟨b, identity⟩, -, rfl⟩ := List.mem_map.1 hpair
    cases hx

/-- **No value is forged.** A text is evaluated, from any state of any host. Take any
environment and any values that include all plain ones and what the environment has for the
identifiers of the text, and that are closed under calls: all functions that are called and
all arguments that are passed are among them, and so is the value if there is one. With
nothing bound, then, no function is called and the value is plain. And with the prelude
alone the value is no foreign one, and a function only if it is bound in the prelude. -/
theorem evaluateSource_forges_nothing (host : Host σ) (source : String) (s : Run σ) :
    (∀ (env : Environment) (values : Value → Prop), (∀ v : Value, v.IsPlain → values v) →
      (∀ name, Mentions source name → values (env.get name)) → host.Closed values s.host →
      (∃ made, Makes host made s ((evaluateSource env host source).final s) ∧
        ∀ c ∈ made, values (.function c.function) ∧ ∀ v ∈ c.args, values v) ∧
      ∀ v s₁, evaluateSource env host source s = .ok v s₁ → values v) ∧
    (Makes host [] s ((evaluateSource .empty host source).final s) ∧
      ∀ v s₁, evaluateSource .empty host source s = .ok v s₁ →
        (∀ f, v ≠ .function f) ∧ ∀ x, v ≠ .foreign x) ∧
    ∀ firstIdentity v s₁, evaluateSource (.prelude firstIdentity) host source s = .ok v s₁ →
      (∀ f, v = .function f → v ∈ (Prelude.entries firstIdentity).map Prod.snd) ∧
        ∀ x, v ≠ .foreign x := by
  refine ⟨fun env values hplain hnames hclosed => ?_, ?_, fun firstIdentity v s₁ hv => ?_⟩
  · exact evaluateSource_confined env source s hplain hnames hclosed
  · -- without bindings every name means nil, and plain values are closed under calls
    obtain ⟨⟨made, hmakes, hwithin⟩, hvalue⟩ := evaluateSource_confined .empty source s
      (fun _ hv => hv) (fun _ _ => trivial) (host.closed_isPlain s.host)
    have hnone : made = [] := List.eq_nil_iff_forall_not_mem.2 fun c hc => (hwithin c hc).1
    rw [hnone] at hmakes
    refine ⟨hmakes, fun v s₁ hv => ⟨?_, ?_⟩⟩
    · rintro f rfl
      exact hvalue _ s₁ hv
    · rintro x rfl
      exact hvalue _ s₁ hv
  · obtain ⟨-, hvalue⟩ := evaluateSource_confined (.prelude firstIdentity) source s
      (fun _ hv => .inl hv) (fun name _ => Prelude.yields_get firstIdentity name)
      (Prelude.closed_yields firstIdentity host s.host)
    have hyields := hvalue v s₁ hv
    refine ⟨fun f hf => ?_, Prelude.Yields.not_foreign hyields⟩
    rcases hyields with hplain | hmem
    · rw [hf] at hplain
      exact hplain.elim
    · exact hmem

/-- A function that answers with its first argument is called with itself, and its answer is
called. -/
theorem evaluateSource_forges_nothing_chained :
    let f : Function := ⟨"f", none, .hosted, 0⟩
    let env := Environment.empty.define "f" (.function f)
    let host : Host Nat := ⟨fun _ args count => ⟨.ok (args.headD .nil), count + 1, []⟩⟩
    let values (v : Value) : Prop := v.IsPlain ∨ v = .function f
    (∀ name, values (env.get name)) ∧ host.Closed values 0 ∧
      ∃ v s₁ made, evaluateSource env host "f(f)(nil)" ⟨0, #[]⟩ = .ok v s₁ ∧ s₁.host = 2 ∧
        Makes host made ⟨0, #[]⟩ s₁ ∧
        (∀ c ∈ made, values (.function c.function) ∧ ∀ w ∈ c.args, values w) ∧ values v := by
  intro f env host values
  have hnames : ∀ name, values (env.get name) := by
    intro name
    have hfind := Environment.find?_define .empty "f" name (.function f)
    by_cases hname : name = "f"
    · rw [if_pos hname] at hfind
      exact .inr (congrArg (·.getD .nil) hfind)
    · rw [if_neg hname] at hfind
      have hnil : env.get name = .nil := congrArg (·.getD .nil) hfind
      rw [hnil]
      exact .inl trivial
  have hclosed : host.Closed values 0 := by
    rintro state ⟨g, args, t⟩ v - ⟨hg, hargs⟩ houtcome
    obtain rfl := Value.function.inj (hg.resolve_left fun hplain => hplain.elim)
    have hfirst : Except.ok (args.headD .nil) = (Except.ok v : Except Failure Value) := houtcome
    cases args with
    | nil =>
      cases hfirst
      exact .inl trivial
    | cons w rest =>
      cases hfirst
      exact hargs w (List.mem_cons_self ..)
  let f₁ : Token := ⟨.identifier, "f", none, 1, ⟨0, 1⟩⟩
  let open₁ : Token := ⟨.leftParen, "(", none, 1, ⟨1, 2⟩⟩
  let f₂ : Token := ⟨.identifier, "f", none, 1, ⟨2, 3⟩⟩
  let close₁ : Token := ⟨.rightParen, ")", none, 1, ⟨3, 4⟩⟩
  let open₂ : Token := ⟨.leftParen, "(", none, 1, ⟨4, 5⟩⟩
  let nil : Token := ⟨.keyword .nil, "nil", none, 1, ⟨5, 8⟩⟩
  let close₂ : Token := ⟨.rightParen, ")", none, 1, ⟨8, 9⟩⟩
  have hsplits : Token.Splits [] .origin "f(f)(nil)".toList
      [f₁, open₁, f₂, close₁, open₂, nil, close₂] :=
    @Token.Splits.token _ _ _ [] _ _ _ rfl rfl <|
      @Token.Splits.token _ _ _ [] _ _ _ rfl rfl <|
      @Token.Splits.token _ _ _ [] _ _ _ rfl rfl <|
      @Token.Splits.token _ _ _ [] _ _ _ rfl rfl <|
      @Token.Splits.token _ _ _ [] _ _ _ rfl rfl <|
      @Token.Splits.token _ _ _ ['i', 'l'] _ _ _ rfl rfl <|
      @Token.Splits.token _ _ _ [] _ _ _ rfl rfl <| .done _
  have hname (t : Token) (ht : t.kind = .identifier) : Derives .call [t] _ :=
    .uncalled (.atom (.identifier ht))
  have hfirst : Derives .call [f₁, open₁, f₂, close₁] _ :=
    @Derives.apply [f₁] [f₂] open₁ close₁ _ _ (hname f₁ rfl) rfl
      (.one (hname f₂ rfl).toExpression) (by decide) rfl
  have hnil : Derives .call [nil] _ := .uncalled (.atom (.nil rfl))
  have hsecond : Derives .call [f₁, open₁, f₂, close₁, open₂, nil, close₂] _ :=
    @Derives.apply [f₁, open₁, f₂, close₁] [nil] open₂ close₂ _ _ hfirst rfl
      (.one hnil.toExpression) (by decide) rfl
  have hsource := ofSource_eq_ok_iff.2 ⟨_, hsplits, hsecond.toExpression⟩
  have heq := evaluateSource_of_ok hsource env host ⟨0, #[]⟩
  obtain ⟨hall, -, -⟩ := evaluateSource_forges_nothing host "f(f)(nil)" ⟨0, #[]⟩
  obtain ⟨⟨made, hmakes, hwithin⟩, hvalue⟩ := hall env values (fun _ hv => .inl hv)
    (fun name _ => hnames name) hclosed
  rw [Evaluation.final_of_ok (heq.trans rfl)] at hmakes
  exact ⟨hnames, hclosed, _, _, made, heq.trans rfl, rfl, hmakes, hwithin,
    hvalue _ _ (heq.trans rfl)⟩

end Reckoner
