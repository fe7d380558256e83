import Reckoner.Proofs.Evaluation.Course

/-!
# Reckoner — what is not reached

A tree with a hole is a path of frames from the root down to the hole (`Expr.Context`). An
evaluation goes down the path as long as, at each frame, the children in front
of the hole have values and leave it open (`Comes`). A frame **discards** its hole when one of
these children fails, or when the left operand of an `and` or `or` decides (`Discards`).

Main results:

* `Frame.exists_resume` — a node evaluates what stands in front of the hole, then what stands
  in the hole unless that is decided, and then goes on with its value;
* `Comes.reaches`, `comes_or_unreached` — an evaluation comes to the hole, or a frame on the
  way discards it;
* `unreached_cannot_matter` — what stands in a hole that is discarded makes no difference.
-/

namespace Reckoner

variable {σ : Type}

namespace Expr

namespace Frame

/-- The children to the left of the hole. -/
def siblings : Frame → List Expr
  | group _ | unary _ _ | binaryLeft _ _ _ | logicalLeft _ _ _ | callee _ _ _ => []
  | binaryRight _ left _ | logicalRight _ left _ => [left]
  | argument f before _ _ _ => f :: before

/-- The value that the node has whatever stands in the hole, for the values of the children to
the left of it: that of a left operand which decides. -/
def decided? : Frame → List Value → Option Value
  | logicalRight op _ _, vs => vs.head?.filter op.decides
  | _, _ => none

theorem decided?_logicalRight (op : LogicalOp) (left : Expr) (place : Place) (v : Value) :
    (logicalRight op left place).decided? [v] = if op.decides v then some v else none :=
  Option.filter_some

end Frame

-- ---------------------------------------------------------------------------
-- Evaluating down to the hole
-- ---------------------------------------------------------------------------

section

variable {env : Environment} {host : Host σ}

/-- What a call does with the values of its callee and its arguments. -/
def conclude (host : Host σ) (closing : Token) (place : Place) :
    Value → List Value → Evaluation σ Value
  | .function g, vs => do
    Evaluation.record (.calling g vs closing)
    g.call host vs
  | v, _ => throw ((OperandFault.callee v closing.line).failure place)

theorem call_concludes (env : Environment) (host : Host σ) (f : Expr) (args : List Expr)
    (closing : Token) (place : Place) :
    (Expr.call f args closing place).evaluate env host = (do
      let v ← f.evaluate env host
      let vs ← evaluateAll env host args
      conclude host closing place v vs) := by
  rw [evaluate]
  refine bind_congr fun v => bind_congr fun vs => ?_
  cases v <;> rfl

/-- **What a node does with a child**: it evaluates the children to the left of it, then the
child unless they decide, and goes on with the value of the child. -/
theorem Frame.exists_resume (env : Environment) (host : Host σ) (frame : Frame) :
    ∃ resume : List Value → Value → Evaluation σ Value, ∀ e : Expr,
      (frame.fill e).evaluate env host = (do
        let vs ← evaluateAll env host frame.siblings
        match frame.decided? vs with
        | some v => return v
        | none => e.evaluate env host >>= resume vs) := by
  cases frame with
  | group place =>
    refine ⟨fun _ v => return v, fun e => ?_⟩
    simp only [fill, siblings, decided?, evaluate, evaluateAll, pure_bind, bind_pure]
  | unary op place =>
    refine ⟨fun _ v => Evaluation.ofOperator place (op.apply v), fun e => ?_⟩
    simp only [fill, siblings, decided?, evaluate, evaluateAll, pure_bind]
  | binaryLeft op right place =>
    refine ⟨fun _ v => do
      let w ← right.evaluate env host
      Evaluation.ofOperator place (op.apply v w), fun e => ?_⟩
    simp only [fill, siblings, decided?, evaluate, evaluateAll, pure_bind]
  | binaryRight op left place =>
    refine ⟨fun vs w => Evaluation.ofOperator place (op.apply (vs.headD .nil) w), fun e => ?_⟩
    simp only [fill, siblings, decided?, evaluate, evaluateAll, pure_bind, bind_assoc,
      List.headD_cons]
  | logicalLeft op right place =>
    refine ⟨fun _ v => if op.decides v then return v else right.evaluate env host, fun e => ?_⟩
    simp only [fill, siblings, decided?, evaluate, evaluateAll, pure_bind]
  | logicalRight op left place =>
    refine ⟨fun _ w => return w, fun e => ?_⟩
    simp only [fill, siblings, decided?, evaluate, evaluateAll, pure_bind, bind_assoc, bind_pure]
    refine bind_congr fun v => ?_
    by_cases hv : op.decides v = true <;> simp [Option.filter_some, hv]
  | callee args closing place =>
    refine ⟨fun _ v => evaluateAll env host args >>= conclude host closing place v, fun e => ?_⟩
    simp only [fill, siblings, decided?, call_concludes, evaluateAll, pure_bind]
  | argument f before after closing place =>
    refine ⟨fun vs w => do
      let ws ← evaluateAll env host after
      conclude host closing place (vs.headD .nil) (vs.tail ++ w :: ws), fun e => ?_⟩
    simp only [fill, siblings, decided?, call_concludes, evaluateAll, evaluateAll_append,
      pure_bind, bind_assoc, List.headD_cons, List.tail_cons]

/-- Expressions that are evaluated alike can stand for each other in every tree. -/
theorem Context.evaluate_fill_congr (ctx : Context) {m n : Expr}
    (h : m.evaluate env host = n.evaluate env host) :
    (ctx.fill m).evaluate env host = (ctx.fill n).evaluate env host := by
  induction ctx with
  | nil => exact h
  | cons frame ctx ih =>
    obtain ⟨resume, hfill⟩ := frame.exists_resume env host
    show (frame.fill (Context.fill ctx m)).evaluate env host =
      (frame.fill (Context.fill ctx n)).evaluate env host
    rw [hfill, hfill, ih]

/-- An evaluation that starts with a tree in one run comes to the hole in another: at each node
on the way, the children to the left have values and leave the rest open. -/
inductive Comes (env : Environment) (host : Host σ) : Context → Run σ → Run σ → Prop
  | here (s : Run σ) : Comes env host [] s s
  | into {frame : Frame} {ctx : Context} {s s' s'' : Run σ} {vs : List Value}
      (hsiblings : evaluateAll env host frame.siblings s = .ok vs s')
      (hopen : frame.decided? vs = none) (h : Comes env host ctx s' s'') :
      Comes env host (frame :: ctx) s s''

/-- A node that is evaluated from a run discards what stands in the hole: the left operand in
front of it decides, or an operand, a callee or an argument to the left of it fails. -/
inductive Discards (env : Environment) (host : Host σ) : Frame → Run σ → Prop
  | decided {op : LogicalOp} {left : Expr} {place : Place} {s s' : Run σ} {v : Value}
      (hleft : left.evaluate env host s = .ok v s') (hv : op.decides v = true) :
      Discards env host (.logicalRight op left place) s
  | failed {frame : Frame} {before after : List Expr} {e : Expr} {s s' s₁ : Run σ}
      {vs : List Value} {failure : Failure} (hsiblings : frame.siblings = before ++ e :: after)
      (hbefore : evaluateAll env host before s = .ok vs s')
      (he : e.evaluate env host s' = .error failure s₁) : Discards env host frame s

/-- On the way down to the hole, a node that is come to discards it. -/
def Unreached (env : Environment) (host : Host σ) (ctx : Context) (s : Run σ) : Prop :=
  ∃ outer frame inner s', ctx = outer ++ frame :: inner ∧ Comes env host outer s s' ∧
    Discards env host frame s'

/-- The value of one expression among no others. -/
theorem evaluateAll_singleton {e : Expr} {s s' : Run σ} {vs : List Value} :
    evaluateAll env host [e] s = .ok vs s' ↔ ∃ v, vs = [v] ∧ e.evaluate env host s = .ok v s' := by
  constructor
  · intro h
    rw [evaluateAll] at h
    obtain ⟨v, s₁, hv, h⟩ := Evaluation.bind_eq_ok h
    cases h
    exact ⟨v, rfl, hv⟩
  · rintro ⟨v, rfl, hv⟩
    rw [evaluateAll, Evaluation.bind_of_ok hv]
    rfl

/-- A node evaluates what stands in the hole once the children to the left leave it open. -/
theorem evaluate_fill_of_open {frame : Frame} {e e' : Expr} {s s' : Run σ} {vs : List Value}
    (hsiblings : evaluateAll env host frame.siblings s = .ok vs s')
    (hopen : frame.decided? vs = none)
    (h : e.evaluate env host s' = e'.evaluate env host s') :
    (frame.fill e).evaluate env host s = (frame.fill e').evaluate env host s := by
  obtain ⟨resume, hfill⟩ := frame.exists_resume env host
  rw [hfill, hfill, Evaluation.bind_of_ok hsiblings, Evaluation.bind_of_ok hsiblings, hopen]
  show EStateM.bind _ _ s' = EStateM.bind _ _ s'
  unfold EStateM.bind
  rw [h]

/-- A node that discards what stands in the hole does not look at it. -/
theorem Discards.evaluate_fill {frame : Frame} {s : Run σ} (h : Discards env host frame s)
    (e e' : Expr) : (frame.fill e).evaluate env host s = (frame.fill e').evaluate env host s := by
  obtain ⟨resume, hfill⟩ := frame.exists_resume env host
  rw [hfill, hfill]
  cases h with
  | @decided op left place s s' v hleft hv =>
    have hsiblings : evaluateAll env host [left] s = .ok [v] s' :=
      evaluateAll_singleton.2 ⟨v, rfl, hleft⟩
    have hdecided : (Frame.logicalRight op left place).decided? [v] = some v := by
      rw [Frame.decided?_logicalRight, if_pos hv]
    show (evaluateAll env host [left] >>= _) s = (evaluateAll env host [left] >>= _) s
    rw [Evaluation.bind_of_ok hsiblings, Evaluation.bind_of_ok hsiblings, hdecided]
  | @failed _ before after c s s' s₁ vs failure hsiblings hbefore hc =>
    have hfails : evaluateAll env host frame.siblings s = .error failure s₁ := by
      rw [hsiblings, evaluateAll_append, Evaluation.bind_of_ok hbefore, evaluateAll,
        Evaluation.bind_of_error (Evaluation.bind_of_error hc)]
    rw [Evaluation.bind_of_error hfails, Evaluation.bind_of_error hfails]

/-- What makes no difference in the hole makes none in the tree. -/
theorem Comes.evaluate_fill {ctx : Context} {s s' : Run σ} (h : Comes env host ctx s s')
    {e e' : Expr} (he : e.evaluate env host s' = e'.evaluate env host s') :
    (ctx.fill e).evaluate env host s = (ctx.fill e').evaluate env host s := by
  induction h with
  | here s => exact he
  | into hsiblings hopen _ ih => exact evaluate_fill_of_open hsiblings hopen (ih he)

-- ---------------------------------------------------------------------------
-- Coming to the hole, or not
-- ---------------------------------------------------------------------------

/-- The children to the left of a hole leave it open, or the node discards it. -/
theorem open_or_discards (env : Environment) (host : Host σ) (frame : Frame) (s : Run σ) :
    (∃ vs s', evaluateAll env host frame.siblings s = .ok vs s' ∧ frame.decided? vs = none) ∨
      Discards env host frame s := by
  cases hsiblings : evaluateAll env host frame.siblings s with
  | error failure s₁ =>
    obtain ⟨before, e, after, vs, s', heq, hbefore, he⟩ := evaluateAll_eq_error hsiblings
    exact .inr (.failed heq hbefore he)
  | ok vs s' =>
    cases hdecided : frame.decided? vs with
    | none => exact .inl ⟨vs, s', rfl, hdecided⟩
    | some v =>
      -- only a left operand decides
      cases frame with
      | logicalRight op left place =>
        obtain ⟨w, rfl, hleft⟩ := evaluateAll_singleton.1 hsiblings
        rw [Frame.decided?_logicalRight] at hdecided
        split at hdecided
        · next hw => exact .inr (.decided hleft hw)
        · cases hdecided
      | group | unary | binaryLeft | binaryRight | logicalLeft | callee | argument =>
        cases hdecided

/-- A node that is come to begins the evaluation of what stands in the hole. -/
theorem begins_fill {frame : Frame} {s s' : Run σ} {vs : List Value}
    (hsiblings : evaluateAll env host frame.siblings s = .ok vs s')
    (hopen : frame.decided? vs = none) (e : Expr) : Begins env host (frame.fill e) s e s' := by
  cases frame with
  | group | unary | binaryLeft | logicalLeft | callee =>
    -- nothing stands to the left
    cases hsiblings
    constructor
  | binaryRight op left place =>
    obtain ⟨v, -, hleft⟩ := evaluateAll_singleton.1 hsiblings
    exact .right hleft
  | logicalRight op left place =>
    obtain ⟨v, rfl, hleft⟩ := evaluateAll_singleton.1 hsiblings
    rw [Frame.decided?_logicalRight] at hopen
    split at hopen
    · cases hopen
    · next hv => exact .undecided hleft (Bool.not_eq_true _ ▸ hv)
  | argument f before after closing place =>
    have hall : evaluateAll env host (f :: before) s = .ok vs s' := hsiblings
    rw [evaluateAll] at hall
    obtain ⟨v, s₁, hf, hall⟩ := Evaluation.bind_eq_ok hall
    obtain ⟨ws, s₂, hbefore, hall⟩ := Evaluation.bind_eq_ok hall
    cases hall
    exact .argument hf hbefore

/-- An evaluation that comes to the hole reaches what stands there. -/
theorem Comes.reaches {ctx : Context} {s s' : Run σ} (h : Comes env host ctx s s') (e : Expr) :
    Reaches env host (ctx.fill e) s e s' := by
  induction h with
  | here s => exact .self e s
  | into hsiblings hopen _ ih => exact .child (begins_fill hsiblings hopen _) ih

/-- An evaluation comes to the hole, or a node on the way discards it. -/
theorem comes_or_unreached (env : Environment) (host : Host σ) (ctx : Context) (s : Run σ) :
    (∃ s', Comes env host ctx s s') ∨ Unreached env host ctx s := by
  induction ctx generalizing s with
  | nil => exact .inl ⟨s, .here s⟩
  | cons frame ctx ih =>
    rcases open_or_discards env host frame s with ⟨vs, s', hsiblings, hopen⟩ | hdiscards
    · rcases ih s' with ⟨s'', h⟩ | ⟨outer, inside, inner, s'', rfl, houter, hdiscards⟩
      · exact .inl ⟨s'', .into hsiblings hopen h⟩
      · exact .inr ⟨frame :: outer, inside, inner, s'', rfl, .into hsiblings hopen houter,
          hdiscards⟩
    · exact .inr ⟨[], frame, ctx, s, rfl, .here s, hdiscards⟩

/-- **What is not reached cannot matter.** An expression stands somewhere in a tree, which is
evaluated in any environment and from any state of any host. If it lies in the right operand of
an `and` or `or` whose left value decides, or to the right of an operand, a callee or an argument
that fails, then with any other expression in its place the tree has the same value or the same
failure, and the same run is left: the same state of the host after the same calls. In all other
cases the evaluation reaches it. -/
theorem unreached_cannot_matter (env : Environment) (host : Host σ) (ctx : Context)
    (s : Run σ) :
    (Unreached env host ctx s → ∀ e e' : Expr,
      (ctx.fill e).evaluate env host s = (ctx.fill e').evaluate env host s) ∧
    (¬ Unreached env host ctx s → ∃ s', ∀ e : Expr, Reaches env host (ctx.fill e) s e s') := by
  constructor
  · rintro ⟨outer, frame, inner, s', rfl, houter, hdiscards⟩ e e'
    rw [Context.fill_append, Context.fill_append]
    exact houter.evaluate_fill (hdiscards.evaluate_fill (Context.fill inner e) _)
  · intro hreached
    rcases comes_or_unreached env host ctx s with ⟨s', h⟩ | h
    · exact ⟨s', h.reaches⟩
    · exact absurd h hreached

end

/-- The second argument of a call is `false and` something: the function in there, which fails,
is not called, and could as well be anything else. -/
theorem unreached_cannot_matter_argument :
    let env := (Environment.empty.define "f" (.function ⟨"f", none, .hosted, 0⟩)).define "g"
      (.function ⟨"g", none, .hosted, 1⟩)
    let host : Host Nat :=
      ⟨fun f _ count => ⟨if f.identity = 1 then .error (.io "closed") else .ok .nil, count + 1, []⟩⟩
    let call (name : String) : Expr := .call (.var name default) [] default default
    let ctx : Context := [.argument (.var "f" default) [call "f"] [call "f"] default default,
      .logicalRight .and (.literal (.bool false) default) default, .unary .not default]
    Unreached env host ctx ⟨0, #[]⟩ ∧
      (ctx.fill (call "g")).evaluate env host ⟨0, #[]⟩ =
        (ctx.fill (.literal .nil default)).evaluate env host ⟨0, #[]⟩ ∧
      ∃ s₁, (ctx.fill (call "g")).evaluate env host ⟨0, #[]⟩ = .ok .nil s₁ ∧ s₁.host = 3 := by
  intro env host call ctx
  have hunreached : Unreached env host ctx ⟨0, #[]⟩ :=
    ⟨[_], _, [_], _, rfl, .into rfl rfl (.here _), .decided rfl rfl⟩
  exact ⟨hunreached, (unreached_cannot_matter env host ctx ⟨0, #[]⟩).1 hunreached _ _, _, rfl, rfl⟩

end Expr

end Reckoner
