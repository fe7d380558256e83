import Reckoner.Proofs.Environment.Prelude

/-!
# Reckoner — what calls of the functions of the prelude come to

A function that takes one argument reads it at the first position, without looking whether
anything stands there. Nothing does when there are no arguments (`Builtin.read?_eq_none_iff`),
and it is the arity under which the prelude binds the function that keeps such calls away from it.

Main results:

* `Builtin.read?_of_arity` — with a number of arguments that it takes, a function reads only
  where an argument stands, and has the value that the library computes;
* `Builtin.answers_compute` — it has a value of one kind, or fails under its own name;
* `Function.call_of_arity_ne` — with another number of arguments it is not asked at all;
* `call_installed` — all of this for the functions that an installation binds.
-/

namespace Reckoner

variable {σ : Type} {f : Builtin} {args : List Value}

-- ---------------------------------------------------------------------------
-- Answers
-- ---------------------------------------------------------------------------

/-- Whatever is wrong with the arguments, the function is named first. -/
theorem ArgumentFault.exists_message (fault : ArgumentFault) (name : String) :
    ∃ rest, fault.message name = s!"function `{name}`" ++ rest := by
  unfold message
  cases fault with
  | count expected received =>
    refine ⟨s!" expected {expected} arguments but received {received}", ?_⟩
    simp only [toString, String.append_assoc]
    rfl
  | none =>
    refine ⟨" expects at least one argument", ?_⟩
    simp only [toString, String.append_assoc]
    rfl
  | kind expected found =>
    refine ⟨s!" expects {expected}, found {found.typeName}", ?_⟩
    simp only [toString, String.append_assoc]
    rfl
  | unreadable text =>
    refine ⟨s!" cannot parse `{text}` as a number", ?_⟩
    simp only [toString, String.append_assoc]
    rfl

namespace Builtin

/-- What a call of a function may come to: a string for these four functions, a number for the
others, or a failure that names the function first and no place. -/
inductive Answers (f : Builtin) : Except Failure Value → Prop
  | number {x : Float} (h : f ∉ [upper, lower, trim, str]) : Answers f (.ok (.number x))
  | string {s : String} (h : f ∈ [upper, lower, trim, str]) : Answers f (.ok (.string s))
  | refusal (rest : String) :
    Answers f (.error (.diagnostic
      { stage := .runtime, message := s!"function `{f.name}`" ++ rest
        line := none, span := none, notes := [] }))

theorem answers_failure (f : Builtin) (fault : ArgumentFault) :
    f.Answers (.error (fault.failure f.name)) := by
  obtain ⟨rest, h⟩ := fault.exists_message f.name
  unfold ArgumentFault.failure
  rw [h]
  exact .refusal rest

/-- A function that puts what it reads from its arguments into a value. -/
theorem answers_bind {α : Type} {value : α → Value} (h : ∀ a, f.Answers (.ok (value a)))
    (reading : Except ArgumentFault α) :
    f.Answers ((reading >>= fun a => pure (value a)).mapError (·.failure f.name)) := by
  cases reading with
  | ok a => exact h a
  | error fault => exact f.answers_failure fault

theorem answers_applyOne (f : Builtin) (v : Value) :
    f.Answers ((f.applyOne v).mapError (·.failure f.name)) := by
  cases f with
  | abs | floor | ceil | sqrt | min | max | len =>
    refine answers_bind (fun _ => .number ?_) _
    decide
  | upper | lower | trim =>
    refine answers_bind (fun _ => .string ?_) _
    decide
  | str =>
    refine .string ?_
    decide
  | num =>
    have hnumber (x : Float) : num.Answers (.ok (.number x)) := .number (by decide)
    cases v with
    | number x => exact hnumber x
    | string s =>
      rw [applyOne]
      cases Number.ofText? (Text.trim s) with
      | some x => exact hnumber x
      | none => exact num.answers_failure (.unreadable s)
    | nil | bool | function | foreign => exact num.answers_failure (.kind "String or Number" _)

-- ---------------------------------------------------------------------------
-- Arguments by their positions
-- ---------------------------------------------------------------------------

/-- What a function makes of arguments that it reads by their positions: nothing, when it reads
where no argument stands. The least and the greatest are picked from all there are. -/
def read? : Builtin → List Value → Option (Except ArgumentFault Value)
  | min, args => some (compute min args)
  | max, args => some (compute max args)
  | f, args => args[0]?.map f.applyOne

/-- A function that takes one argument reads where none stands if there are none. -/
theorem read?_eq_none_iff (f : Builtin) (args : List Value) :
    f.read? args = none ↔ f.arity = some 1 ∧ args = [] := by
  cases f with
  | min | max => exact iff_of_false nofun nofun
  | _ =>
    cases args with
    | nil => exact iff_of_true rfl ⟨rfl, rfl⟩
    | cons v rest => exact iff_of_false nofun nofun

/-- With a number of arguments that it takes, a function has the value that is computed. -/
theorem read?_of_arity (h : ∀ n, f.arity = some n → args.length = n) :
    f.read? args = some (f.compute args) := by
  cases f with
  | min | max => rfl
  | _ =>
    obtain ⟨v, rfl⟩ := List.length_eq_one_iff.1 (h 1 rfl)
    rfl

theorem answers_compute (h : ∀ n, f.arity = some n → args.length = n) :
    f.Answers ((f.compute args).mapError (·.failure f.name)) := by
  cases f with
  | min | max =>
    refine answers_bind (fun _ => .number ?_) _
    decide
  | _ =>
    obtain ⟨v, rfl⟩ := List.length_eq_one_iff.1 (h 1 rfl)
    exact answers_applyOne _ v

end Builtin

-- ---------------------------------------------------------------------------
-- Calls
-- ---------------------------------------------------------------------------

/-- With a number of arguments that it does not take, a function is not asked, whoever computes
it. -/
theorem Function.call_of_arity_ne {g : Function} {n : Nat} (harity : g.arity = some n)
    (h : args.length ≠ n) (host : Host σ) (run : Run σ) :
    g.call host args run =
      .error ((ArgumentFault.count n args.length).failure g.name) run := by
  have hcheck : g.checkArity args =
      .error ((ArgumentFault.count n args.length).failure g.name) := by
    unfold Function.checkArity
    rw [harity]
    exact if_neg h
  unfold Function.call
  rw [hcheck]
  rfl

/-- **Calls of the functions of the prelude are safe.** Whatever an environment binds, after an
installation each of the names means a function of the library of that name. A call of it with any
arguments leaves the run as it was, and comes to a string for `upper`, `lower`, `trim` and `str`, to
a number for the others, or to a runtime diagnostic that names the function first and has no line,
span or notes. With a number of arguments that the function takes, it reads only where arguments
stand, and the call comes to what it reads. With another number, the call fails and says how many
arguments it received, whoever computes the function. -/
theorem call_installed (env : Environment) (k : Nat) {name : String}
    (hname : name ∈ (Prelude.entries k).map Prod.fst) :
    ∃ (f : Builtin) (g : Function), f.name = name ∧ (env.install k).get name = .function g ∧
      g.name = name ∧ g.arity = f.arity ∧ g.routine = .builtin f ∧
      ∀ {σ : Type} (host : Host σ) (args : List Value) (run : Run σ),
        (∃ outcome, g.call host args run = Evaluation.ofExcept outcome run ∧ f.Answers outcome) ∧
        ((∀ n, g.arity = some n → args.length = n) →
          ∃ reading, f.read? args = some reading ∧ g.call host args run =
            Evaluation.ofExcept (reading.mapError (·.failure name)) run) ∧
        ∀ n, g.arity = some n → args.length ≠ n → ∀ routine : Routine,
          ({ g with routine } : Function).call host args run = .error (.runtime
            s!"function `{name}` expected {n} arguments but received {args.length}") run := by
  rw [Prelude.map_fst_entries] at hname
  obtain ⟨f, -, rfl⟩ := List.mem_map.1 hname
  refine ⟨f, f.function _, rfl, env.get_install_name f k, rfl, rfl, rfl, fun host args run => ?_⟩
  refine ⟨?_, fun htakes => ⟨_, Builtin.read?_of_arity htakes, ?_⟩,
    fun n harity hne routine => Function.call_of_arity_ne
      (g := { f.function _ with routine }) harity hne host run⟩
  · by_cases htakes : ∀ n, f.arity = some n → args.length = n
    · exact ⟨_, congrFun (Builtin.call_function htakes _ host) run,
        Builtin.answers_compute htakes⟩
    · simp only [not_forall] at htakes
      obtain ⟨n, harity, hne⟩ := htakes
      exact ⟨.error _, Function.call_of_arity_ne harity hne host run, f.answers_failure _⟩
  · rw [Builtin.call_function htakes]
    rfl

/-- `num`, which meant something else before: there is nothing to read, and then a value of a kind
that it does not take. -/
theorem call_installed_num :
    let before := Environment.empty.define "num" .nil
    let g := Builtin.num.function 11
    "num" ∈ (Prelude.entries 0).map Prod.fst ∧ (before.install 0).get "num" = .function g ∧
      Builtin.num.read? [] = none ∧
      g.call Host.none [] ⟨(), #[]⟩ =
        .error (.runtime "function `num` expected 1 arguments but received 0") ⟨(), #[]⟩ ∧
      ∃ outcome, g.call Host.none [.nil] ⟨(), #[]⟩ = Evaluation.ofExcept outcome ⟨(), #[]⟩ ∧
        Builtin.num.Answers outcome := by
  intro before g
  have hname : "num" ∈ (Prelude.entries 0).map Prod.fst := by decide
  have hnum : (before.install 0).get "num" = .function g := rfl
  obtain ⟨f, g', -, hget, -, -, hroutine, hcalls⟩ := call_installed before 0 hname
  obtain rfl : g = g' := Value.function.inj (hnum.symm.trans hget)
  obtain rfl : Builtin.num = f := Routine.builtin.inj hroutine
  obtain ⟨-, -, hcount⟩ := hcalls Host.none [] ⟨(), #[]⟩
  obtain ⟨hkind, -, -⟩ := hcalls Host.none [.nil] ⟨(), #[]⟩
  exact ⟨hname, hnum, rfl, hcount 1 rfl (by decide) (.builtin .num), hkind⟩

end Reckoner
