import Reckoner.Prelude
import Reckoner.Evaluation
import Reckoner.Proofs.Environment.Names

/-!
# Reckoner — the functions of the prelude

The prelude binds each function of the library to its name, and nothing else. A call of such a
function comes to what the library computes, whatever the host, and leaves the run as it was.

Main results:

* `Environment.get_install_name`, `Environment.get_prelude_name`,
  `Environment.find?_prelude_of_not_mem` — what names mean where the prelude is installed;
* `Builtin.call_function`, `Function.call_prelude` — what a call of one of its functions comes to.
-/

namespace Reckoner

variable {σ : Type} {k : Nat} {f : Function}

/-- A function of the library as the prelude binds it. -/
def Builtin.function (b : Builtin) (identity : Nat) : Function :=
  ⟨b.name, b.arity, .builtin b, identity⟩

theorem Prelude.map_fst_entries (k : Nat) :
    (Prelude.entries k).map Prod.fst = Builtin.all.map Builtin.name := rfl

/-- Each function is bound to its name, and has the identity that its place in the list gives it. -/
theorem Prelude.lookup_entries (b : Builtin) (k : Nat) :
    (Prelude.entries k).lookup b.name =
      some (.function (b.function (k + Builtin.all.idxOf b))) := by
  cases b <;> rfl

/-- No name is bound twice. -/
theorem Prelude.nodup_fst_entries (k : Nat) : ((Prelude.entries k).map Prod.fst).Nodup := by
  rw [Prelude.map_fst_entries]
  decide

/-- What a name means in the prelude is what it is bound to there. -/
theorem Environment.find?_prelude (k : Nat) (name : String) :
    (Environment.prelude k).find? name = (Prelude.entries k).lookup name :=
  (Environment.find?_ofList _ name).trans (latest?_of_nodup (Prelude.nodup_fst_entries k) name)

/-- An installation binds each function of the library to its name, whatever was bound before. -/
theorem Environment.get_install_name (env : Environment) (b : Builtin) (k : Nat) :
    (env.install k).get b.name = .function (b.function (k + Builtin.all.idxOf b)) := by
  unfold Environment.get Environment.install
  rw [Environment.find?_extend, latest?_of_nodup (Prelude.nodup_fst_entries k),
    Prelude.lookup_entries]
  rfl

/-- The name of a function of the library means this function. -/
theorem Environment.get_prelude_name (b : Builtin) (k : Nat) :
    (Environment.prelude k).get b.name = .function (b.function (k + Builtin.all.idxOf b)) :=
  Environment.empty.get_install_name b k

/-- Any other name means nothing. -/
theorem Environment.find?_prelude_of_not_mem {name : String}
    (h : name ∉ Builtin.all.map Builtin.name) : (Environment.prelude k).find? name = none := by
  rw [Environment.find?_prelude, List.lookup_eq_none_iff]
  intro pair hpair
  rw [bne_iff_ne]
  rintro rfl
  exact h (Prelude.map_fst_entries k ▸ List.mem_map_of_mem hpair)

/-- A call of a function of the library comes to what the library computes, if the number of its
arguments is one that it takes. -/
theorem Builtin.call_function {b : Builtin} {args : List Value}
    (hargs : ∀ n, b.arity = some n → args.length = n) (identity : Nat) (host : Host σ) :
    (b.function identity).call host args = Evaluation.ofExcept (b.apply args) := by
  have harity : (b.function identity).checkArity args = .ok () := by
    unfold Function.checkArity Builtin.function
    cases h : b.arity with
    | none => rfl
    | some n => exact if_pos (hargs n h)
  rw [Function.call, harity]
  rfl

/-- The same, for the function that its name means in the prelude. -/
theorem Function.call_prelude {b : Builtin} (hf : (Environment.prelude k).get b.name = .function f)
    {args : List Value} (hargs : ∀ n, b.arity = some n → args.length = n) (host : Host σ) :
    f.call host args = Evaluation.ofExcept (b.apply args) := by
  rw [Environment.get_prelude_name] at hf
  cases hf
  exact b.call_function hargs _ host

end Reckoner
