import Mathlib.Data.Finset.Card
import Reckoner.Prelude
import Reckoner.Proofs.Environment.Layers

/-!
# Reckoner — what a history of definitions makes of environments

Environments are made from nothing, from pairs or from other environments, and then changed,
in any order. This module says what each member of such a growing family means. Next to the
environments stand **stacks**: a stack forgets nothing, it keeps for every layer all the
definitions that were made in it, the latest last.

* `Semantics.Respects.perform`, `Semantics.Respects.after` — one operation, and then a
  whole history, does the same to things and to what they stand for;
* `Semantics.after_append_of_untouched` — what is done to others leaves a member as it is;
* `environments_refine_stacks` — after every history each environment answers as its stack
  says.
-/

namespace Reckoner

variable {α β : Type}

-- ---------------------------------------------------------------------------
-- Operations
-- ---------------------------------------------------------------------------

/-- What can be done to the innermost layer of an environment. -/
inductive Change where
  | define (name : String) (value : Value)
  /-- Bind a function of the host's, which takes any number of arguments. -/
  | defineFunction (name : String) (identity : Nat)
  | extend (pairs : List (String × Value))
  /-- Bind the functions of the library. -/
  | install (firstIdentity : Nat)

/-- The definitions that a change makes, in their order. -/
def Change.definitions : Change → List (String × Value)
  | .define name value => [(name, value)]
  | .defineFunction name identity => [(name, .function ⟨name, none, .hosted, identity⟩)]
  | .extend pairs => pairs
  | .install firstIdentity => Prelude.entries firstIdentity

/-- What can be done in a family: a new member is made, or member `i` is changed. -/
inductive Operation where
  | new
  /-- One layer of bindings. -/
  | collect (pairs : List (String × Value))
  /-- A new layer inside member `i`. -/
  | inside (i : Nat)
  | clone (i : Nat)
  | change (i : Nat) (change : Change)

/-- What the operations do to members of one kind. -/
structure Semantics (α : Type) where
  empty : α
  collect : List (String × Value) → α
  inside : α → α
  change : α → Change → α

namespace Semantics

/-- A family after an operation. New members go last; where there is no member `i`, nothing
happens. -/
def perform (m : Semantics α) (family : List α) : Operation → List α
  | .new => family ++ [m.empty]
  | .collect pairs => family ++ [m.collect pairs]
  | .inside i => family ++ (family[i]?.map m.inside).toList
  | .clone i => family ++ family[i]?.toList
  | .change i c => family.modify i (m.change · c)

/-- The family that a history makes. -/
def after (m : Semantics α) (ops : List Operation) : List α := ops.foldl m.perform []

-- ---------------------------------------------------------------------------
-- Members stand for others
-- ---------------------------------------------------------------------------

/-- What the members of one kind stand for is respected by the operations. -/
structure Respects (m : Semantics α) (m' : Semantics β) (f : α → β) : Prop where
  empty : f m.empty = m'.empty
  collect : ∀ pairs, f (m.collect pairs) = m'.collect pairs
  inside : ∀ a, f (m.inside a) = m'.inside (f a)
  change : ∀ a c, f (m.change a c) = m'.change (f a) c

section Respects

variable {m : Semantics α} {m' : Semantics β} {f : α → β}

/-- One operation. -/
theorem Respects.perform (h : m.Respects m' f) (family : List α) (op : Operation) :
    (m.perform family op).map f = m'.perform (family.map f) op := by
  cases op with
  | new => simp [Semantics.perform, h.empty]
  | collect pairs => simp [Semantics.perform, h.collect]
  | inside i => cases hi : family[i]? <;> simp [Semantics.perform, hi, h.inside]
  | clone i => cases hi : family[i]? <;> simp [Semantics.perform, hi]
  | change i c =>
    refine List.ext_getElem? fun j => ?_
    by_cases hj : i = j <;> cases hm : family[j]? <;>
      simp [Semantics.perform, hj, hm, h.change]

/-- A whole history. -/
theorem Respects.after (h : m.Respects m' f) (ops : List Operation) :
    (m.after ops).map f = m'.after ops := by
  have hrun (family : List α) :
      (ops.foldl m.perform family).map f = ops.foldl m'.perform (family.map f) := by
    induction ops generalizing family with
    | nil => rfl
    | cons op ops ih => rw [List.foldl_cons, ih, h.perform, List.foldl_cons]
  exact hrun []

end Respects

-- ---------------------------------------------------------------------------
-- Members left alone
-- ---------------------------------------------------------------------------

section Untouched

variable {m : Semantics α} {family : List α} {i : Nat} {a : α}

/-- An operation changes no member but the one it names. -/
theorem perform_of_untouched {op : Operation} (hop : ∀ c, op ≠ .change i c)
    (h : family[i]? = some a) : (m.perform family op)[i]? = some a := by
  obtain ⟨hi, -⟩ := List.getElem?_eq_some_iff.1 h
  cases op with
  | new | collect | inside | clone =>
    unfold perform
    rw [List.getElem?_append_left hi, h]
  | change j c =>
    have hne : j ≠ i := by
      rintro rfl
      exact hop c rfl
    exact (List.getElem?_modify_ne (m.change · c) family hne).trans h

/-- A member stays as it is, whatever is made from it and whatever is done to others. -/
theorem after_append_of_untouched {ops more : List Operation}
    (hmore : ∀ op ∈ more, ∀ c, op ≠ .change i c) (h : (m.after ops)[i]? = some a) :
    (m.after (ops ++ more))[i]? = some a := by
  unfold after at h ⊢
  rw [List.foldl_append]
  generalize ops.foldl m.perform [] = family at h
  induction more generalizing family with
  | nil => exact h
  | cons op more ih =>
    obtain ⟨hop, hmore⟩ := List.forall_mem_cons.1 hmore
    exact ih hmore _ (perform_of_untouched hop h)

end Untouched

end Semantics

-- ---------------------------------------------------------------------------
-- Environments
-- ---------------------------------------------------------------------------

/-- What a change makes of an environment. -/
def Environment.change (env : Environment) : Change → Environment
  | .define name value => env.define name value
  | .defineFunction name identity => env.define name (.function ⟨name, none, .hosted, identity⟩)
  | .extend pairs => env.extend pairs
  | .install firstIdentity => env.install firstIdentity

/-- A change binds the pairs that it defines. -/
theorem Environment.change_eq_extend (env : Environment) (c : Change) :
    env.change c = env.extend c.definitions := by
  cases c <;> rfl

/-- What the operations do to environments. -/
def Environment.semantics : Semantics Environment where
  empty := .empty
  collect := .ofList
  inside := .inside
  change := .change

-- ---------------------------------------------------------------------------
-- Stacks
-- ---------------------------------------------------------------------------

/-- All definitions that were made, layer by layer, the latest of a layer last. -/
structure Stack where
  /-- Those of the innermost layer. -/
  own : List (String × Value)
  /-- Those of the layers around it, from the inside out. -/
  outer : List (List (String × Value))

namespace Stack

/-- The definitions of all layers, from the inside out. -/
def layers (stack : Stack) : List (List (String × Value)) := stack.own :: stack.outer

/-- What the latest definition of a name says in the first layer that has one. -/
def latest? (stack : Stack) (name : String) : Option Value :=
  stack.layers.findSome? (Reckoner.latest? · name)

/-- The environment that the definitions make. -/
def environment (stack : Stack) : Environment where
  own := Bindings.empty.extend stack.own
  outer := stack.outer.map Bindings.empty.extend

/-- What the operations do to stacks: a change adds its definitions to those of the innermost
layer. -/
def semantics : Semantics Stack where
  empty := ⟨[], []⟩
  collect := (⟨·, []⟩)
  inside stack := ⟨[], stack.layers⟩
  change stack c := { stack with own := stack.own ++ c.definitions }

/-- The operations do to the environments what they do to the stacks. -/
theorem semantics_respects : semantics.Respects Environment.semantics environment where
  empty := rfl
  collect _ := rfl
  inside _ := rfl
  change stack c := by
    have hextend : Bindings.empty.extend (stack.own ++ c.definitions) =
        (Bindings.empty.extend stack.own).extend c.definitions := List.foldl_append
    have hchange : Environment.semantics.change stack.environment c =
        stack.environment.extend c.definitions := stack.environment.change_eq_extend c
    rw [hchange]
    exact congrArg (Environment.mk · _) hextend

end Stack

-- ---------------------------------------------------------------------------
-- Answers
-- ---------------------------------------------------------------------------

namespace Stack

variable (stack : Stack) (name : String)

/-- A name means what its latest definition says in the first layer that has one. -/
theorem find?_environment : stack.environment.find? name = stack.latest? name := by
  have hlayers : stack.environment.layers = stack.layers.map Bindings.empty.extend := rfl
  unfold Environment.find? latest?
  rw [hlayers, List.findSome?_map]
  refine congrArg (List.findSome? · stack.layers) (funext fun pairs => ?_)
  exact (Bindings.find?_extend .empty pairs name).trans Option.or_none

/-- The innermost layer counts every name once, however often it was defined. -/
theorem size_environment :
    stack.environment.size = (stack.own.map Prod.fst).toFinset.card := by
  have hnames : (Bindings.empty.extend stack.own).names.toFinset =
      (stack.own.map Prod.fst).toFinset := by
    ext name
    rw [List.mem_toFinset, List.mem_toFinset, Bindings.mem_names_extend]
    exact or_iff_right List.not_mem_nil
  have hnodup : (Bindings.empty.extend stack.own).names.Nodup := Bindings.nodup _
  have hcard := List.toFinset_card_of_nodup hnodup
  rw [hnames, Bindings.names, List.length_map] at hcard
  exact hcard.symm

end Stack

/-- **Environments are stacks of maps.** After every history of operations, the environments
are those that the stacks of the same history describe. A name means in an environment what
its latest definition says in the innermost layer that defines it, and nothing is found if no
layer does; what is not found means nil. The size is the number of different names defined
in the innermost layer, and an environment is empty when that is zero. However the history
goes on, as long as an environment is not changed itself it stays the same, whatever is made
from it, and whatever happens to the environments that it was made from or that were made
from it. To bind several pairs is to define them in their order, and to collect pairs is to
bind them where nothing is bound. -/
theorem environments_refine_stacks (ops : List Operation) :
    (Environment.semantics.after ops).length = (Stack.semantics.after ops).length ∧
    (∀ i env, (Environment.semantics.after ops)[i]? = some env →
      ∃ stack, (Stack.semantics.after ops)[i]? = some stack ∧
        (∀ name, env.find? name = stack.latest? name ∧
          env.get name = (stack.latest? name).getD .nil ∧
          (env.contains name = true ↔ ∃ value, env.find? name = some value)) ∧
        env.size = (stack.own.map Prod.fst).toFinset.card ∧
        (env.isEmpty = true ↔ env.size = 0) ∧
        ∀ more : List Operation, (∀ op ∈ more, ∀ c, op ≠ .change i c) →
          (Environment.semantics.after (ops ++ more))[i]? = some env) ∧
    ∀ (env : Environment) (pairs : List (String × Value)),
      env.extend pairs = pairs.foldl (fun env pair => env.define pair.1 pair.2) env ∧
      Environment.ofList pairs = Environment.empty.extend pairs := by
  have hafter := Stack.semantics_respects.after ops
  refine ⟨?_, fun i env hi => ?_, fun env pairs => ⟨env.extend_eq_foldl pairs, rfl⟩⟩
  · rw [← hafter, List.length_map]
  · obtain ⟨stack, hstack, henv⟩ : ∃ stack, (Stack.semantics.after ops)[i]? = some stack ∧
        stack.environment = env := by
      rwa [← hafter, List.getElem?_map, Option.map_eq_some_iff] at hi
    have hfind (name : String) : env.find? name = stack.latest? name :=
      henv ▸ stack.find?_environment name
    refine ⟨stack, hstack, fun name => ⟨hfind name, ?_, Option.isSome_iff_exists⟩,
      henv ▸ stack.size_environment, List.isEmpty_iff_length_eq_zero,
      fun more hmore => Semantics.after_append_of_untouched hmore hi⟩
    unfold Environment.get
    rw [hfind]

/-- Two layers and a copy of the outer one: a name bound again after that means something
else in the outer layer alone. -/
theorem environments_refine_stacks_shared :
    let ops : List Operation := [.new, .change 0 (.define "x" (.bool true)), .inside 0, .clone 0]
    let more : List Operation := [.change 0 (.extend [("x", .nil), ("x", .bool false)])]
    (Environment.semantics.after (ops ++ more)).map (·.get "x") =
      [.bool false, .bool true, .bool true] ∧
    ∃ outer inner, (Environment.semantics.after ops)[0]? = some outer ∧
      (Environment.semantics.after ops)[1]? = some inner ∧ inner.get "x" = outer.get "x" ∧
      (Environment.semantics.after (ops ++ more))[1]? = some inner := by
  intro ops more
  obtain ⟨-, hanswers, -⟩ := environments_refine_stacks ops
  obtain ⟨_, _, _, _, _, huntouched⟩ := hanswers 1 _ rfl
  refine ⟨by decide, _, _, rfl, rfl, rfl, huntouched more ?_⟩
  rintro op hop c rfl
  simp [more] at hop

end Reckoner
