import Mathlib.Data.List.Induction
import Reckoner.Proofs.Environment.History

/-!
# Reckoner — the names of an environment

The names that are visible in an environment are listed each once, where they were bound
first: those of the outermost layer come first, and within a layer those that are new in it
stand in the order of their first binding. With the definitions of all layers put in a row, the
outermost layer in front, these are the names of the definitions without repetitions.

Main results:

* `Environment.names_nodup`, `Environment.mem_names_iff` — every visible name is listed, once;
* `Stack.names_environment` — the names, in the order of their first definitions;
* `Stack.names_child` — a child lists the names of its parent, and then its own;
* `Environment.names_change_of_visible` — binding visible names again changes nothing;
* `names_in_order` — all of this for the environments that a history makes.
-/

namespace Reckoner

-- ---------------------------------------------------------------------------
-- Lists without repetitions
-- ---------------------------------------------------------------------------

section

variable {α : Type} [DecidableEq α]

/-- A last element counts if it is new. -/
theorem eraseDups_concat (xs : List α) (a : α) :
    (xs ++ [a]).eraseDups = if a ∈ xs then xs.eraseDups else xs.eraseDups ++ [a] := by
  rw [List.eraseDups_append]
  by_cases h : a ∈ xs <;> simp [List.removeAll, h, List.eraseDups_cons]

/-- Behind other elements only the new ones count. -/
theorem eraseDups_append_eq_filter (xs ys : List α) :
    (xs ++ ys).eraseDups = xs.eraseDups ++ ys.eraseDups.filter (· ∉ xs) := by
  induction ys using List.reverseRecOn with
  | nil => simp
  | append_singleton ys a ih =>
    rw [← List.append_assoc, eraseDups_concat, eraseDups_concat, ih]
    by_cases hys : a ∈ ys
    · simp [hys]
    · by_cases hxs : a ∈ xs <;> simp [hys, hxs]

end

-- ---------------------------------------------------------------------------
-- One layer
-- ---------------------------------------------------------------------------

namespace Bindings

/-- A layer lists the names of the definitions made in it, in the order of the first ones. -/
theorem names_extend_empty (pairs : List (String × Value)) :
    (Bindings.empty.extend pairs).names = (pairs.map Prod.fst).eraseDups := by
  induction pairs using List.reverseRecOn with
  | nil => rfl
  | append_singleton pairs pair ih =>
    have hlast : Bindings.empty.extend (pairs ++ [pair]) =
        (Bindings.empty.extend pairs).insert pair.1 pair.2 := List.foldl_concat ..
    rw [hlast, names_insert, ih, List.map_append, List.map_cons, List.map_nil, eraseDups_concat]
    simp only [List.mem_eraseDups]

/-- The names that a layer lists are those that mean something in it. -/
theorem mem_names_iff (b : Bindings) (name : String) :
    name ∈ b.names ↔ (b.find? name).isSome = true := by
  rw [← Bool.not_eq_false, Option.isSome_eq_false_iff, Option.isNone_iff_eq_none]
  unfold names find?
  rw [List.lookup_eq_none_iff]
  simp

end Bindings

-- ---------------------------------------------------------------------------
-- Several layers
-- ---------------------------------------------------------------------------

namespace Environment

theorem visibleNames_nodup (layers : List Bindings) : (visibleNames layers).Nodup := by
  induction layers with
  | nil => exact .nil
  | cons layer outer ih =>
    have hown : layer.names.Nodup := layer.nodup
    rw [visibleNames, List.nodup_append]
    refine ⟨ih, hown.filter _, ?_⟩
    rintro name hbefore _ hnew rfl
    have hfresh := (List.mem_filter.1 hnew).2
    simp [hbefore] at hfresh

theorem mem_visibleNames (layers : List Bindings) (name : String) :
    name ∈ visibleNames layers ↔ (layers.findSome? (·.find? name)).isSome = true := by
  induction layers with
  | nil => simp [visibleNames]
  | cons layer outer ih =>
    have hown := layer.mem_names_iff name
    rw [visibleNames, List.mem_append, List.mem_filter, hown, List.findSome?_cons]
    cases layer.find? name with
    | none => simp [ih]
    | some value => simp [Decidable.em]

/-- No name is listed twice. -/
theorem names_nodup (env : Environment) : env.names.Nodup := visibleNames_nodup env.layers

/-- The names that are listed are those that are bound. -/
theorem mem_names_iff (env : Environment) (name : String) :
    name ∈ env.names ↔ env.contains name = true :=
  mem_visibleNames env.layers name

/-- A visible name that is bound again stays where it stands. -/
theorem names_define_of_visible {env : Environment} {name : String} (value : Value)
    (h : env.contains name = true) : (env.define name value).names = env.names := by
  have hnames : (env.define name value).names = visibleNames env.outer ++
      (env.own.insert name value).names.filter (· ∉ visibleNames env.outer) := rfl
  rw [hnames, Bindings.names_insert]
  by_cases hown : name ∈ env.own.names
  · rw [if_pos hown]
    rfl
  · -- then it is bound further outside
    have hsplit : name ∈ visibleNames env.outer ++
        env.own.names.filter (· ∉ visibleNames env.outer) := (env.mem_names_iff name).2 h
    have houter : name ∈ visibleNames env.outer :=
      (List.mem_append.1 hsplit).resolve_right fun hnew => hown (List.mem_filter.1 hnew).1
    rw [if_neg hown, List.filter_append, List.filter_cons_of_neg (by simp [houter]),
      List.filter_nil, List.append_nil]
    rfl

/-- A change that binds visible names alone leaves the names as they are. -/
theorem names_change_of_visible {env : Environment} {c : Change}
    (h : ∀ pair ∈ c.definitions, env.contains pair.1 = true) :
    (env.change c).names = env.names := by
  rw [change_eq_extend, extend_eq_foldl]
  generalize c.definitions = pairs at h
  induction pairs generalizing env with
  | nil => rfl
  | cons pair rest ih =>
    obtain ⟨hpair, hrest⟩ := List.forall_mem_cons.1 h
    have hstep := names_define_of_visible pair.2 hpair
    rw [List.foldl_cons, ih fun other hother => ?_, hstep]
    rw [← mem_names_iff, hstep, mem_names_iff]
    exact hrest other hother

end Environment

/-- **The order of names.** The names of the environment that a stack describes are those of all
its definitions, the outermost layer first, without repetitions. -/
theorem Stack.names_environment (stack : Stack) :
    stack.environment.names = (stack.layers.reverse.flatten.map Prod.fst).eraseDups := by
  have hlayers (layers : List (List (String × Value))) :
      Environment.visibleNames (layers.map Bindings.empty.extend) =
        (layers.reverse.flatten.map Prod.fst).eraseDups := by
    induction layers with
    | nil => rfl
    | cons pairs outer ih =>
      rw [List.map_cons, Environment.visibleNames, ih, Bindings.names_extend_empty,
        List.reverse_cons, List.flatten_append, List.map_append, eraseDups_append_eq_filter]
      simp only [List.flatten_singleton, List.mem_eraseDups]
  exact hlayers stack.layers

/-- **A child lists the names of its parent first**, as the parent does, and then those that are
new in it, in the order of their first definitions. -/
theorem Stack.names_child {stack : Stack} {parent : Environment}
    (h : stack.environment.outer = parent.layers) :
    stack.environment.names = parent.names ++
      (stack.own.map Prod.fst).eraseDups.filter (· ∉ parent.names) := by
  have hnames : stack.environment.names = Environment.visibleNames stack.environment.outer ++
      stack.environment.own.names.filter
        (· ∉ Environment.visibleNames stack.environment.outer) := rfl
  rw [hnames, h, ← Bindings.names_extend_empty]
  rfl

/-- **Every visible name is listed once, in a stable order.** After every history of operations,
an environment lists no name twice, and lists a name exactly if it contains it. The names stand
in the order of their first definitions, those of outer layers before those of inner ones, so that
a later definition of a name moves it in no layer. An environment inside another lists the names
of that parent first, in the order of the parent, and behind them the names that are new in it, in
the order of their first definitions in its own layer. And a change that binds only visible names
leaves the list as it is. -/
theorem names_in_order (ops : List Operation) (i : Nat) (env : Environment)
    (h : (Environment.semantics.after ops)[i]? = some env) :
    env.names.Nodup ∧ (∀ name, name ∈ env.names ↔ env.contains name = true) ∧
    (∃ stack, (Stack.semantics.after ops)[i]? = some stack ∧ stack.environment = env ∧
      env.names = (stack.layers.reverse.flatten.map Prod.fst).eraseDups ∧
      ∀ parent : Environment, env.outer = parent.layers →
        env.names = parent.names ++
          (stack.own.map Prod.fst).eraseDups.filter (· ∉ parent.names) ∧
        parent.names <+: env.names) ∧
    ∀ c : Change, (∀ pair ∈ c.definitions, env.contains pair.1 = true) →
      (env.change c).names = env.names := by
  have hafter := Stack.semantics_respects.after ops
  obtain ⟨stack, hstack, rfl⟩ : ∃ stack, (Stack.semantics.after ops)[i]? = some stack ∧
      stack.environment = env := by
    rwa [← hafter, List.getElem?_map, Option.map_eq_some_iff] at h
  refine ⟨Environment.names_nodup _, Environment.mem_names_iff _,
    ⟨stack, hstack, rfl, stack.names_environment, fun parent hparent => ?_⟩,
    fun c => Environment.names_change_of_visible⟩
  have hchild := Stack.names_child hparent
  exact ⟨hchild, hchild ▸ List.prefix_append ..⟩

/-- The parent binds `b` before `a`, and keeps them so in front of what is new in the child, where
the names are bound in another order and one of them twice. -/
theorem names_in_order_rebound :
    let ops : List Operation := [.new, .change 0 (.extend [("b", .nil), ("a", .nil)]), .inside 0,
      .change 1 (.extend [("a", .nil), ("d", .nil), ("b", .nil), ("c", .nil), ("d", .nil)])]
    ∃ parent child, (Environment.semantics.after ops)[0]? = some parent ∧
      (Environment.semantics.after ops)[1]? = some child ∧ parent.names = ["b", "a"] ∧
      child.names = parent.names ++ ["d", "c"] ∧ child.names.Nodup ∧
      (child.define "a" (.bool true)).names = child.names := by
  intro ops
  obtain ⟨hnodup, -, ⟨_, hstack, -, -, hparent⟩, hrebound⟩ := names_in_order ops 1 _ rfl
  obtain rfl := Option.some.inj hstack
  obtain ⟨hchild, -⟩ := hparent ((Environment.semantics.after ops)[0]) rfl
  refine ⟨_, _, rfl, rfl, by decide, hchild.trans (by decide), hnodup,
    hrebound (.define "a" (.bool true)) (by decide)⟩

end Reckoner
