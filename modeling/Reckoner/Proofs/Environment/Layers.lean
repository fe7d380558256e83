import Reckoner.Environment

/-!
# Reckoner — what names mean in layers

A layer is described by the definitions that were made in it: a name means what its latest
definition says (`latest?`). An environment is described by its layers, from the inside out:
the first one that binds a name decides.

Main results:

* `Bindings.find?_extend` — definitions made in a layer come before what it bound already;
* `Environment.find?_extend` — the same for the innermost layer of an environment;
* `Environment.find?_flat` — all layers can be made into one;
* `Environment.BindsAt.find?_eq` — what a binding in some layer changes.
-/

namespace Reckoner

-- ---------------------------------------------------------------------------
-- Definitions
-- ---------------------------------------------------------------------------

/-- What the latest of several definitions of a name says, if there is one. -/
def latest? (pairs : List (String × Value)) (name : String) : Option Value :=
  pairs.reverse.lookup name

theorem latest?_append (ps qs : List (String × Value)) (name : String) :
    latest? (ps ++ qs) name = (latest? qs name).or (latest? ps name) := by
  unfold latest?
  rw [List.reverse_append, List.lookup_append]

theorem latest?_singleton (name other : String) (value : Value) :
    latest? [(name, value)] other = if other = name then some value else none := by
  unfold latest?
  by_cases h : other = name
  · simp [h]
  · have hne : (other == name) = false := beq_false_of_ne h
    simp [List.lookup_cons, hne, h]

theorem mem_of_latest? {pairs : List (String × Value)} {name : String} {value : Value}
    (h : latest? pairs name = some value) : (name, value) ∈ pairs := by
  unfold latest? at h
  obtain ⟨before, after, heq, -⟩ := List.lookup_eq_some_iff.1 h
  rw [← List.mem_reverse, heq]
  exact List.mem_append_right _ (List.mem_cons_self ..)

/-- A name that is defined only once means what that definition says. -/
theorem latest?_of_nodup {pairs : List (String × Value)} (h : (pairs.map Prod.fst).Nodup)
    (name : String) : latest? pairs name = pairs.lookup name := by
  induction pairs with
  | nil => rfl
  | cons pair rest ih =>
    obtain ⟨n, v⟩ := pair
    obtain ⟨hn, hrest⟩ := List.nodup_cons.1 h
    have hsplit := latest?_append [(n, v)] rest name
    rw [List.singleton_append, ih hrest, latest?_singleton] at hsplit
    rw [hsplit, List.lookup_cons]
    by_cases hname : name = n
    · have hnone : rest.lookup name = none := by
        rw [List.lookup_eq_none_iff]
        intro pair hpair
        have hmem := List.mem_map_of_mem (f := Prod.fst) hpair
        rw [bne_iff_ne]
        rintro rfl
        exact hn (hname ▸ hmem)
      simp [hname ▸ hnone, hname]
    · have hne : (name == n) = false := beq_false_of_ne hname
      simp [hname, hne]

/-- Definitions of other names have no part in what a name means. -/
theorem latest?_filter (pairs : List (String × Value)) (name : String) :
    latest? (pairs.filter (·.1 = name)) name = latest? pairs name := by
  induction pairs with
  | nil => rfl
  | cons pair rest ih =>
    obtain ⟨n, v⟩ := pair
    have hsplit := latest?_append [(n, v)] rest name
    rw [List.singleton_append] at hsplit
    by_cases hname : n = name
    · rw [List.filter_cons_of_pos (by simpa using hname)]
      have hfiltered := latest?_append [(n, v)] (rest.filter (·.1 = name)) name
      rw [List.singleton_append, ih] at hfiltered
      rw [hfiltered, hsplit]
    · rw [List.filter_cons_of_neg (by simpa using hname), ih, hsplit, latest?_singleton,
        if_neg (Ne.symm hname), Option.or_none]

-- ---------------------------------------------------------------------------
-- One layer
-- ---------------------------------------------------------------------------

namespace Bindings

/-- Definitions made in a layer come before what it bound already. -/
theorem find?_extend (b : Bindings) (pairs : List (String × Value)) (name : String) :
    (b.extend pairs).find? name = (latest? pairs name).or (b.find? name) := by
  induction pairs generalizing b with
  | nil => rfl
  | cons pair rest ih =>
    obtain ⟨n, v⟩ := pair
    have hsplit := latest?_append [(n, v)] rest name
    rw [List.singleton_append, latest?_singleton] at hsplit
    have hrest : (b.extend ((n, v) :: rest)).find? name = ((b.insert n v).extend rest).find? name :=
      rfl
    rw [hrest, ih, find?_insert, hsplit]
    by_cases hname : name = n
    · rw [if_pos hname, if_pos hname]
      cases latest? rest name <;> rfl
    · rw [if_neg hname, if_neg hname, Option.or_none]

/-- The names that are bound after definitions in a layer. -/
theorem mem_names_extend (b : Bindings) (pairs : List (String × Value)) (name : String) :
    name ∈ (b.extend pairs).names ↔ name ∈ b.names ∨ name ∈ pairs.map Prod.fst := by
  induction pairs generalizing b with
  | nil => exact (or_iff_left List.not_mem_nil).symm
  | cons pair rest ih =>
    obtain ⟨n, v⟩ := pair
    have hinsert : name ∈ (b.insert n v).names ↔ name ∈ b.names ∨ name = n := by
      rw [names_insert]
      split
      · next hn => exact ⟨.inl, fun h => h.elim id (· ▸ hn)⟩
      · rw [List.mem_append, List.mem_singleton]
    rw [List.map_cons, List.mem_cons, ← or_assoc, ← hinsert]
    exact ih (b.insert n v)

end Bindings

-- ---------------------------------------------------------------------------
-- Several layers
-- ---------------------------------------------------------------------------

namespace Environment

/-- What the first layer that binds a name says. -/
theorem find?_eq (env : Environment) (name : String) :
    env.find? name = (env.own.find? name).or (env.outer.findSome? (·.find? name)) := by
  unfold find? layers
  rw [List.findSome?_cons]
  cases env.own.find? name <;> rfl

/-- Binding several pairs is defining them one after the other. -/
theorem extend_eq_foldl (env : Environment) (pairs : List (String × Value)) :
    env.extend pairs = pairs.foldl (fun env pair => env.define pair.1 pair.2) env := by
  induction pairs generalizing env with
  | nil => rfl
  | cons pair rest ih =>
    rw [List.foldl_cons, ← ih]
    rfl

/-- Pairs bound in the innermost layer come before what was visible already. -/
theorem find?_extend (env : Environment) (pairs : List (String × Value)) (name : String) :
    (env.extend pairs).find? name = (latest? pairs name).or (env.find? name) := by
  have hown := Bindings.find?_extend env.own pairs name
  rw [find?_eq, find?_eq env, ← Option.or_assoc]
  exact congrArg (·.or (env.outer.findSome? (·.find? name))) hown

/-- A name means what it was bound to last, or what it meant before. -/
theorem get_extend (env : Environment) (pairs : List (String × Value)) (name : String) :
    (env.extend pairs).get name = (latest? pairs name).getD (env.get name) := by
  unfold get
  rw [find?_extend]
  cases latest? pairs name <;> rfl

theorem find?_ofList (pairs : List (String × Value)) (name : String) :
    (ofList pairs).find? name = latest? pairs name := by
  unfold ofList
  rw [find?_extend]
  exact Option.or_none

/-- All layers made into one: their definitions one after the other, the outermost first. -/
def flat (env : Environment) : Environment :=
  .ofList (env.layers.reverse.flatMap (·.entries))

/-- Names mean the same when all layers are made into one. -/
theorem find?_flat (env : Environment) (name : String) :
    env.flat.find? name = env.find? name := by
  have hlayers (layers : List Bindings) :
      latest? (layers.reverse.flatMap (·.entries)) name = layers.findSome? (·.find? name) := by
    induction layers with
    | nil => rfl
    | cons b outer ih =>
      have hlatest : latest? b.entries name = b.find? name := latest?_of_nodup b.nodup name
      rw [List.reverse_cons, List.flatMap_append, latest?_append, ih, List.flatMap_cons,
        List.flatMap_nil, List.append_nil, hlatest, List.findSome?_cons]
      cases b.find? name <;> rfl
  unfold flat
  rw [find?_ofList, hlayers]
  rfl

/-- An environment and the same with a name bound in one of its layers, which has these
layers inside it. -/
def BindsAt (env env' : Environment) (inner : List Bindings) (name : String) (value : Value) :
    Prop :=
  ∃ b outer, env.layers = inner ++ b :: outer ∧
    env'.layers = inner ++ b.insert name value :: outer

/-- A binding in some layer is visible unless a layer inside it binds the name too, and it
touches no other name. -/
theorem BindsAt.find?_eq {env env' : Environment} {inner : List Bindings} {name : String}
    {value : Value} (h : env.BindsAt env' inner name value) (other : String) :
    env'.find? other =
      if other = name then (inner.findSome? (·.find? name)).or (some value)
      else env.find? other := by
  obtain ⟨b, outer, hlayers, hlayers'⟩ := h
  unfold find?
  rw [hlayers, hlayers', List.findSome?_append, List.findSome?_append, List.findSome?_cons,
    List.findSome?_cons, Bindings.find?_insert]
  by_cases hname : other = name
  · rw [if_pos hname, if_pos hname, hname]
  · rw [if_neg hname, if_neg hname]

/-- A layer that binds nothing hides nothing, wherever it stands. -/
theorem find?_of_empty_layer {env env' : Environment} {inner outer : List Bindings}
    (h : env.layers = inner ++ outer) (h' : env'.layers = inner ++ .empty :: outer)
    (name : String) : env'.find? name = env.find? name := by
  unfold find?
  rw [h, h', List.findSome?_append, List.findSome?_append, List.findSome?_cons]
  rfl

end Environment

end Reckoner
