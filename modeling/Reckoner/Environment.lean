import Reckoner.Value

/-!
# Reckoner — environments

The bindings an expression is evaluated against. An **environment** is a stack of
layers; a name means what the innermost layer that binds it says. Each layer keeps
its names in the order in which they were first bound (`Bindings`).

Main results:

* `Bindings.names_insert` — binding a name again leaves it where it stands, and a
  new name goes last;
* `Bindings.find?_insert` — a name means what it was bound to last;
* `Environment.find?_define`, `Environment.find?_inside` — a definition hides what the
  name meant before, and a new layer hides nothing.
-/

namespace Reckoner

-- ---------------------------------------------------------------------------
-- One layer
-- ---------------------------------------------------------------------------

/-- Names and what they are bound to, each name once, in the order of first binding. -/
structure Bindings where
  entries : List (String × Value)
  nodup : (entries.map Prod.fst).Nodup

namespace Bindings

/-- The names bound, in the order of first binding. -/
def names (b : Bindings) : List String := b.entries.map Prod.fst

/-- What a name is bound to. -/
def find? (b : Bindings) (name : String) : Option Value := b.entries.lookup name

/-- The number of names bound. -/
def size (b : Bindings) : Nat := b.entries.length

/-- A layer that binds nothing. -/
def empty : Bindings := ⟨[], .nil⟩

instance : Inhabited Bindings := ⟨empty⟩

/-- Entries after a binding: the old one of that name replaced, or a new one last. -/
def put (name : String) (value : Value) : List (String × Value) → List (String × Value)
  | [] => [(name, value)]
  | (n, v) :: rest => if n = name then (n, value) :: rest else (n, v) :: put name value rest

/-- The names that stand in the entries after a binding. -/
theorem fst_put (name : String) (value : Value) (entries : List (String × Value)) :
    (put name value entries).map Prod.fst =
      if name ∈ entries.map Prod.fst then entries.map Prod.fst
      else entries.map Prod.fst ++ [name] := by
  induction entries with
  | nil => simp [put]
  | cons e rest ih =>
    obtain ⟨n, v⟩ := e
    by_cases h : n = name
    · simp [put, h]
    · have h' : ¬ name = n := fun e => h e.symm
      by_cases hm : name ∈ rest.map Prod.fst
      · simp [put, h, ih, hm]
      · simp [put, h, h', ih, hm]

/-- The bindings with a name bound to a value. -/
def insert (b : Bindings) (name : String) (value : Value) : Bindings where
  entries := put name value b.entries
  nodup := by
    rw [fst_put]
    split
    · exact b.nodup
    · next h => exact List.nodup_append.2 ⟨b.nodup, by simp, by simp; grind⟩

/-- Binding a name again leaves it where it stands; a new name goes last. -/
theorem names_insert (b : Bindings) (name : String) (value : Value) :
    (b.insert name value).names = if name ∈ b.names then b.names else b.names ++ [name] :=
  fst_put name value b.entries

/-- A name means what it was bound to last. -/
theorem find?_insert (b : Bindings) (name other : String) (value : Value) :
    (b.insert name value).find? other = if other = name then some value else b.find? other := by
  unfold find? insert
  simp only
  induction b.entries with
  | nil => simp [put, List.lookup_cons]; grind
  | cons e rest ih =>
    obtain ⟨n, v⟩ := e
    by_cases h : n = name <;> grind [put]

/-- Bindings with pairs bound in order. -/
def extend (b : Bindings) (pairs : List (String × Value)) : Bindings :=
  pairs.foldl (fun b (name, value) => b.insert name value) b

end Bindings

-- ---------------------------------------------------------------------------
-- Layers
-- ---------------------------------------------------------------------------

/-- The bindings visible to an expression. -/
structure Environment where
  /-- The innermost layer. -/
  own : Bindings
  /-- The layers around it, from the inside out. -/
  outer : List Bindings

namespace Environment

/-- No bindings. -/
def empty : Environment := ⟨.empty, []⟩

instance : Inhabited Environment := ⟨empty⟩

/-- An environment inside another, with no bindings of its own yet. -/
def inside (env : Environment) : Environment := ⟨.empty, env.own :: env.outer⟩

/-- All layers, from the inside out. -/
def layers (env : Environment) : List Bindings := env.own :: env.outer

/-- The environment with a name bound in its innermost layer. -/
def define (env : Environment) (name : String) (value : Value) : Environment :=
  { env with own := env.own.insert name value }

/-- The environment with pairs bound in its innermost layer, in order. -/
def extend (env : Environment) (pairs : List (String × Value)) : Environment :=
  { env with own := env.own.extend pairs }

/-- The environment of one layer that binds the given pairs. -/
def ofList (pairs : List (String × Value)) : Environment := empty.extend pairs

/-- What a name is bound to, if it is. -/
def find? (env : Environment) (name : String) : Option Value :=
  env.layers.findSome? (·.find? name)

/-- A name defined in the innermost layer hides what it meant before, and no other
name is touched. -/
theorem find?_define (env : Environment) (name other : String) (value : Value) :
    (env.define name value).find? other =
      if other = name then some value else env.find? other := by
  simp only [find?, layers, define, List.findSome?_cons, Bindings.find?_insert]
  by_cases h : other = name <;> simp [h]

/-- A new layer shows what the layers around it bind. -/
theorem find?_inside (env : Environment) (name : String) :
    env.inside.find? name = env.find? name := by
  simp only [find?, layers, inside, List.findSome?_cons]
  rfl

/-- What a name means; one that is not bound means nil. -/
def get (env : Environment) (name : String) : Value := (env.find? name).getD .nil

/-- Whether a name is bound. -/
def contains (env : Environment) (name : String) : Bool := (env.find? name).isSome

/-- The number of names bound in the innermost layer. -/
def size (env : Environment) : Nat := env.own.size

/-- Whether the innermost layer binds nothing. -/
def isEmpty (env : Environment) : Bool := env.own.entries.isEmpty

/-- The names bound in some of the layers: those of the outermost first, then from
each layer those that are new in it. -/
def visibleNames : List Bindings → List String
  | [] => []
  | layer :: outer =>
    let before := visibleNames outer
    before ++ layer.names.filter (· ∉ before)

/-- Every name that is bound, once. -/
def names (env : Environment) : List String := visibleNames env.layers

end Environment

end Reckoner
