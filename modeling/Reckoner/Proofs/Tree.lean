import Reckoner.Expr.Basic

/-!
# Reckoner — trees as data

What the later modules need to know of an expression as a tree, whatever it means:

* `Expr.induct` — induction on a tree, with a hypothesis for every argument of a call;
* `Expr.children`, `Expr.Contains` — the nodes right below a node, and the nodes of a
  tree at any depth;
* `Expr.reportedLine` — the line at which a node is reported;
* `Expr.Frame`, `Expr.Context` — nodes with one child left out, and trees with a hole at any
  depth;
* `Expr.closings` — the tokens that close the calls of a tree;
* `Expr.relabel` — a tree with its leaves and places rewritten one by one. Its
  instances forget what is not of interest: `Expr.shape` keeps the form alone,
  `Expr.bare` all but the places.
-/

namespace Reckoner

namespace Expr

-- ---------------------------------------------------------------------------
-- Induction
-- ---------------------------------------------------------------------------

/-- Induction on a tree. -/
@[elab_as_elim, induction_eliminator]
theorem induct {motive : Expr → Prop}
    (literal : ∀ v p, motive (.literal v p))
    (var : ∀ n p, motive (.var n p))
    (group : ∀ e p, motive e → motive (.group e p))
    (unary : ∀ op e p, motive e → motive (.unary op e p))
    (binary : ∀ op a b p, motive a → motive b → motive (.binary op a b p))
    (logical : ∀ op a b p, motive a → motive b → motive (.logical op a b p))
    (call : ∀ f args t p, motive f → (∀ a ∈ args, motive a) → motive (.call f args t p)) :
    ∀ e, motive e :=
  Expr.rec literal var group unary binary logical
    (fun f args t p hf hargs => call f args t p hf hargs)
    (fun _ ha => absurd ha List.not_mem_nil)
    (fun _ _ ih ihs a ha => (List.mem_cons.1 ha).elim (fun h => h ▸ ih) (ihs a))

-- ---------------------------------------------------------------------------
-- Nodes
-- ---------------------------------------------------------------------------

/-- The nodes right below a node, from left to right. -/
def children : Expr → List Expr
  | literal _ _ | var _ _ => []
  | group e _ | unary _ e _ => [e]
  | binary _ a b _ | logical _ a b _ => [a, b]
  | call f args _ _ => f :: args

/-- A tree contains itself, and what one of its children contains. -/
inductive Contains : Expr → Expr → Prop
  | self (e : Expr) : Contains e e
  | child {e c n : Expr} (hc : c ∈ e.children) (hn : Contains c n) : Contains e n

section Children

variable {a b e f : Expr} {args : List Expr} {p : Place} {t : Token}

/-- The children of every kind of node, one by one. -/
theorem mem_group : e ∈ (group e p).children := List.mem_singleton.2 rfl

theorem mem_unary {op : UnaryOp} : e ∈ (unary op e p).children := List.mem_singleton.2 rfl

theorem left_mem_binary {op : BinaryOp} : a ∈ (binary op a b p).children :=
  List.mem_cons_self ..

theorem right_mem_binary {op : BinaryOp} : b ∈ (binary op a b p).children :=
  List.mem_cons_of_mem _ (List.mem_singleton.2 rfl)

theorem left_mem_logical {op : LogicalOp} : a ∈ (logical op a b p).children :=
  List.mem_cons_self ..

theorem right_mem_logical {op : LogicalOp} : b ∈ (logical op a b p).children :=
  List.mem_cons_of_mem _ (List.mem_singleton.2 rfl)

theorem callee_mem_call : f ∈ (call f args t p).children := List.mem_cons_self ..

theorem arg_mem_call (h : a ∈ args) : a ∈ (call f args t p).children :=
  List.mem_cons_of_mem _ h

end Children

/-- Induction on a tree, with a hypothesis for every child. -/
@[elab_as_elim]
theorem children_induct {motive : Expr → Prop}
    (node : ∀ e, (∀ c ∈ e.children, motive c) → motive e) (e : Expr) : motive e := by
  induction e with
  | literal | var => exact node _ fun c hc => absurd hc List.not_mem_nil
  | group e p ih | unary op e p ih => exact node _ (List.forall_mem_singleton.2 ih)
  | binary op a b p iha ihb | logical op a b p iha ihb =>
    exact node _ (List.forall_mem_cons.2 ⟨iha, List.forall_mem_singleton.2 ihb⟩)
  | call f args t p ihf ihargs => exact node _ (List.forall_mem_cons.2 ⟨ihf, ihargs⟩)

/-- The line at which a node is reported: an operator between two operands at the line of the
left one, a call at that of the parenthesis that closes it, and any other node at that of its
first token. -/
def reportedLine (first : Token) : Expr → Nat
  | literal _ _ | var _ _ | group _ _ | unary _ _ _ => first.line
  | binary _ left _ _ | logical _ left _ _ => left.line
  | call _ _ closing _ => closing.line

-- ---------------------------------------------------------------------------
-- Trees with a hole
-- ---------------------------------------------------------------------------

/-- A node with one child left out. -/
inductive Frame where
  | group (place : Place)
  | unary (op : UnaryOp) (place : Place)
  | binaryLeft (op : BinaryOp) (right : Expr) (place : Place)
  | binaryRight (op : BinaryOp) (left : Expr) (place : Place)
  | logicalLeft (op : LogicalOp) (right : Expr) (place : Place)
  | logicalRight (op : LogicalOp) (left : Expr) (place : Place)
  | callee (args : List Expr) (closing : Token) (place : Place)
  | argument (f : Expr) (before after : List Expr) (closing : Token) (place : Place)

namespace Frame

/-- The node with a child in the hole. -/
def fill : Frame → Expr → Expr
  | group place, e => .group e place
  | unary op place, e => .unary op e place
  | binaryLeft op right place, e => .binary op e right place
  | binaryRight op left place, e => .binary op left e place
  | logicalLeft op right place, e => .logical op e right place
  | logicalRight op left place, e => .logical op left e place
  | callee args closing place, e => .call e args closing place
  | argument f before after closing place, e => .call f (before ++ e :: after) closing place

/-- What stands in the hole of a node is a child of it. -/
theorem mem_children_fill (frame : Frame) (e : Expr) : e ∈ (frame.fill e).children := by
  cases frame with
  | group | unary => exact List.mem_singleton.2 rfl
  | binaryLeft | logicalLeft | callee => exact List.mem_cons_self ..
  | binaryRight => exact right_mem_binary
  | logicalRight => exact right_mem_logical
  | argument f before after => exact arg_mem_call (List.mem_append_cons_self ..)

/-- Every child of a node can be left out. -/
theorem exists_fill_eq {e c : Expr} (hc : c ∈ e.children) : ∃ frame : Frame, frame.fill c = e := by
  cases e using Expr.casesOn with
  | literal | var => exact absurd hc List.not_mem_nil
  | group e p =>
    obtain rfl := List.mem_singleton.1 hc
    exact ⟨group p, rfl⟩
  | unary op e p =>
    obtain rfl := List.mem_singleton.1 hc
    exact ⟨unary op p, rfl⟩
  | binary op a b p =>
    obtain rfl | rfl : c = a ∨ c = b := by simpa [children] using hc
    · exact ⟨binaryLeft op b p, rfl⟩
    · exact ⟨binaryRight op a p, rfl⟩
  | logical op a b p =>
    obtain rfl | rfl : c = a ∨ c = b := by simpa [children] using hc
    · exact ⟨logicalLeft op b p, rfl⟩
    · exact ⟨logicalRight op a p, rfl⟩
  | call f args t p =>
    rcases List.mem_cons.1 hc with rfl | hc
    · exact ⟨callee args t p, rfl⟩
    · obtain ⟨before, after, rfl⟩ := List.append_of_mem hc
      exact ⟨argument f before after t p, rfl⟩

end Frame

/-- A path of nodes down to a hole, the outermost first. -/
abbrev Context := List Frame

/-- The tree with an expression in the hole. -/
def Context.fill (ctx : Context) (e : Expr) : Expr := ctx.foldr Frame.fill e

/-- A hole in a hole is filled from the inside out. -/
theorem Context.fill_append (outer inner : Context) (e : Expr) :
    Context.fill (outer ++ inner) e = outer.fill (inner.fill e) :=
  List.foldr_append

/-- The expressions that a tree contains are those that stand in a hole of it. -/
theorem contains_iff_exists_fill {e n : Expr} :
    e.Contains n ↔ ∃ ctx : Context, ctx.fill n = e := by
  constructor
  · intro h
    induction h with
    | self e => exact ⟨[], rfl⟩
    | child hc _ ih =>
      obtain ⟨ctx, rfl⟩ := ih
      obtain ⟨frame, rfl⟩ := Frame.exists_fill_eq hc
      exact ⟨frame :: ctx, rfl⟩
  · rintro ⟨ctx, rfl⟩
    induction ctx with
    | nil => exact .self n
    | cons frame ctx ih => exact .child (frame.mem_children_fill _) ih

-- ---------------------------------------------------------------------------
-- Calls
-- ---------------------------------------------------------------------------

mutual

/-- The tokens that close the calls of a tree, from left to right: a call is closed behind
its callee and its arguments. -/
def closings : Expr → List Token
  | literal _ _ | var _ _ => []
  | group e _ | unary _ e _ => closings e
  | binary _ a b _ | logical _ a b _ => closings a ++ closings b
  | call f args t _ => closings f ++ (closingsAll args ++ [t])

/-- The tokens that close the calls of several trees. -/
def closingsAll : List Expr → List Token
  | [] => []
  | e :: es => closings e ++ closingsAll es

end

/-- Trees behind other trees are closed behind them. -/
theorem closingsAll_append (es es' : List Expr) :
    closingsAll (es ++ es') = closingsAll es ++ closingsAll es' := by
  induction es with
  | nil => rw [List.nil_append, closingsAll, List.nil_append]
  | cons e es ih => rw [List.cons_append, closingsAll, closingsAll, ih, List.append_assoc]

/-- What closes a call in a child closes a call in the node. -/
theorem mem_closings_of_child {e c : Expr} {t : Token} (hc : c ∈ e.children)
    (ht : t ∈ c.closings) : t ∈ e.closings := by
  cases e using Expr.casesOn with
  | literal | var => exact absurd hc List.not_mem_nil
  | group | unary =>
    obtain rfl := List.mem_singleton.1 hc
    rwa [closings]
  | binary | logical =>
    rw [closings, List.mem_append]
    rcases List.mem_cons.1 hc with rfl | hc
    · exact .inl ht
    · obtain rfl := List.mem_singleton.1 hc
      exact .inr ht
  | call f args u p =>
    rw [closings, List.mem_append, List.mem_append]
    rcases List.mem_cons.1 hc with rfl | hc
    · exact .inl ht
    · obtain ⟨before, after, rfl⟩ := List.append_of_mem hc
      rw [closingsAll_append, closingsAll]
      exact .inr (.inl (List.mem_append_right _ (List.mem_append_left _ ht)))

/-- The token that closes a call of a tree is one of these. -/
theorem Contains.mem_closings {e f : Expr} {args : List Expr} {t : Token} {p : Place}
    (h : e.Contains (.call f args t p)) : t ∈ e.closings := by
  generalize hn : Expr.call f args t p = n at h
  induction h with
  | self e =>
    subst hn
    rw [closings]
    exact List.mem_append_right _ (List.mem_append_right _ (List.mem_singleton.2 rfl))
  | child hc _ ih => exact mem_closings_of_child hc (ih hn)

-- ---------------------------------------------------------------------------
-- Rewriting leaves and places
-- ---------------------------------------------------------------------------

/-- What becomes of the parts of a node that are no nodes themselves. -/
structure Relabeling where
  literal : Literal → Literal
  name : String → String
  place : Place → Place
  closing : Token → Token

mutual

/-- A tree of the same form, with its leaves and places rewritten. -/
def relabel (r : Relabeling) : Expr → Expr
  | literal v p => literal (r.literal v) (r.place p)
  | var n p => var (r.name n) (r.place p)
  | group e p => group (relabel r e) (r.place p)
  | unary op e p => unary op (relabel r e) (r.place p)
  | binary op a b p => binary op (relabel r a) (relabel r b) (r.place p)
  | logical op a b p => logical op (relabel r a) (relabel r b) (r.place p)
  | call f args t p => call (relabel r f) (relabelAll r args) (r.closing t) (r.place p)

/-- The trees of a list, rewritten one by one. -/
def relabelAll (r : Relabeling) : List Expr → List Expr
  | [] => []
  | e :: es => relabel r e :: relabelAll r es

end

/-- The trees of a list are rewritten by themselves. -/
@[simp] theorem relabelAll_eq_map (r : Relabeling) (es : List Expr) :
    relabelAll r es = es.map (relabel r) := by
  induction es with
  | nil => rfl
  | cons e es ih => rw [relabelAll, ih, List.map_cons]

/-- A tree of which nothing is rewritten. -/
theorem relabel_id (e : Expr) : e.relabel ⟨id, id, id, id⟩ = e := by
  induction e with
  | literal | var => rfl
  | group e p ih | unary op e p ih => simp [relabel, ih]
  | binary op a b p iha ihb | logical op a b p iha ihb => simp [relabel, iha, ihb]
  | call f args t p ihf ihargs =>
    have hargs : args.map (relabel ⟨id, id, id, id⟩) = args := by
      rw [List.map_congr_left ihargs]
      exact List.map_id' args
    simp [relabel, ihf, hargs]

/-- The form of a tree: its nodes and operators, without what its leaves hold and
without places. -/
def shape : Expr → Expr :=
  relabel ⟨fun _ => .nil, fun _ => "", fun _ => default, fun _ => default⟩

/-- A tree without its places. -/
def bare : Expr → Expr :=
  relabel ⟨id, id, fun _ => default, fun _ => default⟩

-- ---------------------------------------------------------------------------
-- Rewriting that forgets places
-- ---------------------------------------------------------------------------

/-- Nothing is left of where the nodes of a tree stand. -/
structure Relabeling.NodesPlaceless (r : Relabeling) : Prop where
  place : ∀ p, r.place p = default

/-- Nothing is left either of the tokens that close its calls. -/
structure Relabeling.Placeless (r : Relabeling) : Prop extends r.NodesPlaceless where
  closing : ∀ t, r.closing t = default

section Placeless

variable {r : Relabeling} {a a' b b' e e' f f' : Expr} {args args' : List Expr}

namespace Relabeling.NodesPlaceless

/-- Trees that are alike but for their places are joined to trees that are. -/
theorem join (hr : r.NodesPlaceless) (c : Connective) (ha : a'.relabel r = a.relabel r)
    (hb : b'.relabel r = b.relabel r) :
    (Expr.join c a' b').relabel r = (Expr.join c a b).relabel r := by
  cases c <;> simp only [Expr.join, relabel, ha, hb, hr.place]

/-- A sign may stand in another place. -/
theorem applyUnary (hr : r.NodesPlaceless) (op : UnaryOp) (t t' : Token)
    (he : e'.relabel r = e.relabel r) :
    (Expr.applyUnary op t' e').relabel r = (Expr.applyUnary op t e).relabel r := by
  simp only [Expr.applyUnary, relabel, he, hr.place]

/-- So may the parts of a call, if nothing is left to tell the tokens apart that close it. -/
theorem applyCall (hr : r.NodesPlaceless) {t t' : Token} (ht : r.closing t' = r.closing t)
    (hf : f'.relabel r = f.relabel r) (hargs : args'.map (relabel r) = args.map (relabel r)) :
    (Expr.applyCall f' args' t').relabel r = (Expr.applyCall f args t).relabel r := by
  simp only [Expr.applyCall, relabel, relabelAll_eq_map, hf, hargs, ht, hr.place]

/-- So may parentheses. -/
theorem parenthesize (hr : r.NodesPlaceless) (t t' u u' : Token)
    (he : e'.relabel r = e.relabel r) :
    (Expr.parenthesize t' u' e').relabel r = (Expr.parenthesize t u e).relabel r := by
  simp only [Expr.parenthesize, relabel, he, hr.place]

end Relabeling.NodesPlaceless

/-- Without their places, tokens that close calls cannot be told apart. -/
theorem Relabeling.Placeless.closing_eq (hr : r.Placeless) (t t' : Token) :
    r.closing t' = r.closing t :=
  (hr.closing t').trans (hr.closing t).symm

end Placeless

/-- The form of a tree is without places. -/
theorem placeless_shape :
    Relabeling.Placeless ⟨fun _ => .nil, fun _ => "", fun _ => default, fun _ => default⟩ :=
  ⟨⟨fun _ => rfl⟩, fun _ => rfl⟩

/-- So is a bare tree. -/
theorem placeless_bare : Relabeling.Placeless ⟨id, id, fun _ => default, fun _ => default⟩ :=
  ⟨⟨fun _ => rfl⟩, fun _ => rfl⟩

end Expr

end Reckoner
