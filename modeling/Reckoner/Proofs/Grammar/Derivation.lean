import Reckoner.Proofs.Extent
import Reckoner.Proofs.Grammar.Basic

/-!
# Reckoner — what a derivation says of its tree

Facts about derivations alone, each by recursion on the derivation:

* `Derives.toExpression` — what derives from any category derives from `expression`;
* `Derives.first`, `Derives.last` — a tree spans from its first token to its last;
* `Derives.line_eq`, `Derives.line_mem` — at which line a node is reported;
* `Derives.children_inOrder` — the children of a node derive from stretches of its tokens,
  one behind the other;
* `Derives.contains` — every node of a tree derives from a stretch of its tokens;
* `Derives.closings_sublist` — calls are closed by closing parentheses, in their order;
* `Derives.shift` — tokens that stand further on derive the tree that stands further on;
* `Fixes.derives` — what tokens have in common, the trees that they derive have in common;
* `Derives.ofKinds` — so tokens of the same kinds derive a tree of the same shape.
-/

namespace Reckoner.Grammar

open Reckoner.Expr

-- ---------------------------------------------------------------------------
-- Categories
-- ---------------------------------------------------------------------------

/-- A chain of one level is an operand of the next looser one, and so on up to the loosest. -/
theorem Derives.ofLevel {ts : List Token} {e : Expr} :
    ∀ l, Derives (.level l) ts e → Derives .expression ts e
  | .or, h => .expression h
  | .and, h => ofLevel .or (.operand h)
  | .equality, h => ofLevel .and (.operand h)
  | .comparison, h => ofLevel .equality (.operand h)
  | .term, h => ofLevel .comparison (.operand h)
  | .factor, h => ofLevel .term (.operand h)
termination_by l => 6 - l.height
decreasing_by all_goals decide

/-- An expression of any category is an expression. -/
theorem Derives.toExpression {s : Category} {ts : List Token} {e : Expr} (h : Derives s ts e) :
    Derives .expression ts e := by
  have ofUnary {e : Expr} (h : Derives .unary ts e) : Derives .expression ts e :=
    .ofLevel .factor (.operand h)
  cases s with
  | expression => exact h
  | level l => exact .ofLevel l h
  | unary => exact ofUnary h
  | call => exact ofUnary (.unsigned h)
  | primary => exact ofUnary (.unsigned (.uncalled h))

-- ---------------------------------------------------------------------------
-- The tokens at both ends
-- ---------------------------------------------------------------------------

/-- An atom spans its token. -/
theorem Atom.span_eq {t : Token} {e : Expr} (h : Atom t e) : e.span = t.span := by
  cases h <;> rfl

/-- No atom is a closing parenthesis. -/
theorem Atom.kind_ne {t : Token} {e : Expr} (h : Atom t e) : t.kind ≠ .rightParen := by
  intro hk
  cases h with
  | number h | string h | true h | false h | nil h | identifier h => cases hk.symm.trans h

theorem Sign.kind_ne {k : TokenKind} {op : UnaryOp} (h : Sign k op) : k ≠ .rightParen := by
  cases h <;> decide

/-- A connective spans from its left operand to its right one. -/
theorem span_join (c : Connective) (a b : Expr) :
    (join c a b).span = ⟨a.span.start, b.span.stop⟩ := by
  cases c <;> rfl

/-- A tree starts where its first token starts, and that is no closing parenthesis. -/
theorem Derives.first {s : Category} {ts : List Token} {e : Expr} :
    Derives s ts e →
      ∃ t rest, ts = t :: rest ∧ e.span.start = t.span.start ∧ t.kind ≠ .rightParen
  | .expression h | .operand h | .unsigned h | .uncalled h => h.first
  | .join ha _ _ => by
    obtain ⟨t, rest, rfl, hstart, hkind⟩ := ha.first
    exact ⟨t, _, rfl, by rw [span_join]; exact hstart, hkind⟩
  | .sign ht _ => ⟨_, _, rfl, rfl, ht.kind_ne⟩
  | .apply hf _ _ _ _ => by
    obtain ⟨t, rest, rfl, hstart, hkind⟩ := hf.first
    exact ⟨t, _, rfl, hstart, hkind⟩
  | .atom h => ⟨_, _, rfl, congrArg Span.start h.span_eq, h.kind_ne⟩
  | .group ht _ _ => ⟨_, _, rfl, rfl, by rw [ht]; decide⟩

/-- A tree stops where its last token stops. -/
theorem Derives.last {s : Category} {ts : List Token} {e : Expr} :
    Derives s ts e → ∃ front t, ts = front ++ [t] ∧ e.span.stop = t.span.stop
  | .expression h | .operand h | .unsigned h | .uncalled h => h.last
  | @Derives.join _ ts _ t _ _ _ _ _ hb => by
    obtain ⟨front, u, rfl, hstop⟩ := hb.last
    exact ⟨ts ++ t :: front, u, by simp, by rw [span_join]; exact hstop⟩
  | .sign (t := t) _ h => by
    obtain ⟨front, u, rfl, hstop⟩ := h.last
    exact ⟨t :: front, u, rfl, hstop⟩
  | @Derives.apply ts us t u .. => ⟨ts ++ t :: us, u, by simp, rfl⟩
  | .atom h => ⟨[], _, rfl, congrArg Span.stop h.span_eq⟩
  | @Derives.group ts t u .. => ⟨t :: ts, u, rfl, rfl⟩

-- ---------------------------------------------------------------------------
-- Lines
-- ---------------------------------------------------------------------------

/-- It is reported at the line of the left operand. -/
theorem line_join (c : Connective) (a b : Expr) : (join c a b).line = a.line := by
  cases c <;> rfl

/-- At which line a node is reported. -/
theorem Derives.line_eq {s : Category} {ts : List Token} {e : Expr} :
    Derives s ts e → ∃ t rest, ts = t :: rest ∧ e.line = e.reportedLine t
  | .expression h | .operand h | .unsigned h | .uncalled h => h.line_eq
  | @Derives.join _ _ us t _ _ c ha _ _ => by
    obtain ⟨first, rest, rfl, -, -⟩ := ha.first
    exact ⟨first, rest ++ t :: us, rfl, by cases c <;> rfl⟩
  | .sign _ _ => ⟨_, _, rfl, rfl⟩
  | .apply hf _ _ _ _ => by
    obtain ⟨first, rest, rfl, -, -⟩ := hf.first
    exact ⟨first, _, rfl, rfl⟩
  | .atom h => ⟨_, [], rfl, by cases h <;> rfl⟩
  | .group _ _ _ => ⟨_, _, rfl, rfl⟩

/-- The line at which a node is reported is that of one of its tokens. -/
theorem Derives.line_mem {s : Category} {ts : List Token} {e : Expr} :
    Derives s ts e → ∃ t ∈ ts, e.line = t.line
  | .expression h | .operand h | .unsigned h | .uncalled h => h.line_mem
  | .join ha _ _ => by
    obtain ⟨t, ht, hline⟩ := ha.line_mem
    exact ⟨t, List.mem_append_left _ ht, (line_join _ _ _).trans hline⟩
  | .sign (t := t) _ _ => ⟨t, List.mem_cons_self .., rfl⟩
  | .apply (u := u) _ _ _ _ _ => ⟨u, by simp, rfl⟩
  | .atom (t := t) h => ⟨t, List.mem_singleton_self t, by cases h <;> rfl⟩
  | .group (t := t) _ _ _ => ⟨t, List.mem_cons_self .., rfl⟩

-- ---------------------------------------------------------------------------
-- Nodes
-- ---------------------------------------------------------------------------

/-- A tree derives from a stretch of the tokens. -/
def DerivesWithin (ts : List Token) (e : Expr) : Prop :=
  ∃ xs ms ys, ts = xs ++ ms ++ ys ∧ Derives .expression ms e

/-- What derives from some tokens derives from a stretch of any list with these in it. -/
theorem Derives.within {s : Category} {ms : List Token} {e : Expr} (h : Derives s ms e)
    (xs ys : List Token) : DerivesWithin (xs ++ ms ++ ys) e :=
  ⟨xs, ms, ys, rfl, h.toExpression⟩

/-- A stretch of a list is a stretch of any longer one. -/
theorem DerivesWithin.widen {ms : List Token} {e : Expr} (h : DerivesWithin ms e)
    (xs ys : List Token) : DerivesWithin (xs ++ ms ++ ys) e := by
  obtain ⟨xs', ms', ys', rfl, hd⟩ := h
  exact ⟨xs ++ xs', ms', ys' ++ ys, by simp, hd⟩

/-- Trees derive from stretches of the tokens, one behind the other. -/
def DeriveInOrder (ts : List Token) : List Expr → Prop
  | [] => True
  | e :: es => ∃ xs ms ys, ts = xs ++ ms ++ ys ∧ Derives .expression ms e ∧ DeriveInOrder ys es

/-- So are stretches one behind the other. -/
theorem DeriveInOrder.widen {ms : List Token} {es : List Expr} (h : DeriveInOrder ms es)
    (xs ys : List Token) : DeriveInOrder (xs ++ ms ++ ys) es := by
  induction es generalizing ms xs with
  | nil => trivial
  | cons e es ih =>
    obtain ⟨xs', ms', ys', rfl, hd, hrest⟩ := h
    exact ⟨xs ++ xs', ms', ys' ++ ys, by simp, hd, ih hrest []⟩

theorem DeriveInOrder.one {ms : List Token} {e : Expr} (h : Derives .expression ms e)
    (xs ys : List Token) : DeriveInOrder (xs ++ ms ++ ys) [e] :=
  ⟨xs, ms, ys, rfl, h, trivial⟩

/-- Each of several trees derives from a stretch. -/
theorem DeriveInOrder.member {ts : List Token} {es : List Expr} {e : Expr}
    (h : DeriveInOrder ts es) (he : e ∈ es) : DerivesWithin ts e := by
  induction es generalizing ts with
  | nil => exact absurd he List.not_mem_nil
  | cons e' es ih =>
    obtain ⟨xs, ms, ys, rfl, hd, hrest⟩ := h
    rcases List.mem_cons.1 he with rfl | he
    · exact hd.within xs ys
    · simpa using (ih hrest he).widen (xs ++ ms) []

/-- Arguments derive from stretches one behind the other, with the commas between them. -/
theorem Arguments.inOrder {us : List Token} {args : List Expr} :
    Arguments us args → DeriveInOrder us args
  | .none => trivial
  | .one h => by simpa using DeriveInOrder.one h [] []
  | @Arguments.more ts us t _ _ h _ hs _ =>
    ⟨[], ts, t :: us, rfl, h, by simpa using hs.inOrder.widen [t] []⟩

theorem children_join (c : Connective) (a b : Expr) : (join c a b).children = [a, b] := by
  cases c <;> rfl

/-- The children of a node derive from stretches of its tokens, one behind the other. -/
theorem Derives.children_inOrder {s : Category} {ts : List Token} {e : Expr} :
    Derives s ts e → DeriveInOrder ts e.children
  | .expression h | .operand h | .unsigned h | .uncalled h => h.children_inOrder
  | @Derives.join _ ts us t _ _ _ ha _ hb => by
    rw [children_join]
    have hright : DeriveInOrder ([t] ++ us ++ []) _ := .one hb.toExpression [t] []
    exact ⟨[], ts, t :: us, rfl, ha.toExpression, by simpa using hright⟩
  | .sign (t := t) _ h => by
    have hone := DeriveInOrder.one h.toExpression [t] []
    rwa [List.append_nil] at hone
  | @Derives.apply ts us t u _ _ hf _ hargs _ _ =>
    ⟨[], ts, t :: (us ++ [u]), rfl, hf.toExpression, hargs.inOrder.widen [t] [u]⟩
  | .atom h => by cases h <;> trivial
  | .group (t := t) (u := u) _ h _ => DeriveInOrder.one h [t] [u]

/-- A child derives from a stretch of the tokens of its node. -/
theorem Derives.child {s : Category} {ts : List Token} {e n : Expr} (h : Derives s ts e)
    (hn : n ∈ e.children) : DerivesWithin ts n :=
  h.children_inOrder.member hn

/-- Every node of a tree derives from a stretch of its tokens. -/
theorem Derives.contains {s : Category} {ts : List Token} {e n : Expr} (h : Derives s ts e)
    (hn : e.Contains n) : DerivesWithin ts n := by
  induction hn generalizing s ts with
  | self e => simpa using h.within [] []
  | child hc _ ih =>
    obtain ⟨xs, ms, ys, rfl, hd⟩ := h.child hc
    exact (ih hd).widen xs ys

-- ---------------------------------------------------------------------------
-- Calls
-- ---------------------------------------------------------------------------

/-- Nothing is closed by a connective itself. -/
theorem closings_join (c : Connective) (a b : Expr) :
    (join c a b).closings = a.closings ++ b.closings := by
  cases c <;> exact rfl

/-- The closing parentheses among tokens. -/
def closingParens (ts : List Token) : List Token := ts.filter (·.kind = .rightParen)

theorem closingParens_append (ts us : List Token) :
    closingParens (ts ++ us) = closingParens ts ++ closingParens us :=
  List.filter_append ..

theorem closingParens_cons (t : Token) (ts : List Token) :
    (closingParens ts).Sublist (closingParens (t :: ts)) :=
  (List.sublist_cons_self t ts).filter _

theorem closingParens_single {u : Token} (hu : u.kind = .rightParen) : closingParens [u] = [u] :=
  List.filter_cons_of_pos (decide_eq_true hu)

mutual

/-- The calls of a tree are closed by some of the closing parentheses that it is read from,
in their order. -/
theorem Derives.closings_sublist {s : Category} {ts : List Token} {e : Expr} :
    Derives s ts e → e.closings.Sublist (closingParens ts)
  | .expression h | .operand h | .unsigned h | .uncalled h => h.closings_sublist
  | @Derives.join _ ts us t _ _ _ ha _ hb => by
    rw [closings_join, closingParens_append]
    exact ha.closings_sublist.append (hb.closings_sublist.trans (closingParens_cons t us))
  | .sign (t := t) _ h => h.closings_sublist.trans (closingParens_cons t _)
  | @Derives.apply ts us t u _ args hf _ hargs _ hu => by
    have hbehind : (closingsAll args ++ [u]).Sublist (closingParens (us ++ [u])) := by
      rw [closingParens_append, closingParens_single hu]
      exact hargs.closings_sublist.append (List.Sublist.refl [u])
    rw [closingParens_append]
    exact hf.closings_sublist.append (hbehind.trans (closingParens_cons t (us ++ [u])))
  | .atom h => by
    cases h <;> exact List.nil_sublist _
  | @Derives.group ts t u _ _ h _ => by
    have hfront : (closingParens ts).Sublist (closingParens (ts ++ [u])) :=
      (List.sublist_append_left ts [u]).filter _
    exact h.closings_sublist.trans (hfront.trans (closingParens_cons t (ts ++ [u])))

/-- The same for the calls in a list of arguments. -/
theorem Arguments.closings_sublist {us : List Token} {args : List Expr} :
    Arguments us args → (closingsAll args).Sublist (closingParens us)
  | .none => List.Sublist.refl []
  | .one h => by
    rw [closingsAll, closingsAll, List.append_nil]
    exact h.closings_sublist
  | @Arguments.more ts us t _ _ h _ hs _ => by
    rw [closingsAll, closingParens_append]
    exact h.closings_sublist.append (hs.closings_sublist.trans (closingParens_cons t us))

end

-- ---------------------------------------------------------------------------
-- Tokens that stand further on
-- ---------------------------------------------------------------------------

/-- An atom that stands further on. -/
theorem Atom.shift {t : Token} {e : Expr} (x : Extent) (h : Atom t e) :
    Atom (t.shift x) (e.shift x) := by
  cases h with
  | number h => exact .number (t := t.shift x) h
  | string h => exact .string (t := t.shift x) h
  | true h => exact .true (t := t.shift x) h
  | false h => exact .false (t := t.shift x) h
  | nil h => exact .nil (t := t.shift x) h
  | identifier h => exact .identifier (t := t.shift x) h

mutual

/-- Tokens that stand further on derive the tree that stands further on. -/
theorem Derives.shift {s : Category} {ts : List Token} {e : Expr} (x : Extent) :
    Derives s ts e → Derives s (ts.map (·.shift x)) (e.shift x)
  | .expression h => .expression (h.shift x)
  | .operand h => .operand (h.shift x)
  | .join (t := t) ha ht hb => by
    rw [shift_join, List.map_append]
    exact .join (t := t.shift x) (ha.shift x) ht (hb.shift x)
  | .sign (t := t) ht h => by
    rw [shift_applyUnary]
    exact .sign (t := t.shift x) ht (h.shift x)
  | .unsigned h => .unsigned (h.shift x)
  | .apply (t := t) (u := u) hf ht hargs hmax hu => by
    rw [shift_applyCall]
    simp only [List.map_append, List.map_cons, List.map_nil]
    exact .apply (t := t.shift x) (u := u.shift x) (hf.shift x) ht (hargs.shift x)
      (by rwa [List.length_map]) hu
  | .uncalled h => .uncalled (h.shift x)
  | .atom h => .atom (h.shift x)
  | .group (t := t) (u := u) ht h hu => by
    rw [shift_parenthesize]
    simp only [List.map_append, List.map_cons, List.map_nil]
    exact .group (t := t.shift x) (u := u.shift x) ht (h.shift x) hu

/-- Arguments that stand further on. -/
theorem Arguments.shift {us : List Token} {args : List Expr} (x : Extent) :
    Arguments us args → Arguments (us.map (·.shift x)) (args.map (·.shift x))
  | .none => .none
  | .one h => .one (h.shift x)
  | .more (t := t) h ht hs hne => by
    rw [List.map_append]
    exact .more (t := t.shift x) (h.shift x) ht (hs.shift x) (by simpa using hne)

end

-- ---------------------------------------------------------------------------
-- Tokens that look the same
-- ---------------------------------------------------------------------------

/-- What is looked at in tokens, and what it then fixes of the trees that are read from them:
all that is left after a rewriting which makes the places of all nodes the same. -/
structure Fixes {β : Type} (look : Token → β) (r : Relabeling) : Prop where
  places : r.NodesPlaceless
  kind : ∀ {t u}, look u = look t → u.kind = t.kind
  closing : ∀ {t u}, t.kind = .rightParen → look u = look t → r.closing u = r.closing t
  atom : ∀ {t u e}, Atom t e → look u = look t → ∃ e', Atom u e' ∧ e'.relabel r = e.relabel r

section Fixes

variable {β : Type} {look : Token → β} {r : Relabeling}

mutual

/-- Tokens that look the same derive trees of which the same is left. -/
theorem Fixes.derives (hr : Fixes look r) {s : Category} {ts us : List Token} {e : Expr} :
    Derives s ts e → us.map look = ts.map look →
      ∃ e', Derives s us e' ∧ e'.relabel r = e.relabel r
  | .expression h, hk => by
    obtain ⟨e', h', hs⟩ := hr.derives h hk
    exact ⟨e', .expression h', hs⟩
  | .operand h, hk => by
    obtain ⟨e', h', hs⟩ := hr.derives h hk
    exact ⟨e', .operand h', hs⟩
  | .join ha ht hb, hk => by
    rw [List.map_append, List.map_cons] at hk
    obtain ⟨us₁, us₂, rfl, hk₁, hk₂⟩ := List.map_eq_append_iff.1 hk
    obtain ⟨u, us₃, rfl, hku, hk₃⟩ := List.map_eq_cons_iff.1 hk₂
    obtain ⟨a', ha', hsa⟩ := hr.derives ha hk₁
    obtain ⟨b', hb', hsb⟩ := hr.derives hb hk₃
    exact ⟨_, .join ha' (hr.kind hku ▸ ht) hb', hr.places.join _ hsa hsb⟩
  | .sign ht h, hk => by
    rw [List.map_cons] at hk
    obtain ⟨u, us', rfl, hku, hk'⟩ := List.map_eq_cons_iff.1 hk
    obtain ⟨e', h', hs⟩ := hr.derives h hk'
    exact ⟨_, .sign (hr.kind hku ▸ ht) h', hr.places.applyUnary _ _ _ hs⟩
  | .unsigned h, hk => by
    obtain ⟨e', h', hs⟩ := hr.derives h hk
    exact ⟨e', .unsigned h', hs⟩
  | @Derives.apply _ _ _ _ _ args hf ht hargs hmax hu, hk => by
    simp only [List.map_append, List.map_cons, List.map_nil] at hk
    -- the other tokens fall apart where these do
    obtain ⟨us₁, us₂, rfl, hk₁, hk₂⟩ := List.map_eq_append_iff.1 hk
    obtain ⟨v, us₃, rfl, hkv, hk₃⟩ := List.map_eq_cons_iff.1 hk₂
    obtain ⟨us₄, us₅, rfl, hk₄, hk₅⟩ := List.map_eq_append_iff.1 hk₃
    obtain ⟨w, us₆, rfl, hkw, hk₆⟩ := List.map_eq_cons_iff.1 hk₅
    obtain rfl := List.map_eq_nil_iff.1 hk₆
    obtain ⟨f', hf', hsf⟩ := hr.derives hf hk₁
    obtain ⟨args', hargs', hsargs⟩ := hr.arguments hargs hk₄
    have hlen : args'.length = args.length := by simpa using congrArg List.length hsargs
    exact ⟨_, .apply hf' ((hr.kind hkv).trans ht) hargs' (hlen ▸ hmax) ((hr.kind hkw).trans hu),
      hr.places.applyCall (hr.closing hu hkw) hsf hsargs⟩
  | .uncalled h, hk => by
    obtain ⟨e', h', hs⟩ := hr.derives h hk
    exact ⟨e', .uncalled h', hs⟩
  | .atom h, hk => by
    obtain ⟨u, us', rfl, hku, hk'⟩ := List.map_eq_cons_iff.1 hk
    obtain rfl := List.map_eq_nil_iff.1 hk'
    obtain ⟨e', h', hs⟩ := hr.atom h hku
    exact ⟨e', .atom h', hs⟩
  | .group ht h hu, hk => by
    simp only [List.map_append, List.map_cons, List.map_nil] at hk
    obtain ⟨v, us₁, rfl, hkv, hk₁⟩ := List.map_eq_cons_iff.1 hk
    obtain ⟨us₂, us₃, rfl, hk₂, hk₃⟩ := List.map_eq_append_iff.1 hk₁
    obtain ⟨w, us₄, rfl, hkw, hk₄⟩ := List.map_eq_cons_iff.1 hk₃
    obtain rfl := List.map_eq_nil_iff.1 hk₄
    obtain ⟨e', h', hs⟩ := hr.derives h hk₂
    exact ⟨_, .group ((hr.kind hkv).trans ht) h' ((hr.kind hkw).trans hu),
      hr.places.parenthesize _ _ _ _ hs⟩

/-- The same for lists of arguments, of which there are as many. -/
theorem Fixes.arguments (hr : Fixes look r) {ts us : List Token} {args : List Expr} :
    Arguments ts args → us.map look = ts.map look →
      ∃ args', Arguments us args' ∧ args'.map (relabel r) = args.map (relabel r)
  | .none, hk => by
    obtain rfl := List.map_eq_nil_iff.1 hk
    exact ⟨[], .none, rfl⟩
  | .one h, hk => by
    obtain ⟨e', h', hs⟩ := hr.derives h hk
    exact ⟨[e'], .one h', congrArg (fun e => [e]) hs⟩
  | .more h ht hs hne, hk => by
    rw [List.map_append, List.map_cons] at hk
    obtain ⟨us₁, us₂, rfl, hk₁, hk₂⟩ := List.map_eq_append_iff.1 hk
    obtain ⟨v, us₃, rfl, hkv, hk₃⟩ := List.map_eq_cons_iff.1 hk₂
    obtain ⟨e', h', he⟩ := hr.derives h hk₁
    obtain ⟨es', hs', hes⟩ := hr.arguments hs hk₃
    have hne' : es' ≠ [] := by
      rintro rfl
      exact hne (List.map_eq_nil_iff.1 hes.symm)
    exact ⟨e' :: es', .more h' ((hr.kind hkv).trans ht) hs' hne',
      by rw [List.map_cons, List.map_cons, he, hes]⟩

end

end Fixes

/-- A token of the same kind is a tree of which the same is left, if the same is left of its
literal and of its name. -/
theorem Atom.ofKind {t u : Token} {e : Expr} (h : Atom t e) (hk : u.kind = t.kind)
    {r : Relabeling} (hr : r.NodesPlaceless)
    (hliteral : r.literal (u.literal.getD .nil) = r.literal (t.literal.getD .nil))
    (hname : r.name u.lexeme = r.name t.lexeme) :
    ∃ e', Atom u e' ∧ e'.relabel r = e.relabel r := by
  cases h with
  | number h => exact ⟨_, .number (hk.trans h), by simp only [relabel, hliteral, hr.place]⟩
  | string h => exact ⟨_, .string (hk.trans h), by simp only [relabel, hliteral, hr.place]⟩
  | true h => exact ⟨_, .true (hk.trans h), by simp only [relabel, hr.place]⟩
  | false h => exact ⟨_, .false (hk.trans h), by simp only [relabel, hr.place]⟩
  | nil h => exact ⟨_, .nil (hk.trans h), by simp only [relabel, hr.place]⟩
  | identifier h => exact ⟨_, .identifier (hk.trans h), by simp only [relabel, hname, hr.place]⟩

/-- Tokens of the same kinds derive a tree of the same shape. -/
theorem Derives.ofKinds {s : Category} {ts us : List Token} {e : Expr} (h : Derives s ts e)
    (hk : us.map Token.kind = ts.map Token.kind) : ∃ e', Derives s us e' ∧ e'.shape = e.shape :=
  have hr := placeless_shape.toNodesPlaceless
  Fixes.derives ⟨hr, id, fun _ _ => rfl, fun h hk => h.ofKind hk hr rfl rfl⟩ h hk

end Reckoner.Grammar
