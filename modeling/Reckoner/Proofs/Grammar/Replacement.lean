import Reckoner.Proofs.Grammar.Writing

/-!
# Reckoner — one expression in the place of another

The tokens of a node can be exchanged for other tokens, without a look at the rest of the text,
if these derive from the category that the node is read from and their tree takes the same place.
The place matters because the nodes above are placed by it.

Main results:

* `Derives.exchange` — the tokens of a child can be exchanged;
* `Derives.replace` — so can those of a node at any depth;
* `Derives.replace_parenthesized` — an expression in parentheses can stand for any node: it
  derives from the tightest category, and so from every other one.
-/

namespace Reckoner.Grammar

open Reckoner.Expr

/-- Among tokens that derive a tree, those of a node can be exchanged for others that derive from
the category of the node, as a tree in the same place. The tree around the node is given as a
function of what stands there. -/
def Exchangeable (s : Category) (ts : List Token) (around : Expr → Expr) (n : Expr) : Prop :=
  ∃ xs ms ys r, ts = xs ++ ms ++ ys ∧ Derives r ms n ∧
    ∀ us m, Derives r us m → m.place = n.place → Derives s (xs ++ us ++ ys) (around m)

theorem Exchangeable.imp {s s' : Category} {ts : List Token} {around : Expr → Expr} {n : Expr}
    (h : Exchangeable s ts around n) (hs : ∀ {us e}, Derives s us e → Derives s' us e) :
    Exchangeable s' ts around n := by
  obtain ⟨xs, ms, ys, r, rfl, hm, hall⟩ := h
  exact ⟨xs, ms, ys, r, rfl, hm, fun us m hu hp => hs (hall us m hu hp)⟩

-- ---------------------------------------------------------------------------
-- Children
-- ---------------------------------------------------------------------------

/-- Either operand can be left out of two operands joined by an operator. -/
theorem fill_eq_join {c : Connective} {a b n : Expr} {frame : Frame}
    (h : frame.fill n = join c a b) :
    (n = a ∧ ∀ m, m.place = a.place → frame.fill m = join c m b) ∨
      (n = b ∧ ∀ m, m.place = b.place → frame.fill m = join c a m) := by
  cases c <;> cases frame <;> cases h
  case binary.binaryLeft | logical.logicalLeft =>
    exact .inl ⟨rfl, fun m hm => by simp only [Frame.fill, join, Expr.span, Expr.line, hm]⟩
  case binary.binaryRight | logical.logicalRight =>
    exact .inr ⟨rfl, fun m hm => by simp only [Frame.fill, join, Expr.span, Expr.line, hm]⟩

/-- The tokens of an argument can be exchanged, whatever place the other tree takes. -/
theorem Arguments.exchange {us : List Token} {args before after : List Expr} {n : Expr} :
    Arguments us args → args = before ++ n :: after →
      ∃ xs ms ys, us = xs ++ ms ++ ys ∧ Derives .expression ms n ∧
        ∀ vs m, Derives .expression vs m → Arguments (xs ++ vs ++ ys) (before ++ m :: after)
  | .none, hargs => by simp at hargs
  | @Arguments.one ts _ h, hargs => by
    cases before with
    | nil =>
      cases hargs
      exact ⟨[], ts, [], by simp, h, fun vs m hm => by simpa using Arguments.one hm⟩
    | cons e before => simp at hargs
  | @Arguments.more ts us t _ _ h ht hs hne, hargs => by
    cases before with
    | nil =>
      cases hargs
      exact ⟨[], ts, t :: us, rfl, h, fun vs m hm => .more hm ht hs hne⟩
    | cons e before =>
      obtain ⟨rfl, hrest⟩ := List.cons.inj hargs
      obtain ⟨xs, ms, ys, rfl, hm, hall⟩ := hs.exchange hrest
      refine ⟨ts ++ t :: xs, ms, ys, by simp, hm, fun vs m hv => ?_⟩
      simpa using Arguments.more h ht (hall vs m hv) (by simp)

/-- The tokens of either operand can be exchanged. -/
theorem Exchangeable.join {l : Level} {ts us : List Token} {t : Token} {a b n : Expr}
    {c : Connective} {frame : Frame} (ha : Derives (.level l) ts a) (ht : Operator l t.kind c)
    (hb : Derives (operandOf l) us b) (he : frame.fill n = Expr.join c a b) :
    Exchangeable (.level l) (ts ++ t :: us) frame.fill n := by
  rcases fill_eq_join he with ⟨rfl, hfill⟩ | ⟨rfl, hfill⟩
  · refine ⟨[], ts, t :: us, .level l, rfl, ha, fun vs m hm hp => ?_⟩
    rw [hfill m hp]
    exact .join hm ht hb
  · refine ⟨ts ++ [t], us, [], operandOf l, by simp, hb, fun vs m hm hp => ?_⟩
    rw [hfill m hp]
    simpa using Derives.join ha ht hm

/-- The tokens of the operand of a sign can be exchanged. -/
theorem Exchangeable.sign {ts : List Token} {t : Token} {e n : Expr} {op : UnaryOp}
    {frame : Frame} (ht : Sign t.kind op) (h : Derives .unary ts e)
    (he : frame.fill n = applyUnary op t e) : Exchangeable .unary (t :: ts) frame.fill n := by
  cases frame <;> cases he
  refine ⟨[t], ts, [], .unary, by simp, h, fun vs m hm hp => ?_⟩
  have hsign := Derives.sign ht hm
  rw [applyUnary, Expr.span, hp] at hsign
  rwa [List.append_nil]

/-- The tokens of what is called can be exchanged, and so can those of any argument. -/
theorem Exchangeable.apply {ts us : List Token} {t u : Token} {f n : Expr} {args : List Expr}
    {frame : Frame} (hf : Derives .call ts f) (ht : t.kind = .leftParen)
    (hargs : Arguments us args) (hmax : args.length ≤ 8) (hu : u.kind = .rightParen)
    (he : frame.fill n = applyCall f args u) :
    Exchangeable .call (ts ++ t :: (us ++ [u])) frame.fill n := by
  cases frame <;> cases he
  case callee =>
    refine ⟨[], ts, t :: (us ++ [u]), .call, rfl, hf, fun vs m hm hp => ?_⟩
    have happly := Derives.apply hm ht hargs hmax hu
    rwa [applyCall, Expr.span, hp] at happly
  case argument before after =>
    obtain ⟨xs, ms, ys, rfl, hm, hall⟩ := hargs.exchange rfl
    refine ⟨ts ++ t :: xs, ms, ys ++ [u], .expression, by simp, hm, fun vs m hv _ => ?_⟩
    have hlength : (before ++ m :: after).length ≤ 8 := by simpa using hmax
    have happly := Derives.apply hf ht (hall vs m hv) hlength hu
    have hts : ts ++ t :: xs ++ vs ++ (ys ++ [u]) = ts ++ t :: (xs ++ vs ++ ys ++ [u]) := by simp
    rw [hts]
    exact happly

/-- An atom has no child. -/
theorem Exchangeable.atom {t : Token} {e n : Expr} {frame : Frame} (h : Atom t e)
    (he : frame.fill n = e) : Exchangeable .primary [t] frame.fill n := by
  cases h <;> cases frame <;> cases he

/-- The tokens between parentheses can be exchanged. -/
theorem Exchangeable.group {ts : List Token} {t u : Token} {e n : Expr} {frame : Frame}
    (ht : t.kind = .leftParen) (h : Derives .expression ts e) (hu : u.kind = .rightParen)
    (he : frame.fill n = parenthesize t u e) :
    Exchangeable .primary (t :: (ts ++ [u])) frame.fill n := by
  cases frame <;> cases he
  exact ⟨[t], ts, [u], .expression, by simp, h, fun vs m hm _ => .group ht hm hu⟩

/-- The tokens of a child can be exchanged. -/
theorem Derives.exchange {s : Category} {ts : List Token} {e n : Expr} {frame : Frame} :
    Derives s ts e → frame.fill n = e → Exchangeable s ts frame.fill n
  | .expression h, he => (h.exchange he).imp .expression
  | .operand h, he => (h.exchange he).imp .operand
  | .unsigned h, he => (h.exchange he).imp .unsigned
  | .uncalled h, he => (h.exchange he).imp .uncalled
  | .join ha ht hb, he => .join ha ht hb he
  | .sign ht h, he => .sign ht h he
  | .apply hf ht hargs hmax hu, he => .apply hf ht hargs hmax hu he
  | .atom h, he => .atom h he
  | .group ht h hu, he => .group ht h hu he

-- ---------------------------------------------------------------------------
-- Nodes
-- ---------------------------------------------------------------------------

/-- Nodes above a hole stay where they are. -/
theorem place_fill {ctx : Context} {m n : Expr} (h : m.place = n.place) :
    (ctx.fill m).place = (ctx.fill n).place := by
  cases ctx with
  | nil => exact h
  | cons frame ctx => cases frame <;> rfl

/-- **Replacement.** The tokens of a node, at any depth, can be exchanged. -/
theorem Derives.replace {s : Category} {ts : List Token} {n : Expr} {ctx : Context}
    (h : Derives s ts (ctx.fill n)) : Exchangeable s ts ctx.fill n := by
  induction ctx generalizing s ts with
  | nil => exact ⟨[], ts, [], s, (List.append_nil ts).symm, h, fun us m hm _ => by
      rwa [List.nil_append, List.append_nil]⟩
  | cons frame ctx ih =>
    obtain ⟨xs, ms, ys, r, rfl, hm, houter⟩ := h.exchange rfl
    obtain ⟨xs', ms', ys', r', rfl, hm', hinner⟩ := ih hm
    refine ⟨xs ++ xs', ms', ys' ++ ys, r', by simp, hm', fun us m hu hp => ?_⟩
    have hfilled :=
      houter (xs' ++ us ++ ys') (Context.fill ctx m) (hinner us m hu hp) (place_fill hp)
    have hts : xs ++ xs' ++ us ++ (ys' ++ ys) = xs ++ (xs' ++ us ++ ys') ++ ys := by simp
    rw [hts]
    exact hfilled

/-- A node can stand in parentheses wherever it stands, if these make it reach no further. -/
theorem Derives.replace_parenthesized {s : Category} {ts : List Token} {n : Expr} {ctx : Context}
    (h : Derives s ts (ctx.fill n)) :
    ∃ xs ms ys, ts = xs ++ ms ++ ys ∧ Derives .expression ms n ∧
      ∀ l r : Token, l.kind = .leftParen → r.kind = .rightParen →
        l.span.start = n.span.start → r.span.stop = n.span.stop → l.line = n.line →
        Derives s (xs ++ l :: (ms ++ [r]) ++ ys) (ctx.fill (parenthesize l r n)) := by
  obtain ⟨xs, ms, ys, category, rfl, hm, hall⟩ := h.replace
  refine ⟨xs, ms, ys, rfl, hm.toExpression, fun l r hl hr hstart hstop hline => ?_⟩
  have hgroup : Derives .primary (l :: (ms ++ [r])) (parenthesize l r n) :=
    .group hl hm.toExpression hr
  refine hall _ _ (hgroup.loosen category.tightness_le) ?_
  show (⟨⟨l.span.start, r.span.stop⟩, l.line⟩ : Place) = n.place
  rw [hstart, hstop, hline]
  rfl

end Reckoner.Grammar
