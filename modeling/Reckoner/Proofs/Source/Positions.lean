import Reckoner.Proofs.Source.Coverage

/-!
# Reckoner — where the nodes of a tree stand

A node of the expression that a text stands for stands on consecutive tokens of the text
(`Expr.StandsOn`): it reaches from the first of them to the last, its children stand inside
it one behind the other, and it is reported at a line that it reaches over.

Main results:

* `DeriveInOrder.apart` — nodes that are read one behind the other do not overlap;
* `Derives.standsOn` — where a node stands on the tokens that it is read from;
* `ofSource_stands` — the same of all nodes of a text, and the lines between which they are
  reported.
-/

namespace Reckoner

-- ---------------------------------------------------------------------------
-- Places of nodes
-- ---------------------------------------------------------------------------

namespace Expr

/-- A node stands on tokens, of which the first and the last are given. -/
structure StandsOn (first last : Token) (n : Expr) : Prop where
  span_eq : n.span = ⟨first.span.start, last.span.stop⟩
  line_eq : n.line = n.reportedLine first
  /-- What closes a call is a parenthesis, the last token of the call. -/
  closing_eq : ∀ f args t p, n = .call f args t p → t = last ∧ t.kind = .rightParen
  inside : ∀ c ∈ n.children, n.span.start ≤ c.span.start ∧ c.span.stop ≤ n.span.stop
  /-- The children stand one behind the other and do not overlap. -/
  apart : n.children.Pairwise fun a b => a.span.stop ≤ b.span.start

end Expr

/-- Tokens that stand one behind the other, none of them empty. -/
structure Token.InRow (ts : List Token) : Prop where
  increasing : ts.Pairwise fun t u => t.span.stop ≤ u.span.start
  start_lt_stop : ∀ t ∈ ts, t.span.start < t.span.stop

namespace Token.InRow

variable {ts us : List Token} {t u : Token}

theorem sublist (h : InRow ts) (hus : us.Sublist ts) : InRow us :=
  ⟨h.increasing.sublist hus, fun t ht => h.start_lt_stop t (hus.subset ht)⟩

theorem first_le (h : InRow (t :: ts)) (hu : u ∈ t :: ts) : t.span.start ≤ u.span.start := by
  rcases List.mem_cons.1 hu with rfl | hu
  · exact Nat.le_refl _
  · have hbehind := (List.pairwise_cons.1 h.increasing).1 u hu
    have hnonempty := h.start_lt_stop t (List.mem_cons_self ..)
    omega

theorem le_last (h : InRow (ts ++ [t])) (hu : u ∈ ts ++ [t]) : u.span.stop ≤ t.span.stop := by
  rcases List.mem_append.1 hu with hu' | hu'
  · have hbefore := (List.pairwise_append.1 h.increasing).2.2 u hu' t (List.mem_singleton_self t)
    have hnonempty := h.start_lt_stop t (List.mem_append_right _ (List.mem_singleton_self t))
    omega
  · rw [List.mem_singleton.1 hu']

end Token.InRow

theorem Token.Splits.inRow {behind cs : List Char} {p : Position} {ts : List Token}
    (h : Token.Splits behind p cs ts) : Token.InRow ts := by
  refine ⟨h.increasing, fun t ht => ?_⟩
  obtain ⟨before, after, hstands⟩ := h.stands t ht
  exact hstands.start_lt_stop

-- ---------------------------------------------------------------------------
-- Nodes on their tokens
-- ---------------------------------------------------------------------------

namespace Grammar

open Reckoner.Expr

/-- A call is closed by its last token, which is a closing parenthesis. -/
theorem Derives.closing_eq {s : Category} {ts : List Token} {e f : Expr} {args : List Expr}
    {t : Token} {p : Place} :
    Derives s ts e → e = .call f args t p → t.kind = .rightParen ∧ ∃ front, ts = front ++ [t]
  | .expression h, he | .operand h, he | .unsigned h, he | .uncalled h, he => h.closing_eq he
  | .join (c := c) _ _ _, he => by cases c <;> cases he
  | .sign _ _, he => by cases he
  | @Derives.apply ts us opening _ _ _ _ _ _ _ hu, he => by
    cases he
    exact ⟨hu, ts ++ opening :: us, by simp⟩
  | .atom h, he => by cases h <;> cases he
  | .group _ _ _, he => by cases he

/-- What is read from a part of some tokens starts and stops with one of them. -/
theorem DerivesWithin.bounds {ts : List Token} {e : Expr} (h : DerivesWithin ts e) :
    ∃ t ∈ ts, ∃ u ∈ ts, e.span.start = t.span.start ∧ e.span.stop = u.span.stop := by
  obtain ⟨xs, ms, ys, rfl, hd⟩ := h
  obtain ⟨t, rest, hms, hstart, -⟩ := hd.first
  obtain ⟨front, u, hms', hstop⟩ := hd.last
  exact ⟨t, by simp [hms], u, by simp [hms'], hstart, hstop⟩

/-- Nodes that are read one behind the other do not overlap. -/
theorem DeriveInOrder.apart {ts : List Token} {es : List Expr} (h : DeriveInOrder ts es)
    (hrow : Token.InRow ts) : es.Pairwise fun a b => a.span.stop ≤ b.span.start := by
  induction es generalizing ts with
  | nil => exact .nil
  | cons e es ih =>
    obtain ⟨xs, ms, ys, rfl, hd, hrest⟩ := h
    have hys : Token.InRow ys := hrow.sublist (List.sublist_append_right _ _)
    refine .cons (fun b hb => ?_) (ih hrest hys)
    obtain ⟨front, u, rfl, hstop⟩ := hd.last
    obtain ⟨t, ht, -, -, hstart, -⟩ := (hrest.member hb).bounds
    have hu : u ∈ xs ++ (front ++ [u]) := by simp
    rw [hstop, hstart]
    exact (List.pairwise_append.1 hrow.increasing).2.2 u hu t ht

/-- Where a node stands on the tokens that it is read from. -/
theorem Derives.standsOn {s : Category} {ts : List Token} {e : Expr} (h : Derives s ts e)
    (hrow : Token.InRow ts) :
    ∃ first last, ts.head? = some first ∧ ts.getLast? = some last ∧ e.StandsOn first last := by
  obtain ⟨first, rest, hts, hstart, -⟩ := h.first
  obtain ⟨front, last, hts', hstop⟩ := h.last
  obtain ⟨first', rest', heq, hline⟩ := h.line_eq
  obtain ⟨rfl, rfl⟩ := List.cons.inj (hts.symm.trans heq)
  refine ⟨first, last, by rw [hts]; rfl, by rw [hts', List.getLast?_concat], ?_⟩
  refine ⟨by rw [← hstart, ← hstop], hline, fun f args t p he => ?_, fun c hc => ?_,
    h.children_inOrder.apart hrow⟩
  · obtain ⟨hkind, front', heq⟩ := h.closing_eq he
    have hlast : [t] = [last] := List.append_inj_right' (heq.symm.trans hts') rfl
    exact ⟨List.singleton_inj.1 hlast, hkind⟩
  · obtain ⟨t, ht, u, hu, hcstart, hcstop⟩ := (h.child hc).bounds
    rw [hstart, hstop, hcstart, hcstop]
    constructor
    · rw [hts] at hrow ht
      exact hrow.first_le ht
    · rw [hts'] at hrow hu
      exact hrow.le_last hu

end Grammar

-- ---------------------------------------------------------------------------
-- Nodes of a text
-- ---------------------------------------------------------------------------

open Grammar

/-- A token of a stretch starts on a line that the stretch reaches over. -/
theorem Token.Splits.line_bounds {behind cs : List Char} {p : Position} {ts : List Token}
    {t : Token} (h : Token.Splits behind p cs ts) (ht : t ∈ ts) :
    p.line ≤ t.line ∧ t.line ≤ (p.after cs).line := by
  obtain ⟨before, after, hstands⟩ := h.stands t ht
  rw [hstands.line_eq, hstands.text_eq, List.append_assoc, Position.after_line,
    Position.after_line, List.count_append]
  omega

/-- **Where the nodes of a tree stand.** A text stands for an expression, and each node of that,
at any depth, derives from consecutive tokens of the text. The node reaches from where the first
of them starts to where the last one ends. Its children stand inside it, one behind the other,
without overlapping, and a call is closed by its last token. A leaf, an expression in parentheses
and an operator in front of an operand are reported at the line of the first token, a call at the
line of the parenthesis that closes it, and an operator between two operands at the line of the
left one; so the line lies between those on which the node starts and ends. -/
theorem ofSource_stands {source : String} {e : Expr} (h : Expr.ofSource source = .ok e) :
    ∃ ts mark, Token.scan source = .ok (ts ++ [mark]) ∧ mark.kind = .endOfInput ∧
      ∀ n, e.Contains n → ∃ xs ms ys first last, ts = xs ++ ms ++ ys ∧
        Derives .expression ms n ∧ ms.head? = some first ∧ ms.getLast? = some last ∧
        n.StandsOn first last ∧
        ∃ before piece after, n.span.Cuts source before piece after ∧
          n.span.start < n.span.stop ∧ 1 + before.toList.count '\n' ≤ n.line ∧
          n.line ≤ 1 + (before ++ piece).toList.count '\n' := by
  obtain ⟨ts, hts, hd⟩ := ofSource_eq_ok_iff.1 h
  refine ⟨ts, _, Token.scanFrom_eq_ok_iff.2 ⟨ts, hts, rfl⟩, rfl, fun n hn => ?_⟩
  obtain ⟨xs, ms, ys, rfl, hm⟩ := hd.contains hn
  have hrow : Token.InRow ms := hts.inRow.sublist
    ((List.sublist_append_right xs ms).trans (List.sublist_append_left _ ys))
  obtain ⟨first, last, hfirst, hlast, hstands⟩ := hm.standsOn hrow
  refine ⟨xs, ms, ys, first, last, rfl, hm, hfirst, hlast, hstands, ?_⟩
  -- the piece of the text that the tokens of the node span
  obtain ⟨t, rest, hms, hstart, -⟩ := hm.first
  obtain ⟨before, piece, after, hsource, hstart, hstop, -, hpiece, -⟩ :=
    hts.slice ⟨t, rest, hms, hstart⟩ hm.last
  have hne : piece ≠ [] := hpiece.ne_nil (by simp [hms])
  rw [← Position.after_append] at hstop
  have hcuts := Span.cuts_of_append hsource hstart hstop
  obtain ⟨u, hu, hline⟩ := hm.line_mem
  have hbounds := hpiece.line_bounds hu
  rw [← Position.after_append, Position.line_origin_after, Position.line_origin_after] at hbounds
  refine ⟨.ofList before, .ofList piece, .ofList after, hcuts,
    hcuts.start_lt_stop (by simpa using hne), ?_, ?_⟩
  · rw [hline, String.toList_ofList]
    exact hbounds.1
  · rw [hline, ← String.ofList_append, String.toList_ofList]
    exact hbounds.2

/-- A call over three lines in front of an operator: it starts on the first line and is reported
at the third, and so is the sum. -/
theorem ofSource_stands_over_lines :
    let source := "f(\n\"\"\n) + -x"
    let call : Expr := .call (.var "f" ⟨⟨0, 1⟩, 1⟩) [.literal (.string "") ⟨⟨3, 5⟩, 2⟩]
      ⟨.rightParen, ")", none, 3, ⟨6, 7⟩⟩ ⟨⟨0, 7⟩, 3⟩
    let e : Expr := .binary .add call (.unary .negate (.var "x" ⟨⟨11, 12⟩, 3⟩) ⟨⟨10, 12⟩, 3⟩)
      ⟨⟨0, 12⟩, 3⟩
    Expr.ofSource source = .ok e ∧ e.Contains call ∧
      ∃ ts mark, Token.scan source = .ok (ts ++ [mark]) ∧
        ∃ xs ms ys first last, ts = xs ++ ms ++ ys ∧ Derives .expression ms call ∧
          call.StandsOn first last ∧
          ∃ before piece after, call.span.Cuts source before piece after ∧
            1 + before.toList.count '\n' ≤ call.line ∧
            call.line ≤ 1 + (before ++ piece).toList.count '\n' := by
  intro source call e
  let f : Token := ⟨.identifier, "f", none, 1, ⟨0, 1⟩⟩
  let opening : Token := ⟨.leftParen, "(", none, 1, ⟨1, 2⟩⟩
  let string : Token := ⟨.string, "\"\"", some (.string ""), 2, ⟨3, 5⟩⟩
  let closing : Token := ⟨.rightParen, ")", none, 3, ⟨6, 7⟩⟩
  let plus : Token := ⟨.plus, "+", none, 3, ⟨8, 9⟩⟩
  let minus : Token := ⟨.minus, "-", none, 3, ⟨10, 11⟩⟩
  let x : Token := ⟨.identifier, "x", none, 3, ⟨11, 12⟩⟩
  have hsplits : Token.Splits [] .origin "f(\n\"\"\n) + -x".toList
      [f, opening, string, closing, plus, minus, x] :=
    @Token.Splits.token _ _ _ [] _ _ _ rfl rfl <|
      @Token.Splits.token _ _ _ [] _ _ _ rfl rfl <| .blank rfl <|
      @Token.Splits.token _ _ _ ['"'] _ _ _ rfl rfl <| .blank rfl <|
      @Token.Splits.token _ _ _ [] _ _ _ rfl rfl <| .blank rfl <|
      @Token.Splits.token _ _ _ [] _ _ _ rfl rfl <| .blank rfl <|
      @Token.Splits.token _ _ _ [] _ _ _ rfl rfl <|
      @Token.Splits.token _ _ _ [] _ _ _ rfl rfl <| .done _
  have hname (t : Token) (ht : t.kind = .identifier) : Derives .call [t] _ :=
    .uncalled (.atom (.identifier ht))
  have hargument : Derives .call [string] (.literal (.string "") ⟨⟨3, 5⟩, 2⟩) :=
    .uncalled (.atom (.string (t := string) rfl))
  have hcall : Derives .call [f, opening, string, closing] call :=
    @Derives.apply [f] [string] opening closing _ _ (hname f rfl) rfl
      (.one hargument.toExpression) (by decide) rfl
  have hleft : Derives (.level .term) [f, opening, string, closing] call :=
    .operand (.operand (.unsigned hcall))
  have hsum : Derives (.level .term) [f, opening, string, closing, plus, minus, x] e :=
    .join (t := plus) hleft .add (.operand (.sign (t := minus) .negate (.unsigned (hname x rfl))))
  have he : Expr.ofSource source = .ok e := ofSource_eq_ok_iff.2 ⟨_, hsplits, hsum.toExpression⟩
  have hn : e.Contains call := .child Expr.left_mem_binary (.self call)
  obtain ⟨ts, mark, hscan, -, hnodes⟩ := ofSource_stands he
  obtain ⟨xs, ms, ys, first, last, hts, hm, -, -, hstands, before, piece, after, hcuts, -,
    hlines⟩ := hnodes call hn
  exact ⟨he, hn, ts, mark, hscan, xs, ms, ys, first, last, hts, hm, hstands, before, piece, after,
    hcuts, hlines⟩

end Reckoner
