import Reckoner.Proofs.Source.Reading

/-!
# Reckoner — every part of a text stands for itself

A node of the expression that a text stands for covers a piece of the text. That piece,
read as a text of its own, stands for the very same node, which only stands further to
the front (`ofSource_contains`). Three things come together:

* the node derives from consecutive tokens (`Derives.contains`);
* these are the tokens of the piece that they span (`Splits.slice`);
* tokens that stand further to the front derive the node that stands further to the
  front (`Derives.unshift`).
-/

namespace Reckoner

open Grammar

/-- What derives from tokens that stand further on is a tree that stands further on. -/
theorem Grammar.Derives.unshift {s : Category} {us : List Token} {e : Expr} {x : Extent}
    (h : Derives s (us.map (·.shift x)) e) : ∃ m, Derives s us m ∧ m.shift x = e := by
  have hkinds : us.map Token.kind = (us.map (·.shift x)).map Token.kind := by
    rw [List.map_map]
    rfl
  obtain ⟨m, hm, -⟩ := h.ofKinds hkinds
  exact ⟨m, hm, (hm.shift x).unique h⟩

/-- A node covers a piece of the text that stands for it, further to the front. -/
theorem ofSource_piece {source : String} {e n : Expr} (h : Expr.ofSource source = .ok e)
    (hn : e.Contains n) :
    ∃ before piece after, n.span.Cuts source before piece after ∧ piece ≠ "" ∧
      ∃ m, Expr.ofSource piece = .ok m ∧ m.shift (Extent.of before.toList) = n := by
  -- the tokens of the node, and the piece that they span
  obtain ⟨ts, hts, hd⟩ := ofSource_eq_ok_iff.1 h
  obtain ⟨xs, ms, ys, rfl, hm⟩ := hd.contains hn
  obtain ⟨t, rest, hms, hstart, -⟩ := hm.first
  obtain ⟨before, piece, after, hsource, hstart, hstop, -, hpiece, -⟩ :=
    hts.slice ⟨t, rest, hms, hstart⟩ hm.last
  have hne : piece ≠ [] := hpiece.ne_nil (by simp [hms])
  rw [← Position.after_append] at hstop
  have hcuts := Span.cuts_of_append hsource hstart hstop
  refine ⟨.ofList before, .ofList piece, .ofList after, hcuts, by simpa using hne, ?_⟩
  -- the same tokens at the front of a text of their own
  rw [Position.after_eq_shift] at hpiece
  obtain ⟨us, hus, rfl⟩ := hpiece.unshift
  obtain ⟨m, hm, hshift⟩ := hm.unshift
  refine ⟨m, ofSource_eq_ok_iff.2 ⟨us, ?_, hm⟩, ?_⟩
  · rw [String.toList_ofList]
    exact hus
  · rw [String.toList_ofList]
    exact hshift

/-- **Every node stands for itself.** The span of a node, at any depth of what a text
stands for, cuts the text at boundaries of characters and is not empty; and the piece
that it covers stands for that node, except that it stands further to the front by what
is before the piece: shifted by the bytes and the lines of that, it is the node. -/
theorem ofSource_contains {source : String} {e n : Expr} (h : Expr.ofSource source = .ok e)
    (hn : e.Contains n) :
    ∃ before piece after, n.span.Cuts source before piece after ∧
      n.span.start < n.span.stop ∧ n.span.stop ≤ source.utf8ByteSize ∧
      ∃ m, Expr.ofSource piece = .ok m ∧ m.shift (Extent.of before.toList) = n := by
  obtain ⟨before, piece, after, hcuts, hne, hm⟩ := ofSource_piece h hn
  exact ⟨before, piece, after, hcuts, hcuts.start_lt_stop hne, hcuts.stop_le, hm⟩

/-- `-x` behind a string over two lines, of which a character takes up two bytes. -/
theorem ofSource_contains_behind_lines :
    let n : Expr := .unary .negate (.var "x" ⟨⟨9, 10⟩, 2⟩) ⟨⟨8, 10⟩, 2⟩
    let e : Expr := .binary .add (.literal (.string "é\n") ⟨⟨0, 5⟩, 1⟩) n ⟨⟨0, 10⟩, 1⟩
    Expr.ofSource "\"é\n\" + -x" = .ok e ∧ e.Contains n ∧
      ∃ before piece after, n.span.Cuts "\"é\n\" + -x" before piece after ∧
        ∃ m, Expr.ofSource piece = .ok m ∧ m.shift (Extent.of before.toList) = n := by
  intro n e
  let string : Token := ⟨.string, "\"é\n\"", some (.string "é\n"), 1, ⟨0, 5⟩⟩
  let plus : Token := ⟨.plus, "+", none, 2, ⟨6, 7⟩⟩
  let minus : Token := ⟨.minus, "-", none, 2, ⟨8, 9⟩⟩
  let x : Token := ⟨.identifier, "x", none, 2, ⟨9, 10⟩⟩
  have hsplits : Token.Splits [] .origin "\"é\n\" + -x".toList [string, plus, minus, x] :=
    @Token.Splits.token _ _ _ ['é', '\n', '"'] _ _ _ rfl rfl <| .blank rfl <|
      @Token.Splits.token _ _ _ [] _ _ _ rfl rfl <| .blank rfl <|
      @Token.Splits.token _ _ _ [] _ _ _ rfl rfl <|
      @Token.Splits.token _ _ _ [] _ _ _ rfl rfl <| .done _
  have hx : Derives .unary [x] (.var "x" ⟨⟨9, 10⟩, 2⟩) :=
    .unsigned (.uncalled (.atom (.identifier (t := x) rfl)))
  have hstring : Derives (.level .term) [string] (.literal (.string "é\n") ⟨⟨0, 5⟩, 1⟩) :=
    .operand (.operand (.unsigned (.uncalled (.atom (.string (t := string) rfl)))))
  have hsum : Derives (.level .term) [string, plus, minus, x] e :=
    .join (t := plus) hstring .add (.operand (.sign (t := minus) .negate hx))
  have he : Expr.ofSource "\"é\n\" + -x" = .ok e :=
    ofSource_eq_ok_iff.2 ⟨_, hsplits, hsum.toExpression⟩
  have hn : e.Contains n := .child (c := n) (by simp [e, Expr.children]) (.self n)
  obtain ⟨before, piece, after, hcuts, -, -, hm⟩ := ofSource_contains he hn
  exact ⟨he, hn, before, piece, after, hcuts, hm⟩

end Reckoner
