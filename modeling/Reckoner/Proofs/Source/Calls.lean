import Reckoner.Proofs.Evaluation.Calls
import Reckoner.Proofs.Source.Coverage
import Reckoner.Proofs.Source.Reading

/-!
# Reckoner — the calls of a text

A text that stands for an expression shows which functions its evaluation may call, and in
which order: calls are made in the order of their closing parentheses. The parentheses of a
text all stand in places of their own, so each call is made at most once (`ofSource_calls`).
-/

namespace Reckoner

open Reckoner.Expr Reckoner.Grammar

variable {σ : Type}

/-- The calls of an expression are closed by parentheses of the text, one behind the other. -/
theorem ofSource_closings {source : String} {e : Expr} (h : Expr.ofSource source = .ok e) :
    (∀ t ∈ e.closings, t.kind = .rightParen) ∧
      e.closings.Pairwise fun t u => t.span.start < u.span.start := by
  obtain ⟨ts, hts, hd⟩ := ofSource_eq_ok_iff.1 h
  have hparens := hd.closings_sublist
  refine ⟨fun t ht => ?_, hts.starts_increasing.sublist (hparens.trans List.filter_sublist)⟩
  exact of_decide_eq_true (List.mem_filter.1 (hparens.subset ht)).2

/-- **Which calls are made, and in which order.** Let a text stand for an expression; its
calls are closed by parentheses that stand one behind the other. In every environment, from
every state of every host, the evaluation makes calls of nodes that it reaches, each at
most once and in the order of the bytes at which they are closed. If it succeeds, then it
makes the call of a node exactly when the node is not skipped: when it does not lie in a
right operand that the value of the left operand decides against. If it fails, then it
ends where a node stops it, and no call is made that is closed behind that node. What is
called is found to be no function after all the arguments: the evaluation fails in one of
them, or in the run that they leave. -/
theorem ofSource_calls {source : String} {e : Expr} (h : Expr.ofSource source = .ok e)
    (env : Environment) (host : Host σ) (s : Run σ) :
    ((∀ t ∈ e.closings, t.kind = .rightParen) ∧
      e.closings.Pairwise fun t u => t.span.start < u.span.start) ∧
    ∃ made, Makes host made s ((e.evaluate env host).final s) ∧
      (made.Pairwise fun c d => c.closing.span.start < d.closing.span.start) ∧
      (∀ c ∈ made, Applies env host e s c) ∧
      (∀ v s₁, e.evaluate env host s = .ok v s₁ → ∀ f args t p, e.Contains (.call f args t p) →
        (t ∈ made.map Call.closing ↔ ¬ Skips env host e s (.call f args t p))) ∧
      (∀ failure s₁, e.evaluate env host s = .error failure s₁ →
        ∃ n s' pre post, Reaches env host e s n s' ∧ Stops env host n s' failure s₁ ∧
          e.closings = pre ++ n.closings ++ post ∧
          (made.map Call.closing).Sublist (pre ++ n.closings)) ∧
      ∀ f args t p s' s₁ v, Reaches env host e s (.call f args t p) s' →
        f.evaluate env host s' = .ok v s₁ → (∀ g, v ≠ .function g) →
        (∃ failure s₂, evaluateAll env host args s₁ = .error failure s₂ ∧
          e.evaluate env host s = .error failure s₂) ∨
        ∃ vs s₂, evaluateAll env host args s₁ = .ok vs s₂ ∧
          e.evaluate env host s = .error ((OperandFault.callee v t.line).failure p) s₂ := by
  obtain ⟨hparens, hclosings⟩ := ofSource_closings h
  obtain ⟨made, hmade, hsites, happlies⟩ := evaluate_passes env host e s
  have hnodup : e.closings.Nodup := hclosings.imp fun hlt heq => by
    rw [heq] at hlt
    exact Nat.lt_irrefl _ hlt
  have hordered := hclosings.sublist hsites
  rw [List.pairwise_map] at hordered
  refine ⟨⟨hparens, hclosings⟩, made, hmade, hordered, happlies,
    fun v s₁ hv f args t p hn => ?_, fun failure s₁ hfails => ?_,
    fun f args t p s' s₁ v hn hf hv => ?_⟩
  · exact applied_iff_not_skipped hnodup hv hmade hn
  · exact made_before_stop hfails hmade
  · exact hn.refuses hf hv

/-- A call as the argument of another one, and a third that is skipped: the host counts two
calls, and the inner one comes first. -/
theorem ofSource_calls_nested :
    let env := Environment.empty.define "f" (.function ⟨"f", none, .hosted, 0⟩)
    let host : Host Nat := ⟨fun _ _ count => ⟨.ok (.bool true), count + 1, []⟩⟩
    ∃ e v s₁ made, Expr.ofSource "f(f()) or f()" = .ok e ∧
      e.evaluate env host ⟨0, #[]⟩ = .ok v s₁ ∧ s₁.host = 2 ∧ Makes host made ⟨0, #[]⟩ s₁ ∧
      made.map (fun c => c.closing.span.start) = [4, 5] := by
  intro env host
  let f₁ : Token := ⟨.identifier, "f", none, 1, ⟨0, 1⟩⟩
  let open₁ : Token := ⟨.leftParen, "(", none, 1, ⟨1, 2⟩⟩
  let f₂ : Token := ⟨.identifier, "f", none, 1, ⟨2, 3⟩⟩
  let open₂ : Token := ⟨.leftParen, "(", none, 1, ⟨3, 4⟩⟩
  let close₂ : Token := ⟨.rightParen, ")", none, 1, ⟨4, 5⟩⟩
  let close₁ : Token := ⟨.rightParen, ")", none, 1, ⟨5, 6⟩⟩
  let or : Token := ⟨.keyword .or, "or", none, 1, ⟨7, 9⟩⟩
  let f₃ : Token := ⟨.identifier, "f", none, 1, ⟨10, 11⟩⟩
  let open₃ : Token := ⟨.leftParen, "(", none, 1, ⟨11, 12⟩⟩
  let close₃ : Token := ⟨.rightParen, ")", none, 1, ⟨12, 13⟩⟩
  have hsplits : Token.Splits [] .origin "f(f()) or f()".toList
      [f₁, open₁, f₂, open₂, close₂, close₁, or, f₃, open₃, close₃] :=
    @Token.Splits.token _ _ _ [] _ _ _ rfl rfl <|
      @Token.Splits.token _ _ _ [] _ _ _ rfl rfl <|
      @Token.Splits.token _ _ _ [] _ _ _ rfl rfl <|
      @Token.Splits.token _ _ _ [] _ _ _ rfl rfl <|
      @Token.Splits.token _ _ _ [] _ _ _ rfl rfl <|
      @Token.Splits.token _ _ _ [] _ _ _ rfl rfl <| .blank rfl <|
      @Token.Splits.token _ _ _ ['r'] _ _ _ rfl rfl <| .blank rfl <|
      @Token.Splits.token _ _ _ [] _ _ _ rfl rfl <|
      @Token.Splits.token _ _ _ [] _ _ _ rfl rfl <|
      @Token.Splits.token _ _ _ [] _ _ _ rfl rfl <| .done _
  have hname (t : Token) (ht : t.kind = .identifier) : Derives .call [t] _ :=
    .uncalled (.atom (.identifier ht))
  have hinner : Derives .call [f₂, open₂, close₂] _ :=
    @Derives.apply [f₂] [] open₂ close₂ _ _ (hname f₂ rfl) rfl .none (by decide) rfl
  have houter : Derives .call [f₁, open₁, f₂, open₂, close₂, close₁] _ :=
    @Derives.apply [f₁] [f₂, open₂, close₂] open₁ close₁ _ _ (hname f₁ rfl) rfl
      (.one hinner.toExpression) (by decide) rfl
  have hskipped : Derives .call [f₃, open₃, close₃] _ :=
    @Derives.apply [f₃] [] open₃ close₃ _ _ (hname f₃ rfl) rfl .none (by decide) rfl
  have hlevel {ts : List Token} {e : Expr} (h : Derives .call ts e) : Derives (.level .and) ts e :=
    .operand (.operand (.operand (.operand (.operand (.unsigned h)))))
  have hor : Derives (.level .or)
      ([f₁, open₁, f₂, open₂, close₂, close₁] ++ or :: [f₃, open₃, close₃]) _ :=
    .join (.operand (hlevel houter)) .or (hlevel hskipped)
  have hsource := ofSource_eq_ok_iff.2 ⟨_, hsplits, hor.toExpression⟩
  obtain ⟨-, made, hmade, -⟩ := ofSource_calls hsource env host ⟨0, #[]⟩
  have hcalls := hmade.calls
  refine ⟨_, _, _, made, hsource, rfl, rfl, hmade, ?_⟩
  rw [← List.nil_append made]
  exact congrArg (List.map fun c => c.closing.span.start) hcalls.symm

end Reckoner
