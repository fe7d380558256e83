import Reckoner.CommandLine.Arguments
import Reckoner.Proofs.Environment.Prelude
import Reckoner.Proofs.Evaluation.Gist
import Reckoner.Proofs.Number.Text
import Reckoner.Proofs.Source.Reading
import Reckoner.Proofs.Text.Trimming

/-!
# Reckoner — one reading of numbers

Texts are read as numbers in three places: in an expression, by `num`, and as the value of a
binding of the command line. All three make the same of a written number, and of what is shown of
a number they make this number again.

Main result: `numbers_read_alike`.
-/

namespace Reckoner

open Number CommandLine Grammar Lexeme

variable {σ : Type} {k : Nat} {x : Float}

-- ---------------------------------------------------------------------------
-- In an expression
-- ---------------------------------------------------------------------------

namespace Number

/-- A written number is one token, which derives a literal. -/
theorem Written.exists_token {w : String} (hw : Written w.toList) (hx : ofText? w = some x)
    (start : Position) :
    ∃ t p, Token.Splits [] start w.toList [t] ∧ Derives .primary [t] (.literal (.number x) p) := by
  obtain ⟨t, hsplits, hlexeme⟩ := Token.splits_word hw.ofKind start
  have hfaithful := hsplits.faithful t (List.mem_singleton_self t)
  have hkind := hfaithful.kind_eq hlexeme hw.ofKind
  obtain ⟨y, hy, hliteral⟩ := literal_number hw
  obtain rfl : x = y := Option.some.inj (hx.symm.trans hy)
  have hatom := Derives.atom (.number hkind)
  rw [hfaithful.literal_eq, hkind, hlexeme, hliteral] at hatom
  exact ⟨t, _, hsplits, hatom⟩

/-- A written number stands for a literal. -/
theorem Written.ofSource {w : String} (hw : Written w.toList) (hx : ofText? w = some x) :
    ∃ p, Expr.ofSource w = .ok (.literal (.number x) p) := by
  obtain ⟨t, p, hsplits, hatom⟩ := hw.exists_token hx .origin
  exact ⟨p, ofSource_eq_ok_iff.2 ⟨[t], hsplits, hatom.toExpression⟩⟩

/-- With a minus sign in front, it stands for the negation of a literal. -/
theorem Written.ofSource_minus {w : String} (hw : Written w.toList) (hx : ofText? w = some x) :
    ∃ p q, Expr.ofSource (String.ofList ('-' :: w.toList)) =
      .ok (.unary .negate (.literal (.number x) p) q) := by
  obtain ⟨t, p, hsplits, hatom⟩ := hw.exists_token hx (Position.origin.after ['-'])
  let minus := Token.ofLexeme .minus ['-'] .origin (Position.origin.after ['-'])
  have hminus : Token.Splits [] .origin ('-' :: ([] ++ w.toList)) [minus, t] :=
    .token rfl rfl hsplits
  have hnegation : Derives .unary [minus, t] (.applyUnary .negate minus _) :=
    .sign .negate (.unsigned (.uncalled hatom))
  refine ⟨p, _, ofSource_eq_ok_iff.2 ⟨[minus, t], ?_, hnegation.toExpression⟩⟩
  rw [String.toList_ofList]
  exact hminus

end Number

section

variable (env : Environment) (host : Host σ) (s : Run σ)

theorem evaluateSource_number {w : String} {p : Place}
    (h : Expr.ofSource w = .ok (.literal (.number x) p)) :
    ∃ s₁, evaluateSource env host w s = .ok (.number x) s₁ := by
  rw [evaluateSource_of_ok h]
  exact ⟨_, rfl⟩

theorem evaluateSource_negation {w : String} {p q : Place}
    (h : Expr.ofSource w = .ok (.unary .negate (.literal (.number x) p) q)) :
    ∃ s₁, evaluateSource env host w s = .ok (.number (-x)) s₁ := by
  rw [evaluateSource_of_ok h]
  exact ⟨_, rfl⟩

/-- What a finite number is shown as is evaluated to it: as a literal, or as the negation of
one if it carries a minus sign. -/
theorem evaluateSource_text (h : x.isFinite) :
    (isNegative x → ∃ e p, Expr.ofSource (text x) = .ok (.unary .negate e p)) ∧
      ∃ s₁, evaluateSource env host (text x) s = .ok (.number x) s₁ := by
  have hle : unsignedBits x ≤ Magnitude.infinityBits := Nat.le_of_lt ((isFinite_iff x).1 h)
  have hwritten := (decimalOf x.abs).chars_spec.1
  rw [← @String.toList_ofList (decimalOf x.abs).chars] at hwritten
  rw [text_of_isFinite h]
  cases hsign : isNegative x with
  | false =>
    obtain ⟨p, hsource⟩ := hwritten.ofSource (ofText?_chars h)
    have hvalue := evaluateSource_number env host s hsource
    rw [abs_eq_self hle hsign] at hvalue ⊢
    exact ⟨fun hnegative => absurd hnegative Bool.false_ne_true, hvalue⟩
  | true =>
    obtain ⟨p, q, hsource⟩ := hwritten.ofSource_minus (ofText?_chars h)
    rw [String.toList_ofList] at hsource
    have hvalue := evaluateSource_negation env host s hsource
    rw [neg_abs_eq_self hle hsign] at hvalue
    exact ⟨fun _ => ⟨_, _, hsource⟩, hvalue⟩

end

-- ---------------------------------------------------------------------------
-- By the prelude and on the command line
-- ---------------------------------------------------------------------------

theorem CommandLine.Binding.decode_of_ofText? {text : String} (h : ofText? text = some x) :
    Binding.decode text = .number x := by
  have htrue : ofText? "true" = none := by decide +kernel
  have hfalse : ofText? "false" = none := by decide +kernel
  have hnil : ofText? "nil" = none := by decide +kernel
  unfold Binding.decode
  split
  · cases htrue.symm.trans h
  · cases hfalse.symm.trans h
  · cases hnil.symm.trans h
  · rw [h]

theorem call_num {g : Function} (hg : (Environment.prelude k).get "num" = .function g)
    {text : String} (h : ofText? (Text.trim text) = some x) (host : Host σ) (s : Run σ) :
    g.call host [.string text] s = .ok (.number x) s := by
  have happly : Builtin.num.apply [.string text] = .ok (.number x) := by
    unfold Builtin.apply Builtin.compute Builtin.applyOne
    simp only [h]
    rfl
  rw [@Function.call_prelude _ _ _ .num hg [.string text] (fun n hn => Option.some.inj hn), happly]
  rfl

-- ---------------------------------------------------------------------------
-- White space
-- ---------------------------------------------------------------------------

theorem isWhiteSpace_of_isDigit {c : Char} (h : c.isDigit) : Text.isWhiteSpace c = false := by
  simp only [Char.isDigit, Bool.and_eq_true, decide_eq_true_eq] at h
  have hlow : 48 ≤ c.toNat := h.1
  have hhigh : c.toNat ≤ 57 := h.2
  rw [← Bool.not_eq_true]
  intro hwhite
  obtain ⟨⟨first, last⟩, hmem, hin⟩ := List.any_eq_true.1 hwhite
  simp only [Bool.and_eq_true, decide_eq_true_eq] at hin
  -- the ranges of white space are below the digits or above them
  have hrange : ∀ range ∈ Text.whiteSpaceRanges, range.2 < 48 ∨ 57 < range.1 := by decide
  have := hrange _ hmem
  omega

namespace Number

/-- There is no white space in a written number, -/
theorem Written.isWhiteSpace {w : List Char} (h : Written w) :
    ∀ c ∈ w, Text.isWhiteSpace c = false := by
  intro c hc
  rcases h.mem c hc with hdigit | rfl
  · exact isWhiteSpace_of_isDigit hdigit
  · rfl

/-- nor in what is shown of a number. -/
theorem isWhiteSpace_text (hnan : ¬ x.isNaN) :
    ∀ c ∈ (text x).toList, Text.isWhiteSpace c = false := by
  have hsize : ∀ c ∈ if x.isFinite then (decimalOf x.abs).chars else "inf".toList,
      Text.isWhiteSpace c = false := by
    split
    · exact (decimalOf x.abs).chars_spec.1.isWhiteSpace
    · exact List.forall_mem_cons.2
        ⟨rfl, List.forall_mem_cons.2 ⟨rfl, List.forall_mem_singleton.2 rfl⟩⟩
  unfold text
  rw [if_neg hnan, String.toList_ofList]
  split
  · exact List.forall_mem_cons.2 ⟨rfl, hsize⟩
  · exact hsize

end Number

-- ---------------------------------------------------------------------------
-- All readers
-- ---------------------------------------------------------------------------

/-- **Numbers are read alike.** Of digits, with or without a point and more digits, an expression,
`num` (with white space around them, or none) and a binding of the command line make the same
number. Of what is shown of a number they make this number again, down to its sign, an expression
by way of negation; infinities are no expressions. -/
theorem numbers_read_alike {g : Function} (hg : (Environment.prelude k).get "num" = .function g)
    {lead trail : String} (hlead : ∀ c ∈ lead.toList, Text.isWhiteSpace c)
    (htrail : ∀ c ∈ trail.toList, Text.isWhiteSpace c) (env : Environment) (host : Host σ)
    (s : Run σ) :
    (∀ w : String, Written w.toList → ∃ x,
      Binding.decode w = .number x ∧
      g.call host [.string (lead ++ w ++ trail)] s = .ok (.number x) s ∧
      ∃ s₁, evaluateSource env host w s = .ok (.number x) s₁) ∧
    ∀ x : Float, ¬ x.isNaN →
      let shown := (Value.number x).text
      Binding.decode shown = .number x ∧
      g.call host [.string (lead ++ shown ++ trail)] s = .ok (.number x) s ∧
      (x.isFinite → (isNegative x → ∃ e p, Expr.ofSource shown = .ok (.unary .negate e p)) ∧
        ∃ s₁, evaluateSource env host shown s = .ok (.number x) s₁) := by
  constructor
  · intro w hw
    obtain ⟨x, hx, -⟩ := literal_number hw
    obtain ⟨p, hsource⟩ := hw.ofSource hx
    refine ⟨x, Binding.decode_of_ofText? hx, call_num hg ?_ host s,
      evaluateSource_number env host s hsource⟩
    rw [Text.trim_surrounded hlead hw.isWhiteSpace htrail, hx]
  · intro x hnan shown
    have hread : ofText? shown = some x := ofText?_text hnan
    have htrim : Text.trim (lead ++ shown ++ trail) = shown :=
      Text.trim_surrounded hlead (isWhiteSpace_text hnan) htrail
    refine ⟨Binding.decode_of_ofText? hread, call_num hg ?_ host s, evaluateSource_text env host s⟩
    rw [htrim, hread]

/-- The text `007.50` between blanks, and what is shown of the zero that carries a minus sign and
of the infinity that does. -/
theorem numbers_read_alike_signed :
    let g := Builtin.num.function 11
    let host : Host Unit := Host.none
    let s : Run Unit := ⟨(), #[]⟩
    (Environment.prelude 0).get "num" = .function g ∧ Written "007.50".toList ∧
      g.call host [.string " \t007.50\n"] s = .ok (.number 7.5) s ∧
      Binding.decode "007.50" = .number 7.5 ∧
      (Value.number (-0)).text = "-0" ∧ Binding.decode "-0" = .number (-0) ∧
      (∃ s₁, evaluateSource .empty host "-0" s = .ok (.number (-0)) s₁) ∧
      (Value.number (infinity true)).text = "-inf" ∧
      Binding.decode "-inf" = .number (infinity true) := by
  intro g host s
  have hg : (Environment.prelude 0).get "num" = .function g := rfl
  have hwritten : Written "007.50".toList :=
    .decimal (c := '0') (d := '5') (w := ['0', '7']) (f := ['0']) rfl (List.all_eq_true.1 rfl) rfl
      (List.all_eq_true.1 rfl)
  have halike := @numbers_read_alike Unit 0 g hg " \t" "\n" (List.all_eq_true.1 rfl)
    (List.all_eq_true.1 rfl) .empty host s
  have hread : ofText? "007.50" = some 7.5 := by decide +kernel
  have hzero : (Value.number (-0)).text = "-0" := by decide +kernel
  have hinfinity : (Value.number (infinity true)).text = "-inf" := by decide +kernel
  obtain ⟨x, hdecode, hcall, -⟩ := halike.1 "007.50" hwritten
  obtain rfl : x = 7.5 :=
    Value.number.inj (hdecode.symm.trans (Binding.decode_of_ofText? hread))
  obtain ⟨hdecode', -, heval⟩ := halike.2 (-0) (by decide +kernel)
  obtain ⟨hdecode'', -, -⟩ := halike.2 (infinity true) (by decide +kernel)
  rw [hzero] at hdecode' heval
  rw [hinfinity] at hdecode''
  exact ⟨hg, hwritten, hcall, hdecode, hzero, hdecode', (heval (by decide +kernel)).2, hinfinity,
    hdecode''⟩

end Reckoner
