import Reckoner.Proofs.Evaluation.Gist
import Reckoner.Proofs.Grammar.Writing
import Reckoner.Proofs.Source.Reading

/-!
# Reckoner — what is written is read back

A tree is written with parentheses where they are needed, its words with single spaces
between them. The text stands for that tree, parentheses included, and is evaluated as
the tree itself is (`ofSource_spelled`).

The words of a text are its tokens, one by one (`LaidOut.splits`). So it is left to show
that tokens which are read from a spelling derive the tree that was spelled
(`ReadsBack`); this goes from the parts of a tree to the whole, and where a part is too
loose for its place, the parentheses around it mend that (`ReadsBack.enclose`).
-/

namespace Reckoner

open Grammar Reckoner.Expr Lexeme

-- ---------------------------------------------------------------------------
-- Every tree that can be written is written
-- ---------------------------------------------------------------------------

/-- The parts of a tree that can be written can be written. -/
theorem Expr.Writable.child {e c : Expr} (h : e.Writable) (hc : c ∈ e.children) : c.Writable :=
  fun n hn => h n (.child hc hn)

/-- It is enough to look at the node itself and at its children. -/
theorem Expr.Writable.intro {e : Expr} (hnode : e.WritableNode)
    (hchildren : ∀ c ∈ e.children, c.Writable) : e.Writable := by
  intro n hn
  cases hn with
  | self => exact hnode
  | child hc hn => exact hchildren _ hc n hn

/-- A tree that is spelled is spelled in parentheses too, where they are required. -/
theorem Spells.enclose {g : Expr} {ws : List String} (h : Spells g ws) (required : Category) :
    ∃ ws, Spells (enclose required g) ws := by
  unfold Expr.enclose
  split
  · exact ⟨_, .group h⟩
  · exact ⟨ws, h⟩

theorem Spells.cons {g : Expr} {gs : List Expr} {us vs : List String} (h : Spells g us)
    (hs : SpellsAll gs vs) : ∃ ws, SpellsAll (g :: gs) ws := by
  cases gs with
  | nil => exact ⟨us, .one h⟩
  | cons g' gs => exact ⟨_, .more h hs (List.cons_ne_nil g' gs)⟩

/-- Arguments that are spelled one by one are spelled as a list. -/
theorem exists_spellsAll {gs : List Expr} (h : ∀ g ∈ gs, ∃ ws, Spells g ws) :
    ∃ ws, SpellsAll gs ws := by
  induction gs with
  | nil => exact ⟨[], .none⟩
  | cons g gs ih =>
    obtain ⟨us, hus⟩ := h g (List.mem_cons_self ..)
    obtain ⟨vs, hvs⟩ := ih fun g hg => h g (List.mem_cons_of_mem _ hg)
    exact hus.cons hvs

/-- A tree that can be written has a spelling, parentheses included. -/
theorem Expr.Writable.spelled {e : Expr} (h : e.Writable) : ∃ ws, Spells e.guarded ws := by
  induction e with
  | literal v p =>
    have hnode := h _ (.self _)
    cases v with
    | number x =>
      obtain ⟨w, hw, hx⟩ := hnode
      exact ⟨[w], .number hw hx⟩
    | string s => exact ⟨_, .string hnode⟩
    | bool b => cases b with
      | true => exact ⟨_, .true⟩
      | false => exact ⟨_, .false⟩
    | nil => exact ⟨_, .nil⟩
  | var name p => exact ⟨_, .var (h _ (.self _))⟩
  | group e p ih =>
    obtain ⟨ws, hws⟩ := ih (h.child mem_group)
    obtain ⟨ws', hws'⟩ := hws.enclose .expression
    exact ⟨_, .group hws'⟩
  | unary op e p ih =>
    obtain ⟨ws, hws⟩ := ih (h.child mem_unary)
    obtain ⟨ws', hws'⟩ := hws.enclose .unary
    exact ⟨_, .unary hws'⟩
  | binary op a b p iha ihb =>
    obtain ⟨us, hus⟩ := iha (h.child left_mem_binary)
    obtain ⟨vs, hvs⟩ := ihb (h.child right_mem_binary)
    obtain ⟨us', hus'⟩ := hus.enclose (.level (Connective.binary op).level)
    obtain ⟨vs', hvs'⟩ := hvs.enclose (operandOf (Connective.binary op).level)
    exact ⟨_, .binary hus' hvs'⟩
  | logical op a b p iha ihb =>
    obtain ⟨us, hus⟩ := iha (h.child left_mem_logical)
    obtain ⟨vs, hvs⟩ := ihb (h.child right_mem_logical)
    obtain ⟨us', hus'⟩ := hus.enclose (.level (Connective.logical op).level)
    obtain ⟨vs', hvs'⟩ := hvs.enclose (operandOf (Connective.logical op).level)
    exact ⟨_, .logical hus' hvs'⟩
  | call f args t p ihf ihargs =>
    obtain ⟨us, hus⟩ := ihf (h.child callee_mem_call)
    obtain ⟨us', hus'⟩ := hus.enclose .call
    have hargs : ∀ g ∈ guardedAll args, ∃ ws, Spells g ws := by
      rw [guardedAll_eq_map]
      intro g hg
      obtain ⟨a, ha, rfl⟩ := List.mem_map.1 hg
      obtain ⟨ws, hws⟩ := ihargs a ha (h.child (arg_mem_call ha))
      exact hws.enclose .expression
    obtain ⟨vs, hvs⟩ := exists_spellsAll hargs
    exact ⟨_, .call hus' hvs⟩

-- ---------------------------------------------------------------------------
-- Trees of one token
-- ---------------------------------------------------------------------------

/-- However a tree is written, the tokens that are read from the words derive it from a
category, up to places. -/
def ReadsBack (s : Category) (g : Expr) : Prop :=
  ∀ ts ws, Token.ReadFrom ts ws → Spells g ws → ∃ e, Derives s ts e ∧ e.bare = g.bare

/-- A literal is one token, and the value of the token is that of the literal. -/
theorem readsBack_literal (l : Literal) (p : Place) : ReadsBack .primary (.literal l p) := by
  intro ts ws hts hspells
  cases hspells with
  | @number x _ w hw hx =>
    obtain ⟨t, rfl, hkind, -, hliteral⟩ := hts.single hw.ofKind
    -- the scanner's number is the one that the text stands for
    obtain ⟨y, hy, hnumber⟩ := Number.literal_number hw
    obtain rfl : x = y := Option.some.inj (hx.symm.trans hy)
    refine ⟨_, .atom (.number hkind), ?_⟩
    rw [hliteral, hnumber]
    rfl
  | @string s _ hs =>
    obtain ⟨t, rfl, hkind, -, hliteral⟩ := hts.single (ofKind_quoted hs)
    refine ⟨_, .atom (.string hkind), ?_⟩
    rw [hliteral, literal_quoted]
    rfl
  | true =>
    obtain ⟨t, rfl, hkind, -, -⟩ := hts.single (ofKind_keyword .true)
    exact ⟨_, .atom (.true hkind), rfl⟩
  | false =>
    obtain ⟨t, rfl, hkind, -, -⟩ := hts.single (ofKind_keyword .false)
    exact ⟨_, .atom (.false hkind), rfl⟩
  | nil =>
    obtain ⟨t, rfl, hkind, -, -⟩ := hts.single (ofKind_keyword .nil)
    exact ⟨_, .atom (.nil hkind), rfl⟩

/-- A name is one token, which is no keyword. -/
theorem readsBack_var (name : String) (p : Place) : ReadsBack .primary (.var name p) := by
  intro ts ws hts hspells
  cases hspells with
  | var hn =>
    obtain ⟨t, rfl, hkind, hlexeme, -⟩ := hts.single hn.ofKind
    refine ⟨_, .atom (.identifier hkind), ?_⟩
    rw [hlexeme]
    rfl

-- ---------------------------------------------------------------------------
-- From the parts of a tree to the whole
-- ---------------------------------------------------------------------------

/-- What is read back as a category is read back as any looser one. -/
theorem ReadsBack.loosen {s r : Category} {g : Expr} (h : ReadsBack s g)
    (hr : r.tightness ≤ s.tightness) : ReadsBack r g := by
  intro ts ws hts hspells
  obtain ⟨e, he, hbare⟩ := h ts ws hts hspells
  exact ⟨e, he.loosen hr, hbare⟩

/-- Between parentheses any expression may stand. -/
theorem ReadsBack.group {g : Expr} (h : ReadsBack .expression g) (p : Place) :
    ReadsBack .primary (.group g p) := by
  intro ts ws hts hspells
  cases hspells with
  | group hg =>
    obtain ⟨opening, rest, rfl, hopening, hrest⟩ := hts.cons ofKind_leftParen
    obtain ⟨inner, closing, rfl, hclosing, hinner⟩ := hrest.concat ofKind_rightParen
    obtain ⟨e, he, hbare⟩ := h inner _ hinner hg
    exact ⟨_, .group hopening he hclosing, placeless_bare.parenthesize opening _ closing _ hbare⟩

theorem ReadsBack.unary {g : Expr} (h : ReadsBack .unary g) (op : UnaryOp) (p : Place) :
    ReadsBack .unary (.unary op g p) := by
  intro ts ws hts hspells
  cases hspells with
  | unary hg =>
    obtain ⟨k, hsign, hk⟩ := op.exists_sign
    obtain ⟨t, rest, rfl, ht, hrest⟩ := hts.cons hk
    obtain ⟨e, he, hbare⟩ := h rest _ hrest hg
    exact ⟨_, .sign (ht ▸ hsign) he, placeless_bare.applyUnary _ t _ hbare⟩

/-- Two operands with an operator between them are read back as its application. -/
theorem ReadsBack.join {c : Connective} {a b : Expr} {k : TokenKind} {symbol : String}
    {ts : List Token} {us vs : List String} (ha : ReadsBack (.level c.level) a)
    (hb : ReadsBack (operandOf c.level) b) (hop : Operator c.level k c)
    (hk : OfKind k symbol.toList) (hts : Token.ReadFrom ts (us ++ symbol :: vs))
    (hsa : Spells a us) (hsb : Spells b vs) :
    ∃ e, Derives (.level c.level) ts e ∧ e.bare = (Expr.join c a b).bare := by
  obtain ⟨ts₁, t, ts₂, rfl, ht, h₁, h₂⟩ := hts.split hk
  obtain ⟨a', ha', hbarea⟩ := ha ts₁ _ h₁ hsa
  obtain ⟨b', hb', hbareb⟩ := hb ts₂ _ h₂ hsb
  exact ⟨_, .join ha' (ht ▸ hop) hb', placeless_bare.join c hbarea hbareb⟩

/-- An operator is read back where its left operand is read back as a chain of its level, and the
right one as a single operand. -/
theorem ReadsBack.binary {op : BinaryOp} {a b : Expr}
    (ha : ReadsBack (.level (Connective.binary op).level) a)
    (hb : ReadsBack (operandOf (Connective.binary op).level) b) (p : Place) :
    ReadsBack (.level (Connective.binary op).level) (.binary op a b p) := by
  intro ts ws hts hspells
  cases hspells with
  | binary hsa hsb =>
    obtain ⟨k, hop, hk⟩ := op.exists_operator
    exact ha.join hb hop hk hts hsa hsb

/-- The same for a logical connective. -/
theorem ReadsBack.logical {op : LogicalOp} {a b : Expr}
    (ha : ReadsBack (.level (Connective.logical op).level) a)
    (hb : ReadsBack (operandOf (Connective.logical op).level) b) (p : Place) :
    ReadsBack (.level (Connective.logical op).level) (.logical op a b p) := by
  intro ts ws hts hspells
  cases hspells with
  | logical hsa hsb =>
    obtain ⟨k, hop, hk⟩ := op.exists_operator
    exact ha.join hb hop hk hts hsa hsb

/-- Arguments are read back as a list if they are read back one by one. -/
theorem readsBack_arguments {gs : List Expr} (h : ∀ g ∈ gs, ReadsBack .expression g)
    {ts : List Token} {ws : List String} (hts : Token.ReadFrom ts ws) (hspells : SpellsAll gs ws) :
    ∃ es, Arguments ts es ∧ es.map bare = gs.map bare := by
  induction gs generalizing ts ws with
  | nil =>
    cases hspells
    obtain rfl := List.map_eq_nil_iff.1 hts.lexemes
    exact ⟨[], .none, rfl⟩
  | cons g gs ih =>
    cases hspells with
    | one hg =>
      obtain ⟨e, he, hbare⟩ := h g (List.mem_cons_self ..) ts ws hts hg
      exact ⟨[e], .one he, congrArg (fun e => [e]) hbare⟩
    | more hg hgs hne =>
      obtain ⟨ts₁, t, ts₂, rfl, ht, h₁, h₂⟩ := hts.split ofKind_comma
      obtain ⟨e, he, hbare⟩ := h g (List.mem_cons_self ..) ts₁ _ h₁ hg
      obtain ⟨es, hes, hbares⟩ := ih (fun g hg => h g (List.mem_cons_of_mem _ hg)) h₂ hgs
      have hne' : es ≠ [] := by
        rintro rfl
        exact hne (List.map_eq_nil_iff.1 hbares.symm)
      exact ⟨e :: es, .more he ht hes hne', by rw [List.map_cons, List.map_cons, hbare, hbares]⟩

/-- A call of up to eight arguments is read back behind its callee. -/
theorem ReadsBack.call {f : Expr} {args : List Expr} (hf : ReadsBack .call f)
    (hargs : ∀ a ∈ args, ReadsBack .expression a) (hmax : args.length ≤ 8) (t : Token) (p : Place) :
    ReadsBack .call (.call f args t p) := by
  intro ts ws hts hspells
  cases hspells with
  | call hsf hsargs =>
    obtain ⟨ts₁, opening, ts₂, rfl, hopening, h₁, h₂⟩ := hts.split ofKind_leftParen
    obtain ⟨inner, closing, rfl, hclosing, hinner⟩ := h₂.concat ofKind_rightParen
    obtain ⟨f', hf', hbaref⟩ := hf ts₁ _ h₁ hsf
    obtain ⟨args', hargs', hbares⟩ := readsBack_arguments hargs hinner hsargs
    have hlen : args'.length = args.length := by simpa using congrArg List.length hbares
    exact ⟨_, .apply hf' hopening hargs' (hlen ▸ hmax) hclosing,
      placeless_bare.applyCall (placeless_bare.closing_eq _ closing) hbaref hbares⟩

/-- Parentheses mend what is too loose for its place. -/
theorem ReadsBack.enclose {e : Expr} (h : ReadsBack e.category e.guarded) (required : Category) :
    ReadsBack required (e.guarded.enclose required) := by
  unfold Expr.enclose
  rw [category_guarded]
  split
  · have hgroup := (h.loosen (Nat.zero_le _ : Category.expression.tightness ≤ _)).group default
    exact hgroup.loosen required.tightness_le
  · next htight => exact h.loosen (Nat.le_of_not_lt htight)

/-- **A tree with the parentheses that it needs is read back.** -/
theorem Expr.Writable.readsBack {e : Expr} (h : e.Writable) : ReadsBack e.category e.guarded := by
  induction e with
  | literal l p => exact readsBack_literal l p
  | var name p => exact readsBack_var name p
  | group e p ih =>
    have he := ih (h.child mem_group)
    exact (he.enclose .expression).group p
  | unary op e p ih =>
    have he := ih (h.child mem_unary)
    exact (he.enclose .unary).unary op p
  | binary op a b p iha ihb =>
    have ha := iha (h.child left_mem_binary)
    have hb := ihb (h.child right_mem_binary)
    exact (ha.enclose _).binary (hb.enclose _) p
  | logical op a b p iha ihb =>
    have ha := iha (h.child left_mem_logical)
    have hb := ihb (h.child right_mem_logical)
    exact (ha.enclose _).logical (hb.enclose _) p
  | call f args t p ihf ihargs =>
    have hf := ihf (h.child callee_mem_call)
    have hmax : (guardedAll args).length ≤ 8 := by
      rw [guardedAll_eq_map, List.length_map]
      exact h _ (.self _)
    refine (hf.enclose .call).call ?_ hmax t p
    rw [guardedAll_eq_map]
    intro g hg
    obtain ⟨a, ha, rfl⟩ := List.mem_map.1 hg
    exact (ihargs a ha (h.child (arg_mem_call ha))).enclose .expression

-- ---------------------------------------------------------------------------
-- Parentheses and evaluation
-- ---------------------------------------------------------------------------

/-- Parentheses make no difference to what is left without them. -/
theorem ungroup_enclose (required : Category) (g : Expr) :
    (g.enclose required).ungroup = g.ungroup := by
  unfold Expr.enclose
  split
  · rw [Expr.ungroup]
  · rfl

/-- The parentheses that a tree needs are all that is put into it. -/
theorem ungroup_guarded (e : Expr) : e.guarded.ungroup = e.ungroup := by
  induction e with
  | literal | var => rfl
  | group e p ih => rw [guarded, Expr.ungroup, Expr.ungroup, ungroup_enclose, ih]
  | unary op e p ih => rw [guarded, Expr.ungroup, Expr.ungroup, ungroup_enclose, ih]
  | binary op a b p iha ihb | logical op a b p iha ihb =>
    rw [guarded, Expr.ungroup, Expr.ungroup, ungroup_enclose, ungroup_enclose, iha, ihb]
  | call f args t p ihf ihargs =>
    rw [guarded, Expr.ungroup, Expr.ungroup, ungroup_enclose, ihf, guardedAll_eq_map,
      ungroupAll_eq_map, ungroupAll_eq_map, List.map_map]
    congr 1
    refine List.map_congr_left fun a ha => ?_
    exact (ungroup_enclose _ _).trans (ihargs a ha)

/-- Trees that differ in places, and in parentheses that are needed, evaluate alike. -/
theorem gist_evaluate_of_bare {σ : Type} {parsed e : Expr} (h : parsed.bare = e.guarded.bare)
    (env : Environment) (host : Host σ) (s : Run σ) :
    gist (parsed.evaluate env host s) = gist (e.evaluate env host s) := by
  rw [gist_evaluate_bare env host parsed rfl, h, ← gist_evaluate_bare env host e.guarded rfl,
    ← evaluate_ungroup env host e.guarded, ungroup_guarded, evaluate_ungroup]

/-- **What is written is read back.** A tree that can be written has a spelling, with
parentheses exactly around the parts that are too loose for their place. And whatever its
spelling, the words with single spaces between them are a text that stands for the tree
with these parentheses, up to places; and the text is evaluated, in every environment and
from every run, to what the tree is evaluated to: the same value, or a failure of the
same stage and message, with the same calls on the way. -/
theorem ofSource_spelled (e : Expr) (h : e.Writable) :
    (∃ ws, Spells e.guarded ws) ∧
    ∀ ws, Spells e.guarded ws →
      ∃ parsed, Expr.ofSource (" ".intercalate ws) = .ok parsed ∧
        parsed.bare = e.guarded.bare ∧
        ∀ (σ : Type) (env : Environment) (host : Host σ) (s : Run σ),
          gist (evaluateSource env host (" ".intercalate ws) s) =
            gist (e.evaluate env host s) := by
  refine ⟨h.spelled, fun ws hws => ?_⟩
  obtain ⟨ts, hsplits, hread⟩ := Token.exists_readFrom ws hws.areTokens
  obtain ⟨parsed, hd, hbare⟩ := h.readsBack ts ws hread hws
  have hsource := ofSource_eq_ok_iff.2 ⟨ts, hsplits, hd.toExpression⟩
  refine ⟨parsed, hsource, hbare, fun σ env host s => ?_⟩
  rw [gist_evaluateSource hsource, gist_evaluate_of_bare hbare]

/-- `a - (2.50 - b)`: the right operand of a difference needs parentheses if it is one. -/
theorem ofSource_spelled_difference :
    let x := (Number.ofText? "2.50").getD 0
    let difference : Expr := .binary .sub (.literal (.number x) default) (.var "b" default) default
    let e : Expr := .binary .sub (.var "a" default) difference default
    e.Writable ∧ Spells e.guarded ["a", "-", "(", "2.50", "-", "b", ")"] ∧
      ∃ parsed, Expr.ofSource "a - ( 2.50 - b )" = .ok parsed ∧
        parsed.bare = .binary .sub (.var "a" default) (.group difference default) default := by
  intro x difference e
  have hwritten : Number.Written "2.50".toList :=
    .decimal (c := '2') (d := '5') (w := []) (f := ['0']) rfl (List.all_eq_true.1 rfl) rfl
      (List.all_eq_true.1 rfl)
  have hx : Number.ofText? "2.50" = some x := by
    obtain ⟨y, hy, -⟩ := Number.literal_number hwritten
    show _ = some ((Number.ofText? "2.50").getD 0)
    rw [hy]
    rfl
  have ha : IsName "a" := ⟨'a', [], rfl, rfl, List.all_eq_true.1 rfl, rfl⟩
  have hb : IsName "b" := ⟨'b', [], rfl, rfl, List.all_eq_true.1 rfl, rfl⟩
  have hnumber : (Expr.literal (.number x) default).Writable :=
    .intro ⟨"2.50", hwritten, hx⟩ (fun c hc => absurd hc List.not_mem_nil)
  have hname {name : String} (h : IsName name) : (Expr.var name default).Writable :=
    .intro h (fun c hc => absurd hc List.not_mem_nil)
  have hpair {a b : Expr} (ha : a.Writable) (hb : b.Writable) :
      (Expr.binary .sub a b default).Writable := by
    refine .intro trivial fun c hc => ?_
    rcases List.mem_cons.1 hc with rfl | hc
    · exact ha
    · rwa [List.mem_singleton.1 hc]
  have he : e.Writable := hpair (hname ha) (hpair hnumber (hname hb))
  have hspells : Spells e.guarded (["a"] ++ "-" :: "(" :: ((["2.50"] ++ "-" :: ["b"]) ++ [")"])) :=
    .binary (.var ha) (.group (.binary (.number hwritten hx) (.var hb)))
  obtain ⟨parsed, hparsed, hbare, -⟩ := (ofSource_spelled e he).2 _ hspells
  exact ⟨he, hspells, parsed, hparsed, hbare⟩

end Reckoner
