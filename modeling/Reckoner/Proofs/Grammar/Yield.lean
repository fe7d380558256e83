import Mathlib.Data.List.TakeWhile
import Reckoner.Proofs.Grammar.Acceptance

/-!
# Reckoner — reading a tree back

The leaves, operators, parentheses and commas of a tree, from left to right, are kinds of
tokens (`Expr.kinds`). A tree that was read from tokens gives back the kind of every one of
them. A number or a string that was made by hand may carry a literal of another kind, and
that is then the kind it shows as in a tree (`Token.shownKind`).

Main results:

* `Derives.kinds_eq` — a tree gives back the tokens that it derives from;
* `parse_leftover` — a token that cannot go on with the expression in front of it makes the
  reading fail;
* `parse_gives_back` — so a tree that is read from a list accounts for all of its tokens up
  to the first end mark, and for none behind that.
-/

namespace Reckoner

-- ---------------------------------------------------------------------------
-- Kinds that stand in a tree
-- ---------------------------------------------------------------------------

/-- The kind of token that a literal is written as. -/
def Literal.kind : Literal → TokenKind
  | .number _ => .number
  | .string _ => .string
  | .bool true => .keyword .true
  | .bool false => .keyword .false
  | .nil => .keyword .nil

/-- The kind of token that an operator is written as. -/
def UnaryOp.kind : UnaryOp → TokenKind
  | .not => .bang
  | .negate => .minus

/-- The kind of token that an operator is written as. -/
def Connective.kind : Connective → TokenKind
  | .logical .or => .keyword .or
  | .logical .and => .keyword .and
  | .binary .equal => .equalEqual
  | .binary .notEqual => .bangEqual
  | .binary .less => .less
  | .binary .lessEqual => .lessEqual
  | .binary .greater => .greater
  | .binary .greaterEqual => .greaterEqual
  | .binary .add => .plus
  | .binary .sub => .minus
  | .binary .mul => .star
  | .binary .div => .slash

mutual

/-- The kinds of the tokens that a tree is written as, from left to right. -/
def Expr.kinds : Expr → List TokenKind
  | .literal v _ => [v.kind]
  | .var _ _ => [.identifier]
  | .group e _ => .leftParen :: (e.kinds ++ [.rightParen])
  | .unary op e _ => op.kind :: e.kinds
  | .binary op a b _ => a.kinds ++ (Connective.binary op).kind :: b.kinds
  | .logical op a b _ => a.kinds ++ (Connective.logical op).kind :: b.kinds
  | .call f args _ _ => f.kinds ++ .leftParen :: (Expr.kindsAll args ++ [.rightParen])

/-- The kinds of the tokens that the arguments of a call are written as. -/
def Expr.kindsAll : List Expr → List TokenKind
  | [] => []
  | [e] => e.kinds
  | e :: es => e.kinds ++ .comma :: Expr.kindsAll es

end

/-- The kind that a token shows as in a tree: of a number or a string, the kind of the
literal that it carries. -/
def Token.shownKind (t : Token) : TokenKind :=
  match t.kind with
  | .number | .string => (t.literal.getD .nil).kind
  | kind => kind

/-- A token that carries a literal of its own kind, if it is a number or a string. -/
structure Token.CarriesOwn (t : Token) : Prop where
  number : t.kind = .number → ∃ x, t.literal = some (.number x)
  string : t.kind = .string → ∃ s, t.literal = some (.string s)

/-- A token with a literal of its own kind shows as what it is. -/
theorem Token.CarriesOwn.shownKind_eq {t : Token} (h : t.CarriesOwn) : t.shownKind = t.kind := by
  unfold Token.shownKind
  split
  · next hk =>
    obtain ⟨x, hx⟩ := h.number hk
    rw [hx, hk]
    rfl
  · next hk =>
    obtain ⟨s, hs⟩ := h.string hk
    rw [hs, hk]
    rfl
  · rfl

/-- Tokens that carry no literal always do. -/
theorem Token.shownKind_of_kind {t : Token} {k : TokenKind} (hk : t.kind = k)
    (hnumber : k ≠ .number) (hstring : k ≠ .string) : t.shownKind = k := by
  have hown : t.CarriesOwn :=
    ⟨fun h => absurd (hk.symm.trans h) hnumber, fun h => absurd (hk.symm.trans h) hstring⟩
  rw [hown.shownKind_eq, hk]

namespace Grammar

open Reckoner.Expr

-- ---------------------------------------------------------------------------
-- Derivations
-- ---------------------------------------------------------------------------

/-- An operator shows as the kind that its connective is written as. -/
theorem Operator.shownKind_eq {l : Level} {t : Token} {c : Connective}
    (h : Operator l t.kind c) : t.shownKind = c.kind := by
  generalize hk : t.kind = k at h
  cases h <;> exact t.shownKind_of_kind hk (by decide) (by decide)

theorem Sign.shownKind_eq {t : Token} {op : UnaryOp} (h : Sign t.kind op) :
    t.shownKind = op.kind := by
  generalize hk : t.kind = k at h
  cases h <;> exact t.shownKind_of_kind hk (by decide) (by decide)

/-- A leaf gives back its token. -/
theorem Atom.kinds_eq {t : Token} {e : Expr} (h : Atom t e) : e.kinds = [t.shownKind] := by
  cases h with
  | number hk | string hk =>
    rw [Token.shownKind, hk]
    rfl
  | true hk | false hk | nil hk | identifier hk =>
    rw [t.shownKind_of_kind hk (by decide) (by decide)]
    rfl

/-- A connective stands between its operands. -/
theorem kinds_join (c : Connective) (a b : Expr) :
    (join c a b).kinds = a.kinds ++ c.kind :: b.kinds := by
  cases c <;> rfl

/-- A comma stands behind every argument but the last. -/
theorem kindsAll_cons {e : Expr} {es : List Expr} (hne : es ≠ []) :
    kindsAll (e :: es) = e.kinds ++ .comma :: kindsAll es := by
  cases es with
  | nil => exact absurd rfl hne
  | cons => rfl

mutual

/-- **A tree gives back the tokens that it derives from**, kind by kind. -/
theorem Derives.kinds_eq {s : Category} {ts : List Token} {e : Expr} :
    Derives s ts e → e.kinds = ts.map Token.shownKind
  | .expression h | .operand h | .unsigned h | .uncalled h => h.kinds_eq
  | .join ha ht hb => by
    rw [kinds_join, ha.kinds_eq, hb.kinds_eq, List.map_append, List.map_cons, ht.shownKind_eq]
  | @Derives.sign _ t _ op ht h => by
    show op.kind :: _ = _
    rw [h.kinds_eq, List.map_cons, ht.shownKind_eq]
  | @Derives.apply _ _ t u _ args hf ht hargs _ hu => by
    have ht' := t.shownKind_of_kind ht (by decide) (by decide)
    have hu' := u.shownKind_of_kind hu (by decide) (by decide)
    show _ ++ .leftParen :: (kindsAll args ++ [.rightParen]) = _
    rw [hf.kinds_eq, hargs.kinds_eq]
    simp only [List.map_append, List.map_cons, List.map_nil, ht', hu']
  | .atom h => h.kinds_eq
  | @Derives.group _ t u _ ht h hu => by
    have ht' := t.shownKind_of_kind ht (by decide) (by decide)
    have hu' := u.shownKind_of_kind hu (by decide) (by decide)
    show TokenKind.leftParen :: (_ ++ [TokenKind.rightParen]) = _
    rw [h.kinds_eq]
    simp only [List.map_append, List.map_cons, List.map_nil, ht', hu']

/-- Arguments give back their tokens, commas included. -/
theorem Arguments.kinds_eq {us : List Token} {args : List Expr} :
    Arguments us args → kindsAll args = us.map Token.shownKind
  | .none => rfl
  | .one h => h.kinds_eq
  | @Arguments.more _ _ t _ _ h ht hs hne => by
    have ht' := t.shownKind_of_kind ht (by decide) (by decide)
    rw [kindsAll_cons hne, h.kinds_eq, hs.kinds_eq, List.map_append, List.map_cons, ht']

end

-- ---------------------------------------------------------------------------
-- Lists with end marks
-- ---------------------------------------------------------------------------

/-- A token that cannot go on with the expression in front of it makes the reading fail,
and is what the failure is about. -/
theorem parse_leftover {ts xs ys : List Token} {t : Token} {e : Expr}
    (hbody : body ts = xs ++ t :: ys) (he : Derives .expression xs e)
    (hcall : t.kind ≠ .leftParen) (hoperator : ∀ l c, ¬ Operator l t.kind c) :
    parse ts = .error
      { stage := .syntactic, message := s!"expected end of expression, found `{t.lexeme}`"
        line := some t.line, span := some t.span } := by
  have hends : Ends 7 (t :: ys) := by
    rintro t' us' ⟨⟩
    exact ⟨hcall, fun l c h => absurd h (hoperator l c)⟩
  obtain ⟨p, hread, -, hrest⟩ := he.completes _ _ rfl hends
  have hfault : ofTokens (body ts) = .error ⟨.leftover, t :: ys⟩ := by
    rw [hbody, ofTokens, hread]
    simp only [hrest]
  rw [parse, hfault]
  rfl

/-- The tokens that are no end marks: those in front of the first end mark, and others
behind it. -/
theorem filter_eq_body_append (ts : List Token) :
    ts.filter (·.kind ≠ .endOfInput) =
      body ts ++ (ts.drop (body ts).length).filter (·.kind ≠ .endOfInput) := by
  have hsplit : body ts ++ ts.drop (body ts).length = ts :=
    List.prefix_iff_eq_append.1 (List.takeWhile_prefix _)
  have hbody : (body ts).filter (·.kind ≠ .endOfInput) = body ts := by
    refine List.filter_eq_self.2 fun t ht => ?_
    have hkind := List.mem_takeWhile_imp ht
    exact hkind
  have hfilter := congrArg (List.filter (·.kind ≠ .endOfInput)) hsplit
  rw [List.filter_append, hbody] at hfilter
  exact hfilter.symm

/-- **A tree accounts for every token up to the first end mark, and for none behind it.**
Read from left to right, the tree that is read from a list of tokens gives back the kinds of
the tokens in front of the first end mark, as they show in a tree, and just as they are if
every number and every string carries a literal of its own kind. These are all the tokens of
the list but the end marks exactly when only end marks stand behind the first one. And where
in front of it a token stands behind an expression that it cannot go on with, the list is
refused for that token. -/
theorem parse_gives_back (ts : List Token) :
    (∀ e, parse ts = .ok e →
      e.kinds = (body ts).map Token.shownKind ∧
      ((∀ t ∈ body ts, t.CarriesOwn) → e.kinds = (body ts).map Token.kind) ∧
      (e.kinds = (ts.filter (·.kind ≠ .endOfInput)).map Token.shownKind ↔
        ∀ t ∈ ts.drop (body ts).length, t.kind = .endOfInput)) ∧
    ∀ xs t ys e, body ts = xs ++ t :: ys → Derives .expression xs e → t.kind ≠ .leftParen →
      (∀ l c, ¬ Operator l t.kind c) →
      parse ts = .error
        { stage := .syntactic, message := s!"expected end of expression, found `{t.lexeme}`"
          line := some t.line, span := some t.span } := by
  refine ⟨fun e he => ?_, fun xs t ys e => parse_leftover⟩
  have hkinds := (parse_eq_ok_iff.1 he).kinds_eq
  refine ⟨hkinds, fun hown => ?_, ?_⟩
  · rw [hkinds]
    exact List.map_congr_left fun t ht => (hown t ht).shownKind_eq
  · rw [hkinds, filter_eq_body_append, List.map_append, List.self_eq_append_right,
      List.map_eq_nil_iff, List.filter_eq_nil_iff]
    simp

/-- `true`, an end mark, `false` and an end mark: nothing is left of the second token, and
the list is read all the same. -/
theorem parse_skips_behind_endMark :
    let first : Token := ⟨.keyword .true, "true", none, 1, ⟨0, 4⟩⟩
    let second : Token := ⟨.keyword .false, "false", none, 1, ⟨5, 10⟩⟩
    let ts := [first, Token.endMark 1 4, second, Token.endMark 1 10]
    ∃ e, parse ts = .ok e ∧ e.kinds = [.keyword .true] ∧
      e.kinds ≠ (ts.filter (·.kind ≠ .endOfInput)).map Token.kind := by
  intro first second ts
  have hfirst : Derives .primary (body ts) (.literal (.bool true) ⟨⟨0, 4⟩, 1⟩) :=
    .atom (t := first) (.true rfl)
  exact ⟨_, parse_eq_ok_iff.2 hfirst.toExpression, rfl, by decide⟩

end Grammar

end Reckoner
