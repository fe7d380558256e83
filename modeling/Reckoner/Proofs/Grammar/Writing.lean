import Reckoner.Proofs.Grammar.Derivation
import Reckoner.Proofs.Scanning.Words

/-!
# Reckoner — how trees are written

A tree is written word by word (`Spells`). So that the words are read back as that tree,
parentheses have to stand around a subtree whose category is looser than the place where
it stands allows for; `guarded` puts them there and nowhere else.

Main results:

* `Derives.loosen` — what derives from a category derives from every looser one;
* `Spells.areTokens` — the words of a spelling are tokens.
-/

namespace Reckoner

open Grammar

-- ---------------------------------------------------------------------------
-- Categories
-- ---------------------------------------------------------------------------

namespace Grammar

/-- How tightly an expression of a category holds together. -/
def Category.tightness : Category → Nat
  | .expression => 0
  | .level l => 7 - l.height
  | .unary => 7
  | .call => 8
  | .primary => 9

/-- No category binds more tightly than a primary expression. -/
theorem Category.tightness_le (s : Category) : s.tightness ≤ Category.primary.tightness := by
  cases s with
  | level l => cases l <;> decide
  | _ => decide

/-- The next looser category. -/
def Category.looser : Category → Category
  | .primary => .call
  | .call => .unary
  | .unary => .level .factor
  | .level .factor => .level .term
  | .level .term => .level .comparison
  | .level .comparison => .level .equality
  | .level .equality => .level .and
  | .level .and => .level .or
  | .level .or | .expression => .expression

/-- The next looser category is one step away. -/
theorem Category.tightness_looser {s : Category} (h : 0 < s.tightness) :
    s.looser.tightness + 1 = s.tightness := by
  cases s with
  | expression => cases h
  | level l => cases l <;> rfl
  | unary | call | primary => rfl

/-- Categories are told apart by how tightly they bind. -/
theorem Category.eq_of_tightness {s r : Category} (h : s.tightness = r.tightness) : s = r := by
  cases s with
  | level l => cases r with
    | level l' => cases l <;> cases l' <;> first | rfl | cases h
    | _ => cases l <;> cases h
  | _ => cases r with
    | level l' => cases l' <;> cases h
    | _ => first | rfl | cases h

/-- What has a category has the next looser one too. -/
theorem Derives.looser {s : Category} {ts : List Token} {e : Expr} (h : Derives s ts e) :
    Derives s.looser ts e := by
  cases s with
  | expression => exact h
  | level l => cases l with
    | or => exact .expression h
    | _ => exact .operand h
  | unary => exact .operand h
  | call => exact .unsigned h
  | primary => exact .uncalled h

/-- What derives from a category derives from every looser one. -/
theorem Derives.loosen {s r : Category} {ts : List Token} {e : Expr} (h : Derives s ts e)
    (hr : r.tightness ≤ s.tightness) : Derives r ts e := by
  rcases Nat.eq_or_lt_of_le hr with heq | hlt
  · rwa [Category.eq_of_tightness heq]
  · have hstep := Category.tightness_looser (Nat.zero_lt_of_lt hlt)
    exact h.looser.loosen (by omega)
termination_by s.tightness
decreasing_by omega

end Grammar

namespace Expr

/-- The category of a tree: that of its operator, or the tightest if it has none. -/
def category : Expr → Category
  | literal _ _ | var _ _ | group _ _ => .primary
  | call _ _ _ _ => .call
  | unary _ _ _ => .unary
  | binary op _ _ _ => .level (Connective.binary op).level
  | logical op _ _ _ => .level (Connective.logical op).level

-- ---------------------------------------------------------------------------
-- Parentheses where they are needed
-- ---------------------------------------------------------------------------

/-- A tree that stands where a category is required: in parentheses, if its own category
is looser. -/
def enclose (required : Category) (e : Expr) : Expr :=
  if e.category.tightness < required.tightness then group e default else e

mutual

/-- A tree with the parentheses that it needs. What is required of the left operand is
the level of its operator, of the right operand the next tighter category. -/
def guarded : Expr → Expr
  | literal v p => literal v p
  | var n p => var n p
  | group e p => group (enclose .expression (guarded e)) p
  | unary op e p => unary op (enclose .unary (guarded e)) p
  | binary op a b p =>
    let l := (Connective.binary op).level
    binary op (enclose (.level l) (guarded a)) (enclose (operandOf l) (guarded b)) p
  | logical op a b p =>
    let l := (Connective.logical op).level
    logical op (enclose (.level l) (guarded a)) (enclose (operandOf l) (guarded b)) p
  | call f args t p => call (enclose .call (guarded f)) (guardedAll args) t p

def guardedAll : List Expr → List Expr
  | [] => []
  | e :: es => enclose .expression (guarded e) :: guardedAll es

end

/-- An argument is guarded by itself, and never needs parentheses around it. -/
theorem guardedAll_eq_map (es : List Expr) :
    guardedAll es = es.map fun e => enclose .expression e.guarded := by
  induction es with
  | nil => rfl
  | cons e es ih => rw [guardedAll, ih, List.map_cons]

/-- Parentheses around parts of a tree leave its category alone. -/
theorem category_guarded (e : Expr) : e.guarded.category = e.category := by
  cases e using Expr.casesOn <;> rfl

end Expr

-- ---------------------------------------------------------------------------
-- Words
-- ---------------------------------------------------------------------------

/-- A word that is a variable: letters, digits and underscores, no digit first, and no
keyword. -/
def IsName (name : String) : Prop :=
  ∃ c w, name.toList = c :: w ∧ Lexeme.isNameStart c ∧ (∀ d ∈ w, Lexeme.isNamePart d) ∧
    Keyword.ofName? name = none

mutual

/-- The words that a tree is written as. A number is written as any text that stands for
it. -/
inductive Spells : Expr → List String → Prop
  | number {x : Float} {p : Place} {w : String} (hw : Number.Written w.toList)
      (hx : Number.ofText? w = some x) : Spells (.literal (.number x) p) [w]
  | string {s : String} {p : Place} (hs : '"' ∉ s.toList) :
      Spells (.literal (.string s) p) ["\"" ++ s ++ "\""]
  | true {p : Place} : Spells (.literal (.bool .true) p) ["true"]
  | false {p : Place} : Spells (.literal (.bool .false) p) ["false"]
  | nil {p : Place} : Spells (.literal .nil p) ["nil"]
  | var {name : String} {p : Place} (hn : IsName name) : Spells (.var name p) [name]
  | group {e : Expr} {p : Place} {ws : List String} (h : Spells e ws) :
      Spells (.group e p) ("(" :: (ws ++ [")"]))
  | unary {op : UnaryOp} {e : Expr} {p : Place} {ws : List String} (h : Spells e ws) :
      Spells (.unary op e p) (op.symbol :: ws)
  | binary {op : BinaryOp} {a b : Expr} {p : Place} {us vs : List String} (ha : Spells a us)
      (hb : Spells b vs) : Spells (.binary op a b p) (us ++ op.symbol :: vs)
  | logical {op : LogicalOp} {a b : Expr} {p : Place} {us vs : List String} (ha : Spells a us)
      (hb : Spells b vs) : Spells (.logical op a b p) (us ++ op.symbol :: vs)
  | call {f : Expr} {args : List Expr} {t : Token} {p : Place} {us vs : List String}
      (hf : Spells f us) (hargs : SpellsAll args vs) :
      Spells (.call f args t p) (us ++ "(" :: (vs ++ [")"]))

/-- The words that the arguments of a call are written as. -/
inductive SpellsAll : List Expr → List String → Prop
  | none : SpellsAll [] []
  | one {e : Expr} {ws : List String} (h : Spells e ws) : SpellsAll [e] ws
  | more {e : Expr} {es : List Expr} {us vs : List String} (h : Spells e us)
      (hs : SpellsAll es vs) (hne : es ≠ []) : SpellsAll (e :: es) (us ++ "," :: vs)

end

/-- A node that can be written: a name that is one, a string without quotes, a number
that some text stands for, a call of no more arguments than allowed. -/
def Expr.WritableNode : Expr → Prop
  | .literal (.number x) _ => ∃ w : String, Number.Written w.toList ∧ Number.ofText? w = some x
  | .literal (.string s) _ => '"' ∉ s.toList
  | .var name _ => IsName name
  | .call _ args _ _ => args.length ≤ 8
  | _ => True

/-- A tree all of whose nodes can be written. -/
def Expr.Writable (e : Expr) : Prop := ∀ n, e.Contains n → n.WritableNode

-- ---------------------------------------------------------------------------
-- Every word is a token
-- ---------------------------------------------------------------------------

open Lexeme

/-- A name is scanned as an identifier, and not as a keyword. -/
theorem IsName.ofKind {name : String} (h : IsName name) : OfKind .identifier name.toList := by
  obtain ⟨c, w, hname, hc, hw, hkeyword⟩ := h
  have hkind : nameKind (c :: w) = .identifier := by
    unfold nameKind
    rw [← hname, String.ofList_toList, hkeyword]
  rw [hname, ← hkind]
  exact .name hc hw

/-- A text without quotation marks, put between two of them, is scanned as a string. -/
theorem ofKind_quoted {s : String} (hs : '"' ∉ s.toList) :
    OfKind .string ("\"" ++ s ++ "\"").toList := by
  rw [String.toList_append, String.toList_append]
  refine .string fun d hd => ?_
  rintro rfl
  exact hs hd

/-- The literal of a string in quotes is the string. -/
theorem literal_quoted (s : String) :
    Lexeme.literal .string ("\"" ++ s ++ "\"").toList = some (.string s) := by
  rw [String.toList_append, String.toList_append]
  show some (Literal.string (String.ofList (s.toList ++ ['"']).dropLast)) = _
  rw [List.dropLast_concat, String.ofList_toList]

/-- The symbol of a sign is scanned as a token that is this sign. -/
theorem UnaryOp.exists_sign (op : UnaryOp) : ∃ k, Sign k op ∧ OfKind k op.symbol.toList := by
  cases op with
  | negate => exact ⟨_, .negate, .symbol .minus⟩
  | not => exact ⟨_, .not, .alone .bang⟩

/-- The symbol of an operator is scanned as a token that connects operands of its level. -/
theorem BinaryOp.exists_operator (op : BinaryOp) :
    ∃ k, Operator (Connective.binary op).level k (.binary op) ∧ OfKind k op.symbol.toList := by
  cases op with
  | add => exact ⟨_, .add, .symbol .plus⟩
  | sub => exact ⟨_, .sub, .symbol .minus⟩
  | mul => exact ⟨_, .mul, .symbol .star⟩
  | div => exact ⟨_, .div, .symbol .slash⟩
  | equal => exact ⟨_, .equal, .joined .equal⟩
  | notEqual => exact ⟨_, .notEqual, .joined .bang⟩
  | less => exact ⟨_, .less, .alone .less⟩
  | lessEqual => exact ⟨_, .lessEqual, .joined .less⟩
  | greater => exact ⟨_, .greater, .alone .greater⟩
  | greaterEqual => exact ⟨_, .greaterEqual, .joined .greater⟩

/-- So is the word of a logical connective. -/
theorem LogicalOp.exists_operator (op : LogicalOp) :
    ∃ k, Operator (Connective.logical op).level k (.logical op) ∧ OfKind k op.symbol.toList := by
  cases op with
  | and => exact ⟨_, .and, ofKind_keyword .and⟩
  | or => exact ⟨_, .or, ofKind_keyword .or⟩

theorem ofKind_leftParen : OfKind .leftParen "(".toList := .symbol .leftParen

theorem ofKind_rightParen : OfKind .rightParen ")".toList := .symbol .rightParen

theorem ofKind_comma : OfKind .comma ",".toList := .symbol .comma

/-- All of the words are tokens. -/
def AreTokens (ws : List String) : Prop := ∀ w ∈ ws, ∃ k, OfKind k w.toList

theorem AreTokens.nil : AreTokens [] := fun _ hw => absurd hw List.not_mem_nil

theorem AreTokens.cons {k : TokenKind} {w : String} {ws : List String} (h : OfKind k w.toList)
    (hs : AreTokens ws) : AreTokens (w :: ws) :=
  List.forall_mem_cons.2 ⟨⟨k, h⟩, hs⟩

/-- Tokens may stand behind tokens. -/
theorem AreTokens.append {us vs : List String} (h : AreTokens us) (h' : AreTokens vs) :
    AreTokens (us ++ vs) :=
  List.forall_mem_append.2 ⟨h, h'⟩

mutual

/-- The words of a spelling are tokens. -/
theorem Spells.areTokens {e : Expr} {ws : List String} : Spells e ws → AreTokens ws
  | .number hw _ => .cons hw.ofKind .nil
  | .string hs => .cons (ofKind_quoted hs) .nil
  | .true => .cons (ofKind_keyword .true) .nil
  | .false => .cons (ofKind_keyword .false) .nil
  | .nil => .cons (ofKind_keyword .nil) .nil
  | .var hn => .cons hn.ofKind .nil
  | .group h => .cons ofKind_leftParen (h.areTokens.append (.cons ofKind_rightParen .nil))
  | @Spells.unary op _ _ _ h => by
    obtain ⟨k, -, hk⟩ := op.exists_sign
    exact .cons hk h.areTokens
  | @Spells.binary op _ _ _ _ _ ha hb => by
    obtain ⟨k, -, hk⟩ := op.exists_operator
    exact ha.areTokens.append (.cons hk hb.areTokens)
  | @Spells.logical op _ _ _ _ _ ha hb => by
    obtain ⟨k, -, hk⟩ := op.exists_operator
    exact ha.areTokens.append (.cons hk hb.areTokens)
  | .call hf hargs =>
    hf.areTokens.append (.cons ofKind_leftParen
      (hargs.areTokens.append (.cons ofKind_rightParen .nil)))

/-- What a list of arguments is written as are tokens. -/
theorem SpellsAll.areTokens {es : List Expr} {ws : List String} : SpellsAll es ws → AreTokens ws
  | .none => .nil
  | .one h => h.areTokens
  | .more h hs _ => h.areTokens.append (.cons ofKind_comma hs.areTokens)

end

end Reckoner
