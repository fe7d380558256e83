import Reckoner.Expr.Parse
import Reckoner.Proofs.Tree

/-!
# Reckoner — reading looks at no places

Tokens are read alike wherever they stand: tokens that differ in lines and spans alone are
read as trees that differ in places alone, and where reading fails it fails with the same
message (`parse_unplaced`). Taking the places away is a map on tokens and on trees, and
every reader of `Reckoner.Expr.Parse` goes along with it.
-/

namespace Reckoner

-- ---------------------------------------------------------------------------
-- Taking places away
-- ---------------------------------------------------------------------------

/-- A token without its place. -/
def Token.unplaced (t : Token) : Token := { t with line := 0, span := ⟨0, 0⟩ }

/-- A tree without the places of its nodes and of the tokens that close its calls. -/
def Expr.unplaced : Expr → Expr :=
  Expr.relabel ⟨id, id, fun _ => default, Token.unplaced⟩

/-- A fault, with the tokens from it on without their places. -/
def ParseError.unplaced (e : ParseError) : ParseError :=
  { e with remaining := e.remaining.map Token.unplaced }

/-- A diagnostic without the place that it is about. -/
def Diagnostic.unplaced (d : Diagnostic) : Diagnostic := { d with line := none, span := none }

@[simp] theorem Token.kind_unplaced (t : Token) : t.unplaced.kind = t.kind := rfl

namespace Expr

/-- A connective joins trees alike wherever they stand. -/
theorem unplaced_join (c : Connective) (a b : Expr) :
    join c a.unplaced b.unplaced = (join c a b).unplaced := by
  have hspan (e : Expr) : e.unplaced.span = default := by
    cases e using Expr.casesOn <;> rfl
  have hline (e : Expr) : e.unplaced.line = 0 := by
    cases e using Expr.casesOn <;> rfl
  cases c <;> simp only [join, hspan, hline] <;> rfl

/-- So does a sign in front of a tree. -/
theorem unplaced_applyUnary (op : UnaryOp) (t : Token) (e : Expr) :
    applyUnary op t.unplaced e.unplaced = (applyUnary op t e).unplaced := by
  cases e using Expr.casesOn <;> rfl

/-- A call is built alike wherever its parts stand, the closing token included. -/
theorem unplaced_applyCall (f : Expr) (args : List Expr) (t : Token) :
    applyCall f.unplaced (args.map unplaced) t.unplaced = (applyCall f args t).unplaced := by
  rw [applyCall, applyCall, unplaced, relabel, relabelAll_eq_map]
  cases f using Expr.casesOn <;> rfl

/-- Whether a token is an atom, and which, does not depend on its place. -/
theorem unplaced_ofToken? (t : Token) : ofToken? t.unplaced = (ofToken? t).map unplaced := by
  unfold ofToken?
  rw [Token.kind_unplaced]
  split <;> rfl

-- ---------------------------------------------------------------------------
-- The readers
-- ---------------------------------------------------------------------------

/-- What is read from tokens without their places, and from the tokens themselves: the same
fault, or values that differ in places alone, with the same tokens left. -/
inductive Alike {α : Type} (g : α → α) {us ts : List Token} : Reading α us → Reading α ts → Prop
  | error {fault : ParseFault} {remaining : List Token} :
      Alike g (.error ⟨fault, remaining.map Token.unplaced⟩) (.error ⟨fault, remaining⟩)
  | ok {value : α} {rest' rest : List Token} (hrest : rest' = rest.map Token.unplaced)
      (hus : rest'.length < us.length) (hts : rest.length < ts.length) :
      Alike g (.ok ⟨g value, rest', hus⟩) (.ok ⟨value, rest, hts⟩)

mutual

/-- A chain of a level is read alike from tokens without their places. This and what follows goes
through the readers in the order in which they call each other. -/
theorem parseLevel_unplaced (l : Level) (ts : List Token) :
    Alike unplaced (parseLevel l (ts.map Token.unplaced)) (parseLevel l ts) := by
  have h := parseOperand_unplaced l ts
  rw [parseLevel, parseLevel]
  generalize parseOperand l (ts.map Token.unplaced) = r' at h
  generalize parseOperand l ts = r at h
  cases h with
  | error => exact .error
  | @ok left rest' rest hrest hus hts => exact parseChain_unplaced l left rest hrest hus hts
termination_by (ts.length, 2 * l.height + 4)
decreasing_by
  · exact Prod.Lex.right _ (by omega)
  · exact Prod.Lex.left _ _ (by omega)

/-- An operand of a level: a chain of the next tighter level or, at the tightest, a signed term. -/
theorem parseOperand_unplaced (l : Level) (ts : List Token) :
    Alike unplaced (parseOperand l (ts.map Token.unplaced)) (parseOperand l ts) := by
  rw [parseOperand, parseOperand]
  split
  · next tighter hl =>
    have := Level.height_tighter hl
    exact parseLevel_unplaced tighter ts
  · exact parseUnary_unplaced ts
termination_by (ts.length, 2 * l.height + 3)
decreasing_by
  · exact Prod.Lex.right _ (by omega)
  · exact Prod.Lex.right _ (by omega)

/-- What follows the left operand of a chain, as long as there are operators of its level. -/
theorem parseChain_unplaced {us ts rest' : List Token} (l : Level) (left : Expr)
    (rest : List Token) (hrest : rest' = rest.map Token.unplaced)
    (hus : rest'.length < us.length) (hts : rest.length < ts.length) :
    Alike unplaced (parseChain l ⟨left.unplaced, rest', hus⟩) (parseChain l ⟨left, rest, hts⟩) := by
  match rest, hrest, hts with
  | [], hrest, hts =>
    obtain rfl : rest' = [] := hrest
    rw [parseChain, parseChain]
    exact @Alike.ok _ _ us ts left _ [] rfl hus hts
  | t :: rest, hrest, hts =>
    obtain rfl : rest' = t.unplaced :: rest.map Token.unplaced := hrest
    rw [parseChain, parseChain]
    simp only [Token.kind_unplaced]
    cases Connective.ofKind? t.kind with
    | none => exact @Alike.ok _ _ us ts left _ (t :: rest) rfl hus hts
    | some c =>
      by_cases hl : c.level = l
      · have h := parseOperand_unplaced l rest
        simp only [hl, if_true]
        generalize parseOperand l (rest.map Token.unplaced) = r' at h
        generalize parseOperand l rest = r at h
        cases h with
        | error => exact .error
        | @ok right _ rest' hrest' =>
          simp only [Parsed.weaken, unplaced_join]
          exact parseChain_unplaced l (join c left right) rest' hrest' _ _
      · simp only [hl, if_false]
        exact @Alike.ok _ _ us ts left _ (t :: rest) rfl hus hts
termination_by (rest.length, 0)
decreasing_by
  · exact Prod.Lex.left _ _ (by simp)
  · exact Prod.Lex.left _ _ (by simp only [List.length_cons]; omega)

/-- A term with the signs in front of it. -/
theorem parseUnary_unplaced (ts : List Token) :
    Alike unplaced (parseUnary (ts.map Token.unplaced)) (parseUnary ts) := by
  match ts with
  | [] =>
    rw [List.map_nil, parseUnary]
    exact @Alike.error _ _ [] [] .operand []
  | t :: rest =>
    rw [List.map_cons, parseUnary, parseUnary, Token.kind_unplaced]
    cases UnaryOp.ofKind? t.kind with
    | some op =>
      have h := parseUnary_unplaced rest
      simp only
      generalize parseUnary (rest.map Token.unplaced) = r' at h
      generalize parseUnary rest = r at h
      cases h with
      | error => exact .error
      | ok hrest =>
        simp only [Parsed.weaken, unplaced_applyUnary]
        exact .ok hrest _ _
    | none =>
      have h := parsePrimary_unplaced t rest
      simp only
      generalize parsePrimary t.unplaced (rest.map Token.unplaced) = r' at h
      generalize parsePrimary t rest = r at h
      cases h with
      | error => exact .error
      | @ok callee _ rest' hrest hus hts => exact parseCalls_unplaced callee rest' hrest hus hts
termination_by (ts.length, 2)
decreasing_by
  · exact Prod.Lex.right _ (by omega)
  · exact Prod.Lex.left _ _ (by omega)
  · exact Prod.Lex.left _ _ (by simp)

/-- An atom or a parenthesized expression, which its first token tells apart. -/
theorem parsePrimary_unplaced (t : Token) (ts : List Token) :
    Alike unplaced (parsePrimary t.unplaced (ts.map Token.unplaced)) (parsePrimary t ts) := by
  rw [parsePrimary, parsePrimary, Token.kind_unplaced]
  by_cases ht : t.kind = .leftParen
  · have h := parseLevel_unplaced .or ts
    simp only [ht, if_true]
    generalize parseLevel .or (ts.map Token.unplaced) = r' at h
    generalize parseLevel .or ts = r at h
    cases h with
    | error => exact .error
    | @ok inner rest' rest hrest hus hts =>
      cases rest with
      | nil =>
        obtain rfl : rest' = [] := hrest
        exact @Alike.error _ _ _ _ .closingGroup []
      | cons closing rest =>
        obtain rfl : rest' = closing.unplaced :: rest.map Token.unplaced := hrest
        simp only [Token.kind_unplaced]
        by_cases hclosing : closing.kind = .rightParen
        · simp only [hclosing, if_true]
          exact @Alike.ok _ unplaced _ _ (parenthesize t closing inner) _ rest rfl _ _
        · simp only [hclosing, if_false]
          exact @Alike.error _ _ _ _ .closingGroup (closing :: rest)
  · simp only [ht, if_false, unplaced_ofToken?]
    cases ofToken? t with
    | some e => exact .ok rfl _ _
    | none => exact @Alike.error _ _ _ _ .operand (t :: ts)
termination_by (ts.length + 1, 0)

/-- Lists of arguments behind a callee, one behind the other. -/
theorem parseCalls_unplaced {us ts rest' : List Token} (callee : Expr) (rest : List Token)
    (hrest : rest' = rest.map Token.unplaced) (hus : rest'.length < us.length)
    (hts : rest.length < ts.length) :
    Alike unplaced (parseCalls ⟨callee.unplaced, rest', hus⟩)
      (parseCalls ⟨callee, rest, hts⟩) := by
  match rest, hrest, hts with
  | [], hrest, hts =>
    obtain rfl : rest' = [] := hrest
    rw [parseCalls, parseCalls]
    exact @Alike.ok _ _ us ts callee _ [] rfl hus hts
  | t :: rest, hrest, hts =>
    obtain rfl : rest' = t.unplaced :: rest.map Token.unplaced := hrest
    rw [parseCalls, parseCalls]
    simp only [Token.kind_unplaced]
    by_cases ht : t.kind = .leftParen
    · have h := parseArguments_unplaced rest
      simp only [ht, if_true]
      generalize parseArguments (rest.map Token.unplaced) = r' at h
      generalize parseArguments rest = r at h
      cases h with
      | error => exact .error
      | @ok args _ rest' hrest' =>
        simp only [Parsed.weaken, unplaced_applyCall]
        exact parseCalls_unplaced (applyCall callee args.1 args.2) rest' hrest' _ _
    · simp only [ht, if_false]
      exact @Alike.ok _ _ us ts callee _ (t :: rest) rfl hus hts
termination_by (rest.length, 0)
decreasing_by
  · exact Prod.Lex.left _ _ (by simp)
  · exact Prod.Lex.left _ _ (by simp only [List.length_cons]; omega)

/-- One list of arguments, with the token that closes it. -/
theorem parseArguments_unplaced (ts : List Token) :
    Alike (fun p => (p.1.map unplaced, p.2.unplaced)) (parseArguments (ts.map Token.unplaced))
      (parseArguments ts) := by
  match ts with
  | [] =>
    rw [List.map_nil, parseArguments]
    exact parseArgument_unplaced 0 []
  | t :: rest =>
    rw [List.map_cons, parseArguments, parseArguments, Token.kind_unplaced]
    by_cases ht : t.kind = .rightParen
    · simp only [ht, if_true]
      exact @Alike.ok _ _ _ _ ([], t) _ rest rfl _ _
    · simp only [ht, if_false]
      exact parseArgument_unplaced 0 (t :: rest)
termination_by (ts.length, 18)

theorem parseArgument_unplaced (count : Nat) (ts : List Token) :
    Alike (fun p => (p.1.map unplaced, p.2.unplaced))
      (parseArgument count (ts.map Token.unplaced)) (parseArgument count ts) := by
  rw [parseArgument, parseArgument]
  by_cases hcount : maxArguments ≤ count
  · rw [if_pos hcount, if_pos hcount]
    exact .error
  · rw [if_neg hcount, if_neg hcount]
    have h := parseLevel_unplaced .or ts
    generalize parseLevel .or (ts.map Token.unplaced) = r' at h
    generalize parseLevel .or ts = r at h
    cases h with
    | error => exact .error
    | @ok arg rest' rest hrest hus hts =>
      match rest, hrest, hts with
      | [], hrest, _ =>
        obtain rfl : rest' = [] := hrest
        exact @Alike.error _ _ _ _ .closingCall []
      | t :: rest, hrest, hts =>
        obtain rfl : rest' = t.unplaced :: rest.map Token.unplaced := hrest
        simp only [Token.kind_unplaced]
        by_cases ht : t.kind = .comma
        · have h := parseArgument_unplaced (count + 1) rest
          simp only [ht, if_true]
          generalize parseArgument (count + 1) (rest.map Token.unplaced) = r' at h
          generalize parseArgument (count + 1) rest = r at h
          cases h with
          | error => exact .error
          | @ok more _ rest' hrest' =>
            exact @Alike.ok _ _ _ _ (arg :: more.1, more.2) _ rest' hrest' _ _
        · simp only [ht, if_false]
          by_cases hclosing : t.kind = .rightParen
          · simp only [hclosing, if_true]
            exact @Alike.ok _ _ _ _ ([arg], t) _ rest rfl _ _
          · simp only [hclosing, if_false]
            exact @Alike.error _ _ _ _ .closingCall (t :: rest)
termination_by (ts.length, 17)
decreasing_by
  · exact Prod.Lex.right _ (by decide)
  · simp only [List.length_cons] at hts
    exact Prod.Lex.left _ _ (by omega)

end

-- ---------------------------------------------------------------------------
-- Whole lists of tokens
-- ---------------------------------------------------------------------------

/-- A whole expression is read alike, and the fault is the same in front of the same tokens. -/
theorem ofTokens_unplaced (ts : List Token) :
    ofTokens (ts.map Token.unplaced) =
      ((ofTokens ts).map unplaced).mapError ParseError.unplaced := by
  have h := parseLevel_unplaced .or ts
  unfold ofTokens
  generalize parseLevel .or (ts.map Token.unplaced) = r' at h
  generalize parseLevel .or ts = r at h
  cases h with
  | error => rfl
  | @ok _ rest' rest hrest =>
    cases rest with
    | nil =>
      obtain rfl : rest' = [] := hrest
      rfl
    | cons t rest =>
      obtain rfl : rest' = t.unplaced :: rest.map Token.unplaced := hrest
      rfl

/-- Where the tokens end does not depend on their places. -/
theorem body_unplaced (ts : List Token) :
    body (ts.map Token.unplaced) = (body ts).map Token.unplaced :=
  List.takeWhile_map

/-- **Reading looks at no places**: without them, tokens form the same tree without its
places, or are refused with the same message. -/
theorem parse_unplaced (ts : List Token) :
    (parse (ts.map Token.unplaced)).mapError Diagnostic.unplaced =
      ((parse ts).map unplaced).mapError Diagnostic.unplaced := by
  unfold parse
  rw [body_unplaced, ofTokens_unplaced]
  cases ofTokens (body ts) with
  | ok e => rfl
  | error e =>
    obtain ⟨fault, remaining⟩ := e
    -- what is found is named by its lexeme
    cases remaining <;> cases fault <;> rfl

end Expr

end Reckoner
