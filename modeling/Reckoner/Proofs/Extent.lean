import Reckoner.Proofs.Tree
import Reckoner.Diagnostic

/-!
# Reckoner — how far a piece of text reaches

The **extent** of a piece of text is the bytes it takes up and the lines it ends. What
is said of a piece of text on its own is said of the same piece behind another one
after a **shift** by the extent of that other one: offsets grow by its bytes, lines by
its lines. Positions, spans, tokens, trees and diagnostics all shift.
-/

namespace Reckoner

/-- How much a piece of text takes up. -/
structure Extent where
  bytes : Nat
  lines : Nat
deriving DecidableEq

/-- The extent of a piece of text. -/
def Extent.of (cs : List Char) : Extent := ⟨(String.ofList cs).utf8ByteSize, cs.count '\n'⟩

-- ---------------------------------------------------------------------------
-- Shifts
-- ---------------------------------------------------------------------------

def Position.shift (x : Extent) (p : Position) : Position :=
  ⟨p.offset + x.bytes, p.line + x.lines⟩

def Span.shift (x : Extent) (s : Span) : Span := ⟨s.start + x.bytes, s.stop + x.bytes⟩

def Place.shift (x : Extent) (p : Place) : Place := ⟨p.span.shift x, p.line + x.lines⟩

def Token.shift (x : Extent) (t : Token) : Token :=
  { t with line := t.line + x.lines, span := t.span.shift x }

def Diagnostic.shift (x : Extent) (d : Diagnostic) : Diagnostic :=
  { d with line := d.line.map (· + x.lines), span := d.span.map (·.shift x) }

/-- The places of all nodes, and the tokens that close calls, move; all else stays. -/
def Expr.shift (x : Extent) : Expr → Expr :=
  Expr.relabel ⟨id, id, Place.shift x, Token.shift x⟩

-- ---------------------------------------------------------------------------
-- Positions and spans
-- ---------------------------------------------------------------------------

/-- The position behind a text is the one in front of it, moved by the extent of the text. -/
theorem Position.after_eq_shift (p : Position) (cs : List Char) :
    p.after cs = p.shift (Extent.of cs) := by
  have hoffset := p.after_offset cs
  have hline := p.after_line cs
  cases h : p.after cs with
  | mk offset line =>
    rw [h] at hoffset hline
    rw [Position.shift, Extent.of, ← hoffset, ← hline]

/-- It makes no difference whether a position is moved before or after a character is passed. -/
theorem Position.shift_advance (x : Extent) (p : Position) (c : Char) :
    (p.shift x).advance c = (p.advance c).shift x := by
  simp only [Position.shift, Position.advance, Position.mk.injEq]
  constructor
  · omega
  · split <;> omega

/-- Reading on behind a shifted position. -/
theorem Position.shift_after (x : Extent) (p : Position) (cs : List Char) :
    (p.shift x).after cs = (p.after cs).shift x := by
  induction cs generalizing p with
  | nil => rfl
  | cons c cs ih => rw [Position.after_cons, Position.after_cons, Position.shift_advance, ih]

/-- A move keeps spans apart. -/
theorem Span.shift_injective {x : Extent} {s t : Span} (h : s.shift x = t.shift x) : s = t := by
  obtain ⟨start, stop⟩ := s
  obtain ⟨start', stop'⟩ := t
  simp only [Span.shift, Span.mk.injEq] at h ⊢
  omega

-- ---------------------------------------------------------------------------
-- Trees
-- ---------------------------------------------------------------------------

namespace Expr

/-- The place of a relabeled tree is that of the tree, relabeled. -/
@[simp] theorem place_relabel (r : Relabeling) (e : Expr) :
    (e.relabel r).place = r.place e.place := by
  cases e using Expr.casesOn <;> rfl

@[simp] theorem span_shift (x : Extent) (e : Expr) : (e.shift x).span = e.span.shift x := by
  rw [Expr.span, Expr.shift, place_relabel]
  rfl

@[simp] theorem line_shift (x : Extent) (e : Expr) : (e.shift x).line = e.line + x.lines := by
  rw [Expr.line, Expr.shift, place_relabel]
  rfl

/-- Trees that are moved are joined to the tree that is moved. -/
theorem shift_join (x : Extent) (c : Connective) (a b : Expr) :
    (join c a b).shift x = join c (a.shift x) (b.shift x) := by
  cases c <;> simp only [join, span_shift, line_shift] <;> rfl

/-- A sign and its operand move together. -/
theorem shift_applyUnary (x : Extent) (op : UnaryOp) (t : Token) (e : Expr) :
    (applyUnary op t e).shift x = applyUnary op (t.shift x) (e.shift x) := by
  simp only [applyUnary, span_shift]
  rfl

/-- A call moves with its callee, its arguments and the token that closes it. -/
theorem shift_applyCall (x : Extent) (f : Expr) (args : List Expr) (t : Token) :
    (applyCall f args t).shift x = applyCall (f.shift x) (args.map (·.shift x)) (t.shift x) := by
  rw [applyCall, applyCall, span_shift, Expr.shift, relabel, relabelAll_eq_map]
  rfl

/-- A group moves with its parentheses. -/
theorem shift_parenthesize (x : Extent) (t u : Token) (e : Expr) :
    (parenthesize t u e).shift x = parenthesize (t.shift x) (u.shift x) (e.shift x) := rfl

end Expr

end Reckoner
