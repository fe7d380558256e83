/-!
# Reckoner — positions in a text

A text is read as a list of characters. A **position** says how far a reader has
come: how many bytes of the text's UTF-8 form lie behind it, and on which line it
stands. A **span** is the range of bytes between two positions.

Main results:

* `Position.after_append` — reading two pieces one after the other is reading
  their concatenation;
* `Position.after_offset`, `Position.after_line` — the offset grows by the bytes
  read and the line by the newlines read.
-/

namespace Reckoner

/-- A range of bytes in a text, `stop` excluded. -/
structure Span where
  start : Nat
  stop : Nat
deriving Repr, DecidableEq, Inhabited

/-- How far a text has been read. -/
structure Position where
  /-- Bytes read so far. -/
  offset : Nat
  /-- One more than the newlines read so far. -/
  line : Nat
deriving Repr, DecidableEq, Inhabited

namespace Position

/-- The front of a text. -/
def origin : Position := ⟨0, 1⟩

/-- The position behind one more character. -/
def advance (p : Position) (c : Char) : Position :=
  ⟨p.offset + c.utf8Size, if c = '\n' then p.line + 1 else p.line⟩

/-- The position behind a piece of text. -/
def after (p : Position) (cs : List Char) : Position :=
  cs.foldl advance p

@[simp] theorem after_nil (p : Position) : p.after [] = p := rfl

@[simp] theorem after_cons (p : Position) (c : Char) (cs : List Char) :
    p.after (c :: cs) = (p.advance c).after cs := rfl

theorem after_append (p : Position) (xs ys : List Char) :
    p.after (xs ++ ys) = (p.after xs).after ys :=
  List.foldl_append

theorem after_offset (p : Position) (cs : List Char) :
    (p.after cs).offset = p.offset + (String.ofList cs).utf8ByteSize := by
  induction cs generalizing p with
  | nil => rfl
  | cons c cs ih =>
    rw [String.ofList_cons, String.utf8ByteSize_append, String.utf8ByteSize_singleton,
      after_cons, ih, advance, Nat.add_assoc]

theorem after_line (p : Position) (cs : List Char) :
    (p.after cs).line = p.line + cs.count '\n' := by
  induction cs generalizing p with
  | nil => simp
  | cons c cs ih =>
    by_cases h : c = '\n'
    · subst h
      simp [ih, advance]
      omega
    · simp [ih, advance, h]

/-- The span between two positions. -/
def spanTo (p q : Position) : Span := ⟨p.offset, q.offset⟩

end Position

end Reckoner
