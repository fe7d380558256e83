import Reckoner.Text.Cluster.Classes
import Reckoner.Text.Extender

/-!
# Reckoner — clusters of characters

What a reader takes for one character may be several: a letter and its accents, a
syllable, a flag, a family of pictures. A text falls into such **clusters**; typing a
backspace takes back a whole one.

A text is divided from left to right. Whether a character goes on with the cluster in
front of it depends on the character before it and on three things that may reach
further back (`Context`).

Main results:

* `clusters_flatten` — the clusters of a text make up the text;
* `applyBackspaces_eq_self` — a text without backspaces stays as it was typed.
-/

namespace Reckoner.Text

open Cluster

/-- The kinds of character that make a difference to where a cluster ends. -/
inductive ClusterClass where
  | other
  | control
  | carriageReturn
  | lineFeed
  | extender
  | joiner
  | spacing
  | prepended
  | leading
  | vowel
  | trailing
  /-- A Korean syllable without a trailing consonant. -/
  | openSyllable
  /-- A Korean syllable with one. -/
  | closedSyllable
  | flag
deriving Repr, DecidableEq

/-- The kind of a character. -/
def clusterClass (c : Char) : ClusterClass :=
  if c = '\r' then .carriageReturn
  else if c = '\n' then .lineFeed
  else if c = '\u200d' then .joiner
  else if controlRanges.has c then .control
  else if extenderRanges.has c || modifierRanges.has c then .extender
  else if spacingRanges.has c then .spacing
  else if prependedRanges.has c then .prepended
  else if leadingRanges.has c then .leading
  else if vowelRanges.has c then .vowel
  else if trailingRanges.has c then .trailing
  else if syllableRanges.has c then
    if (c.toNat - 0xAC00) % 28 = 0 then .openSyllable else .closedSyllable
  else if flagRanges.has c then .flag
  else .other

/-- What stands in front of a character, as far as it matters. -/
structure Context where
  /-- The kind of the character in front. -/
  before : ClusterClass
  /-- Whether the flag halves in front are odd in number. -/
  oddFlags : Bool
  /-- Whether there is a picture in front, with nothing but extenders behind it. -/
  picture : Bool
  /-- Whether a joiner follows such a picture at once. -/
  joinedPicture : Bool
  /-- Whether there is a consonant in front, with nothing but extenders behind it. -/
  consonant : Bool
  /-- Whether a linker is among those extenders. -/
  linkedConsonant : Bool

/-- What stands behind a character, given what stood in front of it. -/
def Context.next (before : Option Context) (c : Char) : Context :=
  let kind := clusterClass c
  let extends_ := (kind = .extender ∨ kind = .joiner) ∧ before.isSome
  { before := kind
    oddFlags := kind = .flag && !before.any (·.oddFlags)
    picture := pictureRanges.has c || kind = .extender && before.any (·.picture)
    joinedPicture := kind = .joiner && before.any (·.picture)
    consonant := consonantRanges.has c || extends_ && c ≠ '\u200c' && before.any (·.consonant)
    linkedConsonant := extends_ && c ≠ '\u200c' && before.any fun b =>
      b.linkedConsonant || b.consonant && linkerRanges.has c }

/-- Whether a character goes on with the cluster in front of it. -/
def Context.continues (b : Context) (c : Char) : Bool :=
  match b.before, clusterClass c with
  | .carriageReturn, .lineFeed => true
  | .control, _ | .carriageReturn, _ | .lineFeed, _ => false
  | _, .control | _, .carriageReturn | _, .lineFeed => false
  | _, .extender | _, .joiner | _, .spacing => true
  | .prepended, _ => true
  | .leading, .leading | .leading, .vowel | .leading, .openSyllable
  | .leading, .closedSyllable => true
  | .openSyllable, .vowel | .openSyllable, .trailing | .vowel, .vowel | .vowel, .trailing => true
  | .closedSyllable, .trailing | .trailing, .trailing => true
  | .flag, .flag => b.oddFlags
  | _, _ => b.linkedConsonant && consonantRanges.has c || b.joinedPicture && pictureRanges.has c

/-- The clusters of the characters behind a context, the first of which starts one. -/
private def clustersFrom (b : Option Context) : List Char → List (List Char)
  | [] => []
  | c :: rest =>
    let here := Context.next b c
    let later := clustersFrom (some here) rest
    match rest, later with
    | d :: _, first :: more =>
      if here.continues d then (c :: first) :: more else [c] :: later
    | _, _ => [c] :: later

/-- The clusters of a text. -/
def clusters (text : List Char) : List (List Char) := clustersFrom none text

/-- Cutting loses no character, whatever stands in front. -/
private theorem clustersFrom_flatten (b : Option Context) (text : List Char) :
    (clustersFrom b text).flatten = text := by
  induction text generalizing b with
  | nil => rfl
  | cons c rest ih =>
    have later := ih (some (Context.next b c))
    unfold clustersFrom
    simp only
    split
    · next first more heq =>
      rw [heq] at later
      split
      · simpa using later
      · simp [heq, later]
    · simp [later]

/-- The clusters of a text make up the text. -/
theorem clusters_flatten (text : List Char) : (clusters text).flatten = text :=
  clustersFrom_flatten none text

/-- The character that takes back the cluster in front of it. -/
def backspace : Char := '\x08'

/-- A text that is being typed. -/
structure Typing where
  /-- What is left of it, the last character first. -/
  typed : List Char := []
  /-- The sizes of the clusters that no backspace has taken back, the last one first. -/
  sizes : List Nat := []

/-- Characters without the first ones, as many as a number of bytes touches. -/
def dropBytes (bytes : Nat) : List Char → List Char
  | [] => []
  | c :: rest => if bytes = 0 then c :: rest else dropBytes (bytes - c.utf8Size) rest

/-- The typing after one more cluster. The size of a cluster is kept in one byte, so
of one with 256 bytes or more a backspace takes back only the remainder. -/
def Typing.add (t : Typing) (cluster : List Char) : Typing :=
  if cluster = [backspace] then ⟨dropBytes (t.sizes.headD 0) t.typed, t.sizes.tail⟩
  else
    { typed := cluster.reverse ++ t.typed
      sizes := (String.ofList cluster).utf8ByteSize % 256 :: t.sizes }

/-- What is left of a text that was typed, with what its backspaces take back left
out. -/
def applyBackspaces (text : List Char) : List Char :=
  ((clusters text).foldl Typing.add {}).typed.reverse

/-- Without a backspace among them, clusters are added one behind the other. -/
theorem Typing.typed_foldl_add (t : Typing) (clusters : List (List Char))
    (h : [backspace] ∉ clusters) :
    (clusters.foldl add t).typed = clusters.flatten.reverse ++ t.typed := by
  induction clusters generalizing t with
  | nil => rfl
  | cons cluster rest ih =>
    obtain ⟨hcluster, hrest⟩ := List.ne_and_not_mem_of_not_mem_cons h
    have hadd : (t.add cluster).typed = cluster.reverse ++ t.typed := by
      rw [add, if_neg hcluster.symm]
    rw [List.foldl_cons, ih _ hrest, hadd, List.flatten_cons, List.reverse_append,
      List.append_assoc]

/-- A text without backspaces stays as it was typed. -/
theorem applyBackspaces_eq_self {text : List Char} (h : backspace ∉ text) :
    applyBackspaces text = text := by
  have hclusters : [backspace] ∉ clusters text := fun hmem =>
    h (clusters_flatten text ▸ List.mem_flatten_of_mem hmem (List.mem_singleton_self _))
  rw [applyBackspaces, Typing.typed_foldl_add _ _ hclusters, clusters_flatten, List.append_nil,
    List.reverse_reverse]

end Reckoner.Text
