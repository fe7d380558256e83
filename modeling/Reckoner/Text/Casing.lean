import Reckoner.Text.Casing.Classes
import Reckoner.Text.Casing.Mappings

/-!
# Reckoner — capital and small letters

The capital and the small form of a text, in every script that has them. A character
may turn into several, as `ß` into `SS`. The small form of a sigma depends on where
it stands: at the end of a word it is `ς`.
-/

namespace Reckoner.Text

open Casing

/-- The form of a character under a table of sequences and a table of runs. -/
private def mapChar (sequences : List (Nat × List Nat)) (runs : List Run) (c : Char) :
    List Char :=
  match sequences.lookup c.toNat with
  | some codes => codes.map Char.ofNat
  | none => [(shift? runs c).getD c]

/-- The capital form of a character. -/
def upperChar (c : Char) : List Char := mapChar upperSequences upperRuns c

/-- The small form of a character that stands alone. -/
def lowerChar (c : Char) : List Char := mapChar lowerSequences lowerRuns c

/-- Whether the first character that counts has a case. -/
def facesLetter (cs : List Char) : Bool :=
  match cs.dropWhile ignorableRanges.has with
  | c :: _ => casedRanges.has c
  | [] => false

/-- The small forms of characters, given those in front of them, the last one first. -/
def lowerFrom (before : List Char) : List Char → List Char
  | [] => []
  | c :: after =>
    let small :=
      if c = 'Σ' then [if facesLetter before && !facesLetter after then 'ς' else 'σ']
      else lowerChar c
    small ++ lowerFrom (c :: before) after

/-- A text in capital letters. -/
def upper (s : String) : String := String.ofList (s.toList.flatMap upperChar)

/-- A text in small letters. -/
def lower (s : String) : String := String.ofList (lowerFrom [] s.toList)

end Reckoner.Text
