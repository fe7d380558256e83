import Reckoner.Text.Ranges

/-!
# Reckoner — white space around a text

The characters with the property *White_Space*, and texts without them at either
end. This is a larger class than the blanks between tokens.
-/

namespace Reckoner.Text

/-- The characters that count as white space. -/
def whiteSpaceRanges : Ranges :=
  [(0x9, 0xD), (0x20, 0x20), (0x85, 0x85), (0xA0, 0xA0), (0x1680, 0x1680), (0x2000, 0x200A),
   (0x2028, 0x2029), (0x202F, 0x202F), (0x205F, 0x205F), (0x3000, 0x3000)]

/-- Whether a character is white space. -/
def isWhiteSpace (c : Char) : Bool := whiteSpaceRanges.has c

/-- Characters without the white space in front of and behind them. -/
def trimChars (cs : List Char) : List Char :=
  ((cs.dropWhile isWhiteSpace).reverse.dropWhile isWhiteSpace).reverse

/-- White space at the end of characters is left out of them. -/
theorem trimChars_concat {c : Char} (hc : isWhiteSpace c) (cs : List Char) :
    trimChars (cs ++ [c]) = trimChars cs := by
  unfold trimChars
  rw [List.dropWhile_append]
  cases hrest : cs.dropWhile isWhiteSpace with
  | nil => simp [hc]
  | cons d rest => simp [hc]

/-- A text without the white space in front of and behind it. -/
def trim (s : String) : String := String.ofList (trimChars s.toList)

end Reckoner.Text
