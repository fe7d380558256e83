import Reckoner.Text.Extender
import Reckoner.Text.Unprintable

/-!
# Reckoner — texts in quotes

A text written so that nothing in it can be overlooked: between quotes, with a quote
and a backslash escaped, the common controls by their letters, and every other
character that is not shown, or takes no place of its own, by its code.
-/

namespace Reckoner.Text

/-- Characters that extend another one and yet take a place of their own: the halfwidth
sound marks. -/
def spacingExtenderRanges : Ranges := [(0xFF9E, 0xFF9F)]

/-- Letters that hold a place and are not shown: the fillers of Hangul. -/
def fillerRanges : Ranges := [(0x115F, 0x1160), (0x3164, 0x3164), (0xFFA0, 0xFFA0)]

/-- Whether a character can be overlooked where it stands in a text. -/
def isHidden (c : Char) : Bool :=
  unprintableRanges.has c || fillerRanges.has c
    || extenderRanges.has c && !spacingExtenderRanges.has c

/-- The code of a character in small hexadecimal digits between braces. -/
private def escapeCode (c : Char) : List Char :=
  "\\u".toList ++ '\x7b' :: Nat.toDigits 16 c.toNat ++ ['\x7d']

/-- How a character is written between quotes. -/
def quoteChar (c : Char) : List Char :=
  match c with
  | '"' => ['\\', '"']
  | '\\' => ['\\', '\\']
  | '\n' => ['\\', 'n']
  | '\r' => ['\\', 'r']
  | '\t' => ['\\', 't']
  | '\x00' => ['\\', '0']
  | c => if isHidden c then escapeCode c else [c]

/-- A text in quotes. -/
def quote (s : String) : String :=
  String.ofList ('"' :: s.toList.flatMap quoteChar ++ ['"'])

end Reckoner.Text
