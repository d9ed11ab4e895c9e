import Gatehouse.Text.Blank
import Gatehouse.Text.Quoted.Table

/-!
# Quoted text

A text between double quotes, as it is shown in a message: the quote, the backslash and the common
controls have escapes of their own, and a character that would not be visible is shown by its code
point in braces.
-/

namespace Gatehouse.Text

/-- How one character is shown between quotes. -/
def quotedChar (c : Char) : List Char :=
  if c = '"' || c = '\\' then ['\\', c]
  else if c = '\t' then ['\\', 't']
  else if c = '\n' then ['\\', 'n']
  else if c = '\r' then ['\\', 'r']
  else if c.toNat = 0 then ['\\', '0']
  else if inRanges hiddenRanges c.toNat then
    "\\u\x7b".toList ++ Nat.toDigits 16 c.toNat ++ "\x7d".toList
  else [c]

def quoted (s : String) : String :=
  String.ofList ('"' :: s.toList.flatMap quotedChar ++ ['"'])

end Gatehouse.Text
