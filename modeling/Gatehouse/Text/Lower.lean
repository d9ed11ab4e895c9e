import Gatehouse.Text.Blank
import Gatehouse.Text.Lower.Table

/-!
# Lower case

The full lower-case mapping of a text. A capital sigma becomes the final form at the end of a word
and the plain form elsewhere; every other character is mapped on its own.
-/

namespace Gatehouse.Text

/-- The simple lower case of a code point by a table in ascending order. -/
def lowerCode : List CaseRange → Nat → Nat
  | [], n => n
  | r :: rs, n =>
    if n < r.first then n
    else if n ≤ r.last && (n - r.first) % r.step == 0 then (n + r.shift).toNat
    else lowerCode rs n

/-- The lower case of a character taken on its own. Only capital I with a dot above has a lower case
of two characters, the small letter and the dot. -/
def lowerChar (c : Char) : List Char :=
  if c.toNat = 0x130 then ['i', Char.ofNat 0x307] else [Char.ofNat (lowerCode lowerRanges c.toNat)]

/-- Whether the first character that counts for case is a cased one. -/
def startsCased (cs : List Char) : Bool :=
  match cs.dropWhile fun c => inRanges caseIgnorableRanges c.toNat with
  | c :: _ => inRanges casedRanges c.toNat
  | [] => false

/-- Lower case of the characters behind `before`, which holds the characters in front, last first. -/
def lowerFrom (before : List Char) : List Char → List Char
  | [] => []
  | c :: cs =>
    let mapped :=
      if c.toNat = 0x3A3 then
        if startsCased before && !startsCased cs then [Char.ofNat 0x3C2] else [Char.ofNat 0x3C3]
      else lowerChar c
    mapped ++ lowerFrom (c :: before) cs

def lower (s : String) : String := String.ofList (lowerFrom [] s.toList)

end Gatehouse.Text
