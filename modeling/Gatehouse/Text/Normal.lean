import Gatehouse.Text.Blank
import Gatehouse.Text.Normal.Table

/-!
# The normal form of a text

Texts that differ only in how their letters and marks are put together have a form in common.

* `decompose` takes a character apart, `sortMarks` puts marks into the order of their classes, and
  `compose` puts together what can be put together.
* `normal` does all three to a text.
-/

namespace Gatehouse.Text

/-! ### Tables of runs -/

/-- The item of a code point in runs of items, each by the code point of its first item. -/
def atRun? {α : Type} (runs : List (Nat × List α)) (n : Nat) : Option α :=
  runs.findSome? fun (first, items) => if first ≤ n then items[n - first]? else none

/-- The characters that are replaced by one other, in runs. -/
def substituteRuns : List (Nat × List Char) := substitutes.map fun (first, text) => (first, text.toList)

/-! ### Korean syllables -/

/-- The consonant, the vowel and the final consonant, if there is one, of a syllable. -/
def splitSyllable? (n : Nat) : Option (List Nat) :=
  if 0xAC00 ≤ n ∧ n ≤ 0xD7A3 then
    let place := n - 0xAC00
    let final := if place % 28 = 0 then [] else [0x11A7 + place % 28]
    some ([0x1100 + place / 588, 0x1161 + place % 588 / 28] ++ final)
  else none

/-- The syllable of a consonant and a vowel, or of a syllable without a final consonant and one. -/
def joinSyllable? (a b : Nat) : Option Nat :=
  if 0x1100 ≤ a ∧ a ≤ 0x1112 ∧ 0x1161 ≤ b ∧ b ≤ 0x1175 then
    some (0xAC00 + (a - 0x1100) * 588 + (b - 0x1161) * 28)
  else if 0xAC00 ≤ a ∧ a ≤ 0xD7A3 ∧ (a - 0xAC00) % 28 = 0 ∧ 0x11A8 ≤ b ∧ b ≤ 0x11C2 then
    some (a + (b - 0x11A7))
  else none

/-! ### Taking apart -/

/-- The pair that composes to a character. -/
def pairOf? (n : Nat) : Option (Nat × Nat) :=
  compositions.findSome? fun (second, pairs) => (pairs.find? (·.2 == n)).map fun pair => (pair.1, second)

/-- A character taken apart in at most `depth` steps. -/
def decomposeSteps : (depth : Nat) → Nat → List Nat
  | 0, n => [n]
  | depth + 1, n =>
    match splitSyllable? n, pairOf? n, atRun? substituteRuns n with
    | some parts, _, _ => parts
    | _, some (first, second), _ => decomposeSteps depth first ++ [second]
    | _, _, some c => decomposeSteps depth c.toNat
    | _, _, _ => (expansions.lookup n).getD [n]

/-- A character taken apart in full. No character takes more than three steps. -/
def decompose (n : Nat) : List Nat := if n < 0xC0 then [n] else decomposeSteps 3 n

/-! ### The order of marks -/

/-- The class by which a mark is ordered, zero for all that keeps its place. -/
def combiningClass (n : Nat) : Nat :=
  if n < 0x300 then 0
  else
    match combiningRanges.find? fun (_, ranges) => inRanges ranges n with
    | some (number, _) => number
    | none => 0

/-- Adds a character to a text that is held last first. A mark goes in front of marks of higher classes. -/
def addMark (text : List Nat) (n : Nat) : List Nat :=
  match text with
  | [] => [n]
  | m :: rest =>
    if combiningClass n ≠ 0 ∧ combiningClass n < combiningClass m then m :: addMark rest n
    else n :: m :: rest

def sortMarks (text : List Nat) : List Nat := (text.foldl addMark []).reverse

/-! ### Putting together -/

/-- The character that two characters compose to. -/
def composePair? (a b : Nat) : Option Nat :=
  joinSyllable? a b <|> (compositions.lookup b).bind (·.lookup a)

/-- Composes a character with those behind it and goes on. `between` holds the marks that did not compose;
such a mark keeps others of its class and of lower ones from composing. -/
def composeFrom (start : Nat) (between : List Nat) : List Nat → List Nat
  | [] => start :: between
  | n :: rest =>
    let isBlocked := between.getLast?.any fun m => combiningClass n ≤ combiningClass m
    match if isBlocked then none else composePair? start n with
    | some composed => composeFrom composed between rest
    | none =>
      if combiningClass n = 0 then start :: between ++ composeFrom n [] rest
      else composeFrom start (between ++ [n]) rest

def compose : List Nat → List Nat
  | [] => []
  | n :: rest => composeFrom n [] rest

/-- The normal form of a text. Every text without marks and letters beyond the European ones is in it. -/
def normal (text : List Char) : List Char :=
  if text.all fun c => c.toNat < 0x300 then text
  else (compose (sortMarks (text.flatMap fun c => decompose c.toNat))).map Char.ofNat

end Gatehouse.Text
