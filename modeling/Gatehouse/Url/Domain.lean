import Gatehouse.Text.Lower
import Gatehouse.Url.Domain.Direction
import Gatehouse.Url.Domain.Joining
import Gatehouse.Url.Domain.Mapping
import Gatehouse.Url.Punycode

/-!
# Domains

The form of a domain that is sent: labels in lower case and ASCII with dots between them. A label that
holds other characters is written in Punycode behind a mark.

* `mapChar?` is what a single character stands for.
* `label?` reads one label, in Punycode or not.
* `ascii?` is the form of a whole domain.
-/

namespace Gatehouse.Url.Domain

/-! ### Characters -/

/-- Runs of characters and the characters that they stand for. -/
def letters : List (Nat × List Char) := letterRuns.map fun (first, text) => (first, text.toList)

/-- Runs of characters and the words that they stand for. -/
def words : List (Nat × List (List Char)) :=
  wordRuns.map fun (first, text) => (first, Text.words text.toList)

/-- Whether a character is one of the capitals that have a lower case but are kept. -/
def isKeptCapital (c : Char) : Bool := 0x13A0 ≤ c.toNat && c.toNat ≤ 0x13F5

/-- What a character in a domain stands for, nothing if it is refused. -/
def mapChar? (c : Char) : Option (List Char) :=
  if c.toNat < 0x80 then some [c.toLower]
  else if isKeptCapital c then some [c]
  else if Text.inRanges ignoredRanges c.toNat then some []
  else if Text.inRanges refusedRanges c.toNat then none
  else
    match Text.atRun? letters c.toNat, Text.atRun? words c.toNat with
    | some letter, _ => some [letter]
    | none, some word => some word
    | none, none => some (Text.lowerChar c)

/-- Whether a text is one that its characters stand for, in normal form. -/
def isSettled (text : List Char) : Bool :=
  (text.all fun c => mapChar? c == some [c]) && Text.normal text == text

/-! ### Labels -/

/-- A label as it is written and as it is shown. -/
structure Label where
  written : List Char
  shown : List Char
  deriving DecidableEq, Repr

/-- The mark of a label in Punycode. -/
def mark : List Char := "xn--".toList

def isAscii (text : List Char) : Bool := text.all fun c => c.toNat < 0x80

/-- The greatest number of characters of a label that is written in Punycode. -/
def maxShown : Nat := 1000

/-- The greatest number of characters of Punycode that are read. -/
def maxCode : Nat := 2000

/-- Whether a label outside ASCII is well-formed: it does not start with a mark, its joiners are where
they may be, and it is not too long. -/
def isWellFormed (label : List Char) : Bool :=
  !label.head?.any Text.isMark && joinersFit [] label && label.length ≤ maxShown

/-- Reads a label in Punycode, behind its mark. It has to be the code of a label that is settled. -/
def marked? (code : List Char) : Option Label :=
  if code.getLast? = none ∨ code.getLast? = some '-' ∨ maxCode < code.length ∨ !isAscii code then none
  else
    match Punycode.decode? code with
    | some shown => if isSettled shown && isWellFormed shown then some ⟨mark ++ code, shown⟩ else none
    | none => none

/-- Reads a label of mapped characters. -/
def label? (text : List Char) : Option Label :=
  if text.take 4 = mark then marked? (text.drop 4)
  else if isAscii text then some ⟨text, text⟩
  else if isWellFormed text then some ⟨mark ++ Punycode.encode text, text⟩
  else none

/-! ### Whole domains -/

/-- A domain in ASCII. -/
def ascii? (name : List Char) : Option (List Char) := do
  let texts ← name.mapM mapChar?
  let labels ← ((Text.normal texts.flatten).splitOn '.').mapM label?
  if (labels.any fun l => runsRight l.shown) && !labels.all fun l => keepsOrder l.shown then none
  else pure (['.'].intercalate (labels.map Label.written))

end Gatehouse.Url.Domain
