import Gatehouse.Text.Blank

/-!
# Email addresses

`Email.isValid` decides the shape of an address by looking at its only at sign and at the dots behind
it; `Email.Address` states the same shape as a grammar.
-/

namespace Gatehouse.Email

open Text (isBlank)

/-- A character that may stand in a part of an address: neither an at sign nor blank. -/
def isPlain (c : Char) : Bool := c != '@' && !isBlank c

/-- Whether some dot has a character on either side. -/
def hasInnerDot (domain : List Char) : Bool :=
  (domain.drop 1).dropLast.contains '.'

/-- Whether a text is a plain name, an at sign, and plain text with an inner dot. -/
def isValidList (cs : List Char) : Bool :=
  let name := cs.takeWhile isPlain
  match cs.dropWhile isPlain with
  | '@' :: domain => !name.isEmpty && domain.all isPlain && hasInnerDot domain
  | _ => false

/-- Whether a text has the shape of an email address. -/
def isValid (s : String) : Bool := isValidList s.toList

/-- The shape of an address: a name, an at sign, a domain, a dot and a last label, where the three
parts are not empty and hold plain characters only. A part may hold dots of its own. -/
def Address (cs : List Char) : Prop :=
  ∃ name domain label : List Char,
    cs = name ++ '@' :: domain ++ '.' :: label ∧
      name ≠ [] ∧ domain ≠ [] ∧ label ≠ [] ∧ ∀ c ∈ name ++ domain ++ label, isPlain c = true

end Gatehouse.Email
