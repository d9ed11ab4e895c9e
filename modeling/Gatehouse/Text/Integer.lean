/-!
# Whole numbers as decimal text

Readers for whole numbers written with ASCII digits: one that takes an optional sign and is bounded
to signed 64-bit words, one without a minus sign that is bounded to unsigned 64-bit words.
The whole text has to be the number: no blanks, no separators.
-/

namespace Gatehouse.Text

def minWord : Int := -0x8000000000000000

def maxWord : Int := 0x7FFFFFFFFFFFFFFF

def IsWord (n : Int) : Prop := minWord ≤ n ∧ n ≤ maxWord

instance (n : Int) : Decidable (IsWord n) := inferInstanceAs (Decidable (_ ∧ _))

/-- The number of a non-empty list of ASCII digits. -/
def digits? (cs : List Char) : Option Nat :=
  if cs.isEmpty || !cs.all Char.isDigit then none else some (Nat.ofDigitChars 10 cs 0)

/-- The number of a text of digits that may follow a plus or a minus sign. -/
def whole? (cs : List Char) : Option Int :=
  match cs with
  | '+' :: rest => (digits? rest).map Int.ofNat
  | '-' :: rest => (digits? rest).map fun n => -(n : Int)
  | _ => (digits? cs).map Int.ofNat

/-- A text read as a signed 64-bit whole number. -/
def word? (s : String) : Option Int := (whole? s.toList).filter fun n => decide (IsWord n)

/-- A text read as an unsigned 64-bit whole number; a plus sign may stand in front. -/
def natWord? (s : String) : Option Nat :=
  let read (cs : List Char) := (digits? cs).filter (· < 0x10000000000000000)
  match s.toList with
  | '+' :: rest => read rest
  | cs => read cs

/-- A whole number in decimal, with a minus sign when it is negative. -/
def decimal : Int → List Char
  | .ofNat n => Nat.toDigits 10 n
  | .negSucc n => '-' :: Nat.toDigits 10 (n + 1)

end Gatehouse.Text
