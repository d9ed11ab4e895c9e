import Gatehouse.Json.Reader

/-!
# Reading JSON: numbers

A number is a natural number of 64 bits, a negative whole number of a signed 64-bit word, or a real
number. The value of a real number is not kept, but one that is greater than every double is refused.

* `roundTo53` rounds to the nearest number with 53 significant bits, ties to even.
* `fitsDouble` decides whether a decimal number is read as a finite double.
* `number` reads a number behind its sign.
-/

namespace Gatehouse.Json

/-- A number of a JSON text by its kind. -/
inductive Number
  | natural (n : Nat)
  | negative (n : Nat)
  | real
  deriving DecidableEq, Repr

/-! ### The range of doubles -/

/-- The nearest number with at most 53 significant bits; a tie goes to the even one. -/
def roundTo53 (n : Nat) : Nat :=
  if n < 0x20000000000000 then n
  else
    let unit := Nat.pow 2 (n.log2 - 52)
    let low := n / unit * unit
    if 2 * (n - low) < unit ∨ (2 * (n - low) = unit ∧ n / unit % 2 = 0) then low else low + unit

/-- Whether `significand * 10 ^ exponent` is read as a finite double: both factors are rounded to
double precision before they are multiplied. -/
def fitsDouble (significand : Nat) (exponent : Int) : Bool :=
  if exponent < 0 then true
  else if exponent ≤ 308 then
    roundTo53 significand * roundTo53 (Nat.pow 10 exponent.toNat) < Nat.pow 2 1024 - Nat.pow 2 970
  else significand == 0

/-- The real number `significand * 10 ^ exponent`, refused when it is out of range. -/
def realNumber (significand : Nat) (exponent : Int) : Reader Number :=
  if fitsDouble significand exponent then pure .real else throw .malformed

/-! ### Digits -/

/-- The first number past the unsigned 64-bit words. -/
def wordLimit : Nat := 0x10000000000000000

/-- Appends digits to a significand as long as it stays a 64-bit word. Gives the significand and how
many of the digits did not go into it. -/
def appendDigits (significand : Nat) : Bytes → Nat × Nat
  | [] => (significand, 0)
  | b :: rest =>
    let next := significand * 10 + (b.toNat - 48)
    if next < wordLimit then appendDigits next rest else (significand, rest.length + 1)

/-- The digits of an exponent, as long as it stays a signed 32-bit word; nothing if it does not, and
then the digits behind the offending one are left. -/
def exponentDigits (value : Nat) : Bytes → Option Nat × Bytes
  | [] => (some value, [])
  | b :: rest =>
    if isDigit b then
      let next := value * 10 + (b.toNat - 48)
      if next < 0x80000000 then exponentDigits next rest else (none, rest)
    else (some value, b :: rest)

/-- The exponent behind its letter. One that is too large makes a number too large, unless the number
is zero or the exponent is negative. -/
def exponentTail (significand : Nat) (exponent : Int) : Reader Number := do
  let sign ← peekByte
  if sign = some 43 || sign = some 45 then advance
  let first ← take
  if !isDigit first then throw .malformed
  match exponentDigits (first.toNat - 48) (← get) with
  | (some value, rest) =>
    set rest
    realNumber significand (if sign = some 45 then exponent - value else exponent + value)
  | (none, rest) =>
    set rest
    if significand ≠ 0 ∧ sign ≠ some 45 then throw .malformed
    let _digits ← takeDigits
    pure .real

def isExponentLetter (b : Option UInt8) : Bool := b == some 101 || b == some 69

/-- The digits behind a decimal point, at least one. -/
def fractionTail (significand : Nat) (exponent : Int) : Reader Number := do
  let digits ← takeDigits
  if digits.isEmpty then throw .malformed
  let (significand, unused) := appendDigits significand digits
  let exponent := exponent - (digits.length - unused : Nat)
  if isExponentLetter (← peekByte) then
    advance
    exponentTail significand exponent
  else realNumber significand exponent

/-- What stands behind the whole part of a number. -/
def numberTail (negative : Bool) (significand unused : Nat) : Reader Number := do
  let next ← peekByte
  if next = some 46 then
    advance
    fractionTail significand unused
  else if isExponentLetter next then
    advance
    exponentTail significand unused
  else if unused ≠ 0 then realNumber significand unused
  else if !negative then pure (.natural significand)
  else if significand = 0 ∨ 0x8000000000000000 < significand then pure .real
  else pure (.negative significand)

/-- A number behind its sign. No digit may follow a zero in front. -/
def number (negative : Bool) : Reader Number := do
  let first ← take
  if first = 48 then
    if (← peekByte).any isDigit then throw .malformed
    numberTail negative 0 0
  else if isDigit first then
    let digits ← takeDigits
    let (significand, unused) := appendDigits (first.toNat - 48) digits
    numberTail negative significand unused
  else throw .malformed

end Gatehouse.Json
