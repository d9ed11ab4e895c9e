/-!
# Punycode

A label of letters outside ASCII as letters, digits and hyphens. The ASCII characters come first; the
others follow as numbers that tell which character is put where, in ascending order of code points.

`Punycode.encode` writes a label, and `Punycode.decode?` reads it back.
-/

namespace Gatehouse.Url.Punycode

def digit (n : Nat) : Char := if n < 26 then Char.ofNat (97 + n) else Char.ofNat (48 + (n - 26))

def value? (c : Char) : Option Nat :=
  if 'a' ≤ c ∧ c ≤ 'z' then some (c.toNat - 97)
  else if 'A' ≤ c ∧ c ≤ 'Z' then some (c.toNat - 65)
  else if '0' ≤ c ∧ c ≤ '9' then some (c.toNat - 48 + 26)
  else none

/-- The threshold of the digit at a position that is counted in steps of 36. -/
def threshold (position bias : Nat) : Nat := max 1 (min 26 (position - bias))

/-- Divides a difference until it is small, counting up in steps of 36. -/
def settle : (fuel : Nat) → Nat → Nat → Nat
  | 0, _, count => count
  | fuel + 1, delta, count =>
    if 455 < delta then settle fuel (delta / 35) (count + 36) else count + 36 * delta / (delta + 38)

/-- The bias behind a difference, when `points` characters are in place. -/
def adapt (delta points : Nat) (isFirst : Bool) : Nat :=
  let delta := if isFirst then delta / 700 else delta / 2
  settle (delta + 1) (delta + delta / points) 0

/-! ### Writing -/

def number : (fuel : Nat) → (position bias : Nat) → Nat → List Char
  | 0, _, _, _ => []
  | fuel + 1, position, bias, delta =>
    let t := threshold position bias
    if delta < t then [digit delta]
    else digit (t + (delta - t) % (36 - t)) :: number fuel (position + 36) bias ((delta - t) / (36 - t))

/-- What is known while a label is written. -/
structure Progress where
  written : List Char
  delta : Nat
  bias : Nat
  points : Nat

/-- Goes over one character of a label while the characters of code point `point` are put in place. -/
def pass (basic point : Nat) (p : Progress) (c : Char) : Progress :=
  if c.toNat < point then { p with delta := p.delta + 1 }
  else if c.toNat = point then
    { written := p.written ++ number (p.delta + 1) 36 p.bias p.delta
      delta := 0
      bias := adapt p.delta (p.points + 1) (p.points == basic)
      points := p.points + 1 }
  else p

/-- Puts the characters of one code point after another in place. -/
def passes (label : List Char) (basic : Nat) : (next : Nat) → List Nat → Progress → Progress
  | _, [], p => p
  | next, point :: rest, p =>
    let p := { p with delta := p.delta + (point - next) * (p.points + 1) }
    let p := label.foldl (pass basic point) p
    passes label basic (point + 1) rest { p with delta := p.delta + 1 }

/-- The code points outside ASCII, each once, in ascending order. -/
def foreignPoints (label : List Char) : List Nat :=
  (((label.map Char.toNat).filter (128 ≤ ·)).mergeSort).eraseDups

/-- The Punycode of a label. -/
def encode (label : List Char) : List Char :=
  let basic := label.filter fun c => c.toNat < 128
  let p := passes label basic.length 128 (foreignPoints label) ⟨[], 0, 72, basic.length⟩
  basic ++ (if basic.isEmpty then [] else ['-']) ++ p.written

/-! ### Reading -/

/-- The greatest number that is reckoned with. -/
def maxNumber : Nat := 0xFFFFFFFF

/-- Reads a difference: adds it to `sum` and gives what is left. -/
def readNumber (bias : Nat) : (position weight sum : Nat) → List Char → Option (Nat × List Char)
  | _, _, _, [] => none
  | position, weight, sum, c :: rest =>
    match value? c with
    | none => none
    | some d =>
      let sum := sum + d * weight
      let t := threshold position bias
      if maxNumber < sum then none
      else if d < t then some (sum, rest)
      else if maxNumber / (36 - t) < weight then none
      else readNumber bias (position + 36) (weight * (36 - t)) sum rest

/-- Puts the characters of the differences that are left in place. -/
def place : (fuel : Nat) → (label : List Char) → (point index bias : Nat) → List Char →
    Option (List Char)
  | _, label, _, _, _, [] => some label
  | 0, _, _, _, _, _ :: _ => none
  | fuel + 1, label, point, index, bias, text => do
    let (sum, rest) ← readNumber bias 36 1 index text
    let points := label.length + 1
    let point := point + sum / points
    let spot := sum % points
    if 0x110000 ≤ point ∨ (0xD800 ≤ point ∧ point < 0xE000) then none
    else
      place fuel (label.take spot ++ Char.ofNat point :: label.drop spot) point (spot + 1)
        (adapt (sum - index) points (index == 0)) rest

/-- The label of a Punycode text. A hyphen in front of the numbers stands behind something. -/
def decode? (text : List Char) : Option (List Char) :=
  let tail := (text.reverse.takeWhile (· != '-')).reverse
  let basic := text.take (text.length - tail.length - 1)
  if basic.isEmpty ∧ tail.length < text.length then none else place tail.length basic 128 0 72 tail

end Gatehouse.Url.Punycode
