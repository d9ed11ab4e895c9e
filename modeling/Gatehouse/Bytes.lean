/-!
# Bytes

Byte strings as lists, the bytes of a text, and byte strings as text.

Base64 is without padding, in the standard alphabet and in the one that is safe in URLs. Three bytes make
four digits; two or three digits stand for one or two bytes at the end, and there the bits that no byte
needs are zero. `Base64.decode?` reads only what `Base64.encode` writes.
-/

namespace Gatehouse

abbrev Bytes := List UInt8

/-- The UTF-8 encoding of a text. -/
def utf8 (s : String) : Bytes := s.toUTF8.toList

/-- The text of a byte string that is well-formed UTF-8. -/
def ofUtf8? (b : Bytes) : Option String := String.fromUTF8? b.toByteArray

/-- The bytes of an ASCII text, one byte for each character. -/
def asciiBytes (cs : List Char) : Bytes := cs.map fun c => UInt8.ofNat c.toNat

/-! ## Base64 -/

namespace Base64

/-- The digits for 62 and 63; the others are the letters, capitals first, and the decimal digits. -/
structure Alphabet where
  digit62 : Char
  digit63 : Char

/-- The alphabet with a plus sign and a slash. -/
def standard : Alphabet := ⟨'+', '/'⟩

/-- The alphabet that is safe in URLs. -/
def urlSafe : Alphabet := ⟨'-', '_'⟩

/-- The digit for a number under 64. -/
def Alphabet.digit (a : Alphabet) (n : Nat) : Char :=
  if n < 26 then Char.ofNat (65 + n)
  else if n < 52 then Char.ofNat (97 + (n - 26))
  else if n < 62 then Char.ofNat (48 + (n - 52))
  else if n = 62 then a.digit62
  else a.digit63

/-- The number of a digit. -/
def Alphabet.value? (a : Alphabet) (c : Char) : Option Nat :=
  if 'A' ≤ c ∧ c ≤ 'Z' then some (c.toNat - 65)
  else if 'a' ≤ c ∧ c ≤ 'z' then some (c.toNat - 97 + 26)
  else if '0' ≤ c ∧ c ≤ '9' then some (c.toNat - 48 + 52)
  else if c = a.digit62 then some 62
  else if c = a.digit63 then some 63
  else none

def encode (a : Alphabet) : Bytes → List Char
  | x :: y :: z :: rest =>
    a.digit (x.toNat / 4) :: a.digit (x.toNat % 4 * 16 + y.toNat / 16) ::
      a.digit (y.toNat % 16 * 4 + z.toNat / 64) :: a.digit (z.toNat % 64) :: encode a rest
  | [x, y] =>
    [a.digit (x.toNat / 4), a.digit (x.toNat % 4 * 16 + y.toNat / 16), a.digit (y.toNat % 16 * 4)]
  | [x] => [a.digit (x.toNat / 4), a.digit (x.toNat % 4 * 16)]
  | [] => []

def decode? (a : Alphabet) : List Char → Option Bytes
  | c :: d :: e :: f :: rest => do
    let p ← a.value? c
    let q ← a.value? d
    let r ← a.value? e
    let s ← a.value? f
    let bytes ← decode? a rest
    pure (UInt8.ofNat (p * 4 + q / 16) :: UInt8.ofNat (q % 16 * 16 + r / 4) ::
      UInt8.ofNat (r % 4 * 64 + s) :: bytes)
  | [c, d, e] => do
    let p ← a.value? c
    let q ← a.value? d
    let r ← a.value? e
    if r % 4 = 0 then pure [UInt8.ofNat (p * 4 + q / 16), UInt8.ofNat (q % 16 * 16 + r / 4)]
    else none
  | [c, d] => do
    let p ← a.value? c
    let q ← a.value? d
    if q % 16 = 0 then pure [UInt8.ofNat (p * 4 + q / 16)] else none
  | [_] => none
  | [] => some []

end Base64

end Gatehouse
