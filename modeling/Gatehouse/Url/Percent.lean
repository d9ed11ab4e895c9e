import Gatehouse.Bytes

/-!
# Percent encoding

Characters that may not stand in a part of a URL are written as the bytes of their UTF-8 encoding, each
as a percent sign and two hexadecimal digits. Which they are depends on the part; a predicate says so.
Characters outside ASCII are always encoded.
-/

namespace Gatehouse.Url.Percent

def hexDigit (n : Nat) : Char := (Nat.digitChar (n % 16)).toUpper

def hexValue? (c : Char) : Option Nat :=
  if '0' ≤ c ∧ c ≤ '9' then some (c.toNat - 48)
  else if 'a' ≤ c ∧ c ≤ 'f' then some (c.toNat - 87)
  else if 'A' ≤ c ∧ c ≤ 'F' then some (c.toNat - 55)
  else none

def encodeByte (b : UInt8) : List Char := ['%', hexDigit (b.toNat / 16), hexDigit b.toNat]

/-- One character, encoded if it has to be. -/
def encodeChar (mustEncode : Char → Bool) (c : Char) : List Char :=
  if mustEncode c then (String.utf8EncodeChar c).flatMap encodeByte else [c]

/-- A text with the characters encoded that have to be. -/
def encode (mustEncode : Char → Bool) (cs : List Char) : List Char :=
  cs.flatMap (encodeChar mustEncode)

/-- The bytes of a text in which percent encoding is undone. A percent sign without two hexadecimal
digits stands for itself. -/
def decode : List Char → Bytes
  | '%' :: a :: b :: rest =>
    match hexValue? a, hexValue? b with
    | some high, some low => UInt8.ofNat (high * 16 + low) :: decode rest
    | _, _ => 37 :: decode (a :: b :: rest)
  | c :: rest => String.utf8EncodeChar c ++ decode rest
  | [] => []

/-! ### The parts of a URL -/

/-- Controls, and everything outside ASCII. -/
def inControls (c : Char) : Bool := c.toNat < 0x20 || 0x7E < c.toNat

def inFragment (c : Char) : Bool :=
  inControls c || c == ' ' || c == '"' || c == '<' || c == '>' || c.toNat == 0x60

/-- What is encoded in a query; an apostrophe only in URLs of the special schemes. -/
def inQuery (isSpecial : Bool) (c : Char) : Bool :=
  inControls c || c == ' ' || c == '"' || c == '#' || c == '<' || c == '>' ||
    (isSpecial && c.toNat == 0x27)

def inPath (c : Char) : Bool :=
  inFragment c || c == '#' || c == '?' || c.toNat == 0x7B || c.toNat == 0x7D

def inUserinfo (c : Char) : Bool :=
  inPath c || c == '/' || c == ':' || c == ';' || c == '=' || c == '@' || c == '[' || c == '\\' ||
    c == ']' || c == '^' || c == '|'

end Gatehouse.Url.Percent
