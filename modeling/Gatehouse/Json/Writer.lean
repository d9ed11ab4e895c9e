import Gatehouse.Text.Integer

/-!
# Writing JSON

Compact JSON: no white space, members in the order given. In strings the quote, the backslash and the
controls are escaped, the common controls by a letter; every other character stands for itself.
-/

namespace Gatehouse.Json

def hexDigit (n : Nat) : Char := Nat.digitChar (n % 16)

/-- One character of a string. -/
def escapedChar (c : Char) : List Char :=
  if c = '"' then ['\\', '"']
  else if c = '\\' then ['\\', '\\']
  else if c.toNat = 8 then ['\\', 'b']
  else if c.toNat = 12 then ['\\', 'f']
  else if c = '\n' then ['\\', 'n']
  else if c = '\r' then ['\\', 'r']
  else if c = '\t' then ['\\', 't']
  else if c.toNat < 32 then ['\\', 'u', '0', '0', hexDigit (c.toNat / 16), hexDigit c.toNat]
  else [c]

/-- A string between its quotes. -/
def writeString (s : String) : List Char := '"' :: s.toList.flatMap escapedChar ++ ['"']

def writeInt (n : Int) : List Char := Text.decimal n

def writeBool (b : Bool) : List Char := if b then "true".toList else "false".toList

def commaSeparated : List (List Char) → List Char
  | [] => []
  | [item] => item
  | item :: items => item ++ ',' :: commaSeparated items

def writeList (items : List (List Char)) : List Char := '[' :: commaSeparated items ++ [']']

def writeMember (m : String × List Char) : List Char := writeString m.1 ++ ':' :: m.2

def writeObject (members : List (String × List Char)) : List Char :=
  Char.ofNat 0x7B :: commaSeparated (members.map writeMember) ++ [Char.ofNat 0x7D]

end Gatehouse.Json
