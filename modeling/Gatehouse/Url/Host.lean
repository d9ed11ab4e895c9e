import Gatehouse.Url.Domain
import Gatehouse.Url.Percent

/-!
# Hosts

The host of a URL: a domain, an address of version 4 or 6, or, where the scheme gives hosts no meaning,
any text. `Host.parse?` reads the host of a URL with a special scheme, `Host.parseOther?` that of any
other, and `Host.write` writes both.
-/

namespace Gatehouse.Url

inductive Host
  | empty
  | domain (name : List Char)
  | ipv4 (address : Nat)
  | ipv6 (pieces : List Nat)
  | other (name : List Char)
  deriving DecidableEq, Repr

namespace Host

/-! ### Addresses of version 4 -/

/-- The value of a digit in some base up to 16. -/
def digitValue? (base : Nat) (c : Char) : Option Nat := (Percent.hexValue? c).filter (· < base)

/-- The number of some digits in a base, zero for none. -/
def number? (base : Nat) (digits : List Char) : Option Nat :=
  digits.foldlM (fun n c => (digitValue? base c).map (n * base + ·)) 0

/-- The number of one part of an address: decimal, octal behind a zero, hexadecimal behind `0x`. -/
def ipv4Part? : List Char → Option Nat
  | [] => none
  | '0' :: 'x' :: digits | '0' :: 'X' :: digits => number? 16 digits
  | '0' :: digit :: digits => number? 8 (digit :: digits)
  | digits => number? 10 digits

/-- The parts of a name between its dots, without an empty part at the end. -/
def parts (name : List Char) : List (List Char) :=
  let parts := name.splitOn '.'
  if 1 < parts.length ∧ parts.getLast? = some [] then parts.dropLast else parts

/-- Whether a name has to be an address, because its last part looks like a number. -/
def endsInNumber (name : List Char) : Bool :=
  match (parts name).getLast? with
  | some last => (!last.isEmpty && last.all Char.isDigit) || (ipv4Part? last).isSome
  | none => false

/-- The address of a name. The last part fills all the bytes that the others leave. -/
def ipv4? (name : List Char) : Option Nat := do
  let numbers ← (parts name).mapM ipv4Part?
  match numbers.reverse with
  | last :: front =>
    let front := front.reverse
    if 3 < front.length ∨ front.any (255 < ·) ∨ Nat.pow 256 (4 - front.length) ≤ last then none
    else pure (front.foldl (fun n part => n * 256 + part) 0 * Nat.pow 256 (4 - front.length) + last)
  | [] => none

def writeIpv4 (address : Nat) : List Char :=
  let part (n : Nat) := Nat.toDigits 10 (address / Nat.pow 256 n % 256)
  part 3 ++ '.' :: part 2 ++ '.' :: part 1 ++ '.' :: part 0

/-! ### Addresses of version 6 -/

/-- The number of one piece: one to four hexadecimal digits. -/
def piece? (digits : List Char) : Option Nat :=
  if digits.isEmpty ∨ 4 < digits.length then none else number? 16 digits

/-- A byte of an address of version 4 at the end: decimal without zeros in front. -/
def tailByte? (digits : List Char) : Option Nat :=
  match digits with
  | [] => none
  | '0' :: _ :: _ => none
  | _ => (number? 10 digits).filter (· ≤ 255)

/-- The pieces of a group of colon-separated texts, the last of which may be an address of version 4
where `allowTail` holds. -/
def pieces? (allowTail : Bool) : List (List Char) → Option (List Nat)
  | [] => some []
  | [last] =>
    if allowTail && last.contains '.' then
      match (last.splitOn '.').mapM tailByte? with
      | some [a, b, c, d] => some [a * 256 + b, c * 256 + d]
      | _ => none
    else (piece? last).map fun n => [n]
  | first :: rest => do
    let n ← piece? first
    let pieces ← pieces? allowTail rest
    pure (n :: pieces)

/-- The pieces of a text, none for the empty one. -/
def piecesOf? (allowTail : Bool) (text : List Char) : Option (List Nat) :=
  if text.isEmpty then some [] else pieces? allowTail (text.splitOn ':')

/-- Cuts a text at its first two colons. -/
def cutColons : List Char → Option (List Char × List Char)
  | ':' :: ':' :: rest => some ([], rest)
  | c :: rest => (cutColons rest).map fun (front, behind) => (c :: front, behind)
  | [] => none

/-- The eight pieces of an address. Two colons stand for one or more pieces of zeros. -/
def ipv6? (text : List Char) : Option (List Nat) :=
  match cutColons text with
  | none => (piecesOf? true text).filter fun pieces => pieces.length == 8
  | some (front, behind) => do
    let front ← piecesOf? false front
    let behind ← piecesOf? true behind
    if 7 < front.length + behind.length then none
    else pure (front ++ List.replicate (8 - (front.length + behind.length)) 0 ++ behind)

/-- The number of zeros in front. -/
def zeros (pieces : List Nat) : Nat := (pieces.takeWhile (· == 0)).length

/-- The greatest number of zeros in a row. -/
def longestZeros : List Nat → Nat
  | [] => 0
  | n :: rest => max (zeros (n :: rest)) (longestZeros rest)

/-- Hexadecimal pieces with colons between them. -/
def writePieces : List Nat → List Char
  | [] => []
  | [n] => Nat.toDigits 16 n
  | n :: rest => Nat.toDigits 16 n ++ ':' :: writePieces rest

/-- Pieces up to the first run of zeros of a given length, and those behind it. -/
def cutZeros (run : Nat) : List Nat → List Nat × List Nat
  | [] => ([], [])
  | n :: rest =>
    if zeros (n :: rest) = run then ([], (n :: rest).drop run)
    else
      let (front, behind) := cutZeros run rest
      (n :: front, behind)

/-- An address with its first longest run of two or more zeros as two colons. -/
def writeIpv6 (pieces : List Nat) : List Char :=
  let run := longestZeros pieces
  if run < 2 then writePieces pieces
  else
    let (front, behind) := cutZeros run pieces
    writePieces front ++ ':' :: ':' :: writePieces behind

/-! ### Domains -/

/-- A character that may not stand in any host. -/
def isForbidden (c : Char) : Bool :=
  c.toNat = 0 || c == '\t' || c == '\n' || c == '\r' || c == ' ' || c == '#' || c == '/' || c == ':' ||
    c == '<' || c == '>' || c == '?' || c == '@' || c == '[' || c == '\\' || c == ']' || c == '^' ||
    c == '|'

/-- A character that may not stand in a domain. -/
def isForbiddenInDomain (c : Char) : Bool :=
  isForbidden c || c.toNat < 0x20 || c == '%' || c.toNat = 0x7F

/-- The domain of a name: its form in ASCII, if every character of that may stand in a domain. -/
def domain? (name : List Char) : Option (List Char) :=
  (Domain.ascii? name).filter fun domain => !domain.isEmpty && !domain.any isForbiddenInDomain

/-! ### Reading and writing -/

/-- The address between square brackets, if a text starts with one. -/
def bracketed? : List Char → Option (Option Host)
  | '[' :: rest =>
    if rest.getLast? = some ']' then some ((ipv6? rest.dropLast).map ipv6) else some none
  | _ => none

/-- The host of a URL with a special scheme. -/
def parse? (text : List Char) : Option Host :=
  match bracketed? text with
  | some host => host
  | none => do
    let name ← ofUtf8? (Percent.decode text)
    let domain ← domain? name.toList
    if endsInNumber domain then (ipv4? domain).map ipv4 else pure (.domain domain)

/-- The host of a URL with any other scheme. -/
def parseOther? (text : List Char) : Option Host :=
  match bracketed? text with
  | some host => host
  | none =>
    if text.isEmpty then some .empty
    else if text.any isForbidden then none
    else some (.other (Percent.encode Percent.inControls text))

def write : Host → List Char
  | empty => []
  | domain name => name
  | ipv4 address => writeIpv4 address
  | ipv6 pieces => '[' :: writeIpv6 pieces ++ [']']
  | other name => name

end Host

end Gatehouse.Url
