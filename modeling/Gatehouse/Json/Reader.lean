import Gatehouse.Bytes

/-!
# Reading JSON: bytes, literals and strings

A reader takes JSON from the front of a byte string. Whether it succeeds or fails, it leaves the
bytes that it has not taken, so that a caller may go on behind a failure.

* `Flaw` tells text that is no JSON from JSON of the wrong shape.
* `peek` looks at the next byte that is not white space, `take` takes the next byte.
* `stringBody` reads a string behind its opening quote; `Reader.string` asks for a string.

Loops take a byte string as fuel: started on the whole rest of the input they never run out of it,
since each round takes a byte.
-/

namespace Gatehouse.Json

inductive Flaw
  /-- The text is no JSON. -/
  | malformed
  /-- The text may be JSON, but a value is not of the kind that is asked for. -/
  | mismatch
  deriving DecidableEq, Repr

/-- A reader: a value or a flaw, and the bytes that are left in either case. -/
abbrev Reader := ExceptT Flaw (StateM Bytes)

/-! ### Bytes -/

/-- The white space of JSON. -/
def isSpace (b : UInt8) : Bool := b == 32 || b == 10 || b == 9 || b == 13

def isDigit (b : UInt8) : Bool := 48 ≤ b && b ≤ 57

/-- The next byte, left in place. -/
def peekByte : Reader (Option UInt8) := fun text => (.ok text.head?, text)

/-- Drops white space and gives the next byte, left in place. -/
def peek : Reader (Option UInt8) := fun text =>
  let rest := text.dropWhile isSpace
  (.ok rest.head?, rest)

def take : Reader UInt8 := fun text =>
  match text with
  | [] => (.error .malformed, [])
  | b :: rest => (.ok b, rest)

/-- Drops the next byte, if there is one. -/
def advance : Reader Unit := fun text => (.ok (), text.tail)

def expect (wanted : UInt8) : Reader Unit := do
  if (← take) = wanted then pure () else throw .malformed

def expectAll : Bytes → Reader Unit
  | [] => pure ()
  | b :: rest => do
    expect b
    expectAll rest

/-- Takes the digits in front. -/
def takeDigits : Reader Bytes := fun text => (.ok (text.takeWhile isDigit), text.dropWhile isDigit)

/-- Takes the rest of a literal name behind its first byte: `null`, `true` or `false`. -/
def literalTail (first : UInt8) : Reader Unit :=
  if first = 110 then expectAll [117, 108, 108]
  else if first = 116 then expectAll [114, 117, 101]
  else expectAll [97, 108, 115, 101]

/-- Whether a byte starts a literal name. -/
def startsLiteral (b : UInt8) : Bool := b == 110 || b == 116 || b == 102

/-! ### Strings -/

def hexValue? (b : UInt8) : Option Nat :=
  if isDigit b then some (b.toNat - 48)
  else if 97 ≤ b && b ≤ 102 then some (b.toNat - 87)
  else if 65 ≤ b && b ≤ 70 then some (b.toNat - 55)
  else none

def hexWord : Reader Nat := fun text =>
  match text with
  | a :: b :: c :: d :: rest =>
    let value : Option Nat := do
      pure ((((← hexValue? a) * 16 + (← hexValue? b)) * 16 + (← hexValue? c)) * 16 + (← hexValue? d))
    match value with
    | some n => (.ok n, rest)
    | none => (.error .malformed, rest)
  | _ => (.error .malformed, [])

/-- The character of an escape by code units behind its `\u`. A leading surrogate needs a trailing one
in an escape of its own; no surrogate may stand alone. -/
def codeUnits : Reader Char := do
  let high ← hexWord
  if 0xDC00 ≤ high ∧ high ≤ 0xDFFF then throw .malformed
  else if high < 0xD800 ∨ 0xDBFF < high then pure (Char.ofNat high)
  else
    expect 92
    expect 117
    let low ← hexWord
    if low < 0xDC00 ∨ 0xDFFF < low then throw .malformed
    else pure (Char.ofNat (0x10000 + (high - 0xD800) * 0x400 + (low - 0xDC00)))

/-- The character of an escape by a single letter. -/
def letterEscape? (b : UInt8) : Option Char :=
  if b = 34 then some '"'
  else if b = 92 then some '\\'
  else if b = 47 then some '/'
  else if b = 98 then some (Char.ofNat 8)
  else if b = 102 then some (Char.ofNat 12)
  else if b = 110 then some '\n'
  else if b = 114 then some '\r'
  else if b = 116 then some '\t'
  else none

/-- The character of an escape behind its backslash. -/
def escape : Reader Char := do
  let b ← take
  if b = 117 then codeUnits
  else match letterEscape? b with
    | some c => pure c
    | none => throw .malformed

/-- The bytes of a string behind its opening quote, where `taken` holds those in front, last first. -/
def stringBody : (fuel taken : Bytes) → Reader Bytes
  | [], _ => throw .malformed
  | _ :: fuel, taken => do
    let b ← take
    if b = 34 then pure taken.reverse
    else if b = 92 then
      let c ← escape
      stringBody fuel ((String.utf8EncodeChar c).reverseAux taken)
    else if b < 32 then throw .malformed
    else stringBody fuel (b :: taken)

/-- A string behind its opening quote; it has to be UTF-8. -/
def stringTail : Reader String := do
  match ofUtf8? (← stringBody (← get) []) with
  | some s => pure s
  | none => throw .malformed

/-- Runs a reader and gives nothing where it fails; what is left is what the reader left. -/
def attempt {α : Type} (r : Reader α) : Reader (Option α) := fun text =>
  match r text with
  | (.ok a, rest) => (.ok (some a), rest)
  | (.error _, rest) => (.ok none, rest)

/-- Reads a whole text; only white space may stand behind the value. -/
def readAll {α : Type} (r : Reader α) (text : Bytes) : Except Flaw α :=
  match r text with
  | (.ok a, rest) => if rest.all isSpace then .ok a else .error .malformed
  | (.error e, _) => .error e

/-- Reads the value in front of a text and leaves the rest alone. -/
def readFront {α : Type} (r : Reader α) (text : Bytes) : Except Flaw α := (r text).1

end Gatehouse.Json
