import Gatehouse.Json.Reader

/-!
# Reading JSON: values that nobody asks for

`skip` takes a JSON value of any kind and any depth and keeps nothing of it. It follows the grammar
alone: it does not ask whether a string is UTF-8, whether surrogates come in pairs, or whether a
number is in range.
-/

namespace Gatehouse.Json

/-- The rest of a string behind its opening quote, kept nowhere. -/
def skipString : (fuel : Bytes) → Reader Unit
  | [] => throw .malformed
  | _ :: fuel => do
    let b ← take
    if b = 34 then pure ()
    else if b = 92 then
      let letter ← take
      if letter = 117 then
        let _word ← hexWord
        skipString fuel
      else if (letterEscape? letter).isSome then skipString fuel
      else throw .malformed
    else if b < 32 then throw .malformed
    else skipString fuel

def skipDigits : Reader Unit := do
  if (← takeDigits).isEmpty then throw .malformed

def skipExponent : Reader Unit := do
  let next ← peekByte
  if next = some 101 || next = some 69 then
    advance
    let sign ← peekByte
    if sign = some 43 || sign = some 45 then advance
    skipDigits

/-- A number behind its sign. -/
def skipNumber : Reader Unit := do
  let first ← take
  if first = 48 then
    if (← peekByte).any isDigit then throw .malformed
  else if isDigit first then
    let _digits ← takeDigits
  else throw .malformed
  if (← peekByte) = some 46 then
    advance
    skipDigits
  skipExponent

inductive Bracket
  | list
  | object
  deriving DecidableEq, Repr

def Bracket.close : Bracket → UInt8
  | list => 93
  | object => 125

/-- A key and its colon in an object, nothing in a list. -/
def skipKey : Bracket → Reader Unit
  | .list => pure ()
  | .object => do
    let _blanks ← peek
    expect 34
    skipString (← get)
    let _blanks ← peek
    expect 58

/-- Takes a value without brackets, or an opening bracket. -/
def skipStart : Reader (Option Bracket) := do
  match ← peek with
  | none => throw .malformed
  | some b =>
    if isDigit b then
      skipNumber
      pure none
    else
      advance
      if b = 91 then pure (some .list)
      else if b = 123 then pure (some .object)
      else
        if startsLiteral b then literalTail b
        else if b = 34 then skipString (← get)
        else if b = 45 then skipNumber
        else throw .malformed
        pure none

/-- Behind an opening bracket: whether a value follows, whose key is taken, or the closing bracket,
which is taken. -/
def skipOpening (bracket : Bracket) : Reader Bool := do
  if (← peek) = some bracket.close then
    advance
    pure false
  else
    skipKey bracket
    pure true

/-- Goes on inside the open brackets, innermost first. A value is due if `isDue` holds, and otherwise
one has just ended. -/
def skipFrom : (fuel : Bytes) → (isDue : Bool) → List Bracket → Reader Unit
  | [], _, _ => throw .malformed
  | _ :: fuel, true, brackets => do
    match ← skipStart with
    | some bracket =>
      if ← skipOpening bracket then skipFrom fuel true (bracket :: brackets)
      else if brackets.isEmpty then pure ()
      else skipFrom fuel false brackets
    | none => if brackets.isEmpty then pure () else skipFrom fuel false brackets
  | _ :: fuel, false, bracket :: brackets => do
    let next ← peek
    advance
    if next = some 44 then
      skipKey bracket
      skipFrom fuel true (bracket :: brackets)
    else if next = some bracket.close then
      if brackets.isEmpty then pure () else skipFrom fuel false brackets
    else throw .malformed
  | _ :: _, false, [] => pure ()

/-- Takes a value and keeps nothing of it. -/
def skip : Reader Unit := do skipFrom (← get) true []

end Gatehouse.Json
