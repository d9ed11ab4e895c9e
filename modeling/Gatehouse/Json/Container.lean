import Gatehouse.Json.Number

/-!
# Reading JSON: values of a given kind

* `refuse` is what every reader does with a value of another kind: it takes a literal, number or
  string, leaves a list or object alone, and reports a mismatch.
* `string`, `word`, `natWord`, `nullable`, `variant` read single values.
* `listOf` and `objectOf` read lists and objects. Where an item or member fails, they still take the
  closing bracket if it comes next.
-/

namespace Gatehouse.Json.Reader

variable {α σ : Type}

/-! ### Single values -/

/-- Refuses the value at hand, whose first byte is next. -/
def refuse : Reader α := do
  match ← peekByte with
  | none => throw .malformed
  | some b =>
    if startsLiteral b then
      advance
      literalTail b
      throw .mismatch
    else if b = 45 then
      advance
      let _number ← number true
      throw .mismatch
    else if isDigit b then
      let _number ← number false
      throw .mismatch
    else if b = 34 then
      advance
      let _text ← stringTail
      throw .mismatch
    else if b = 91 || b = 123 then throw .mismatch
    else throw .malformed

def string : Reader String := do
  if (← peek) = some 34 then
    advance
    stringTail
  else refuse

def anyNumber : Reader Number := do
  let next ← peek
  if next = some 45 then
    advance
    number true
  else if next.any isDigit then number false
  else refuse

/-- A whole number of a signed 64-bit word. -/
def word : Reader Int := do
  match ← anyNumber with
  | .natural n => if n < 0x8000000000000000 then pure n else throw .mismatch
  | .negative n => pure (-n)
  | .real => throw .mismatch

/-- A whole number of an unsigned 64-bit word. -/
def natWord : Reader Nat := do
  match ← anyNumber with
  | .natural n => pure n
  | _ => throw .mismatch

def null : Reader Unit := do
  if (← peek) = some 110 then
    advance
    literalTail 110
  else refuse

/-- The literal `null`, or a value. -/
def nullable (value : Reader α) : Reader (Option α) := do
  if (← peek) = some 110 then
    advance
    literalTail 110
    pure none
  else
    let a ← value
    pure (some a)

/-- A string that is one of a set of names. -/
def named (ofName? : String → Option α) : Reader α := do
  match ofName? (← string) with
  | some a => pure a
  | none => throw .mismatch

/-! ### Lists -/

/-- Runs a reader of what stands inside brackets and then the reader of the closing one, the latter
also where the former fails. -/
def closedBy (inside : Reader α) (close : Reader Unit) : Reader α := fun text =>
  match inside text with
  | (.ok a, rest) =>
    match close rest with
    | (.ok _, rest) => (.ok a, rest)
    | (.error e, rest) => (.error e, rest)
  | (.error e, rest) => (.error e, (close rest).2)

/-- The end of a list. A comma in its place is taken. -/
def endList : Reader Unit := do
  let next ← peek
  if next = some 93 then advance
  else
    if next = some 44 then
      advance
      let _blanks ← peek
    throw .malformed

/-- Whether another item follows in a list, whose comma is taken. -/
def hasItem (isFirst : Bool) : Reader Bool := do
  match ← peek with
  | none => throw .malformed
  | some b =>
    if b = 93 then pure false
    else if isFirst then pure true
    else if b = 44 then
      advance
      match ← peek with
      | none => throw .malformed
      | some b => if b = 93 then throw .malformed else pure true
    else throw .malformed

/-- The items of a list, where `found` holds those in front, last first. -/
def itemsFrom (item : Reader α) : (fuel : Bytes) → List α → Reader (List α)
  | [], _ => throw .malformed
  | _ :: fuel, found => do
    if ← hasItem found.isEmpty then
      let a ← item
      itemsFrom item fuel (a :: found)
    else pure found.reverse

def listOf (item : Reader α) : Reader (List α) := do
  if (← peek) = some 91 then
    advance
    closedBy (do itemsFrom item (← get) []) endList
  else refuse

/-! ### Objects -/

def endObject : Reader Unit := do
  if (← peek) = some 125 then advance else throw .malformed

/-- Whether another member follows in an object, whose comma is taken. -/
def hasMember (isFirst : Bool) : Reader Bool := do
  match ← peek with
  | none => throw .malformed
  | some b =>
    if b = 125 then pure false
    else
      if !isFirst then
        if b = 44 then advance else throw .malformed
      if (← peek) = some 34 then pure true else throw .malformed

/-- A key; its opening quote is next. -/
def key : Reader String := do
  advance
  stringTail

def colon : Reader Unit := do
  if (← peek) = some 58 then advance else throw .malformed

/-- The members of an object, each handed to `member` with its key, in order. The reader `member`
takes the colon and the value. -/
def membersFrom (member : String → σ → Reader σ) : (fuel : Bytes) → Bool → σ → Reader σ
  | [], _, _ => throw .malformed
  | _ :: fuel, isFirst, state => do
    if ← hasMember isFirst then
      let name ← key
      let state ← member name state
      membersFrom member fuel false state
    else pure state

/-- An object whose members are handed to `member` in order. -/
def objectOf (member : String → σ → Reader σ) (start : σ) : Reader σ := do
  if (← peek) = some 123 then
    advance
    closedBy (do membersFrom member (← get) true start) endObject
  else refuse

/-! ### Names with an empty payload -/

/-- One of a set of names, as a string or as an object with the name as its only key and `null` as its
value. Nothing else is taken for it, not even as JSON of another kind. -/
def variant (ofName? : String → Option α) : Reader α := do
  let next ← peek
  if next = some 123 then
    advance
    let a ← named ofName?
    colon
    null
    endObject
    pure a
  else if next = some 34 then named ofName?
  else throw .malformed

end Gatehouse.Json.Reader
