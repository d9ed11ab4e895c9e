import Gatehouse.Json.Container

/-!
# JSON values

Values of any kind, for places where a reader must look at a value before it knows what to ask for.
Lists and objects may be nested to a fixed depth only.
-/

namespace Gatehouse.Json

/-- A JSON value. An object keeps its members in the order in which they were written. -/
inductive Value
  | null
  | bool (b : Bool)
  | number (n : Number)
  | text (s : String)
  | list (items : List Value)
  | object (members : List (String × Value))

namespace Value

def text? : Value → Option String
  | text s => some s
  | _ => none

def texts? : Value → Option (List String)
  | list items => items.mapM text?
  | _ => none

end Value

/-- The number of lists and objects that may stand inside one another. -/
def maxNesting : Nat := 127

namespace Reader

/-- A value without brackets, whose first byte is next. -/
def scalar : Reader Value := do
  match ← peekByte with
  | none => throw .malformed
  | some b =>
    if b = 110 then
      advance
      literalTail b
      pure .null
    else if startsLiteral b then
      advance
      literalTail b
      pure (.bool (b == 116))
    else if b = 45 then
      advance
      return .number (← number true)
    else if isDigit b then return .number (← number false)
    else if b = 34 then
      advance
      return .text (← stringTail)
    else throw .malformed

/-- The members of an object with values read by `value`. -/
def pairsOf (value : Reader Value) : Reader (List (String × Value)) := do
  let found ← objectOf (fun name found => do
    colon
    let v ← value
    pure ((name, v) :: found)) []
  pure found.reverse

/-- A value in which at most `nesting` lists and objects stand inside one another. -/
def value : (nesting : Nat) → Reader Value
  | 0 => do
    let next ← peek
    if next = some 91 || next = some 123 then throw .malformed else scalar
  | nesting + 1 => do
    let next ← peek
    if next = some 91 then return .list (← listOf (value nesting))
    else if next = some 123 then return .object (← pairsOf (value nesting))
    else scalar

end Reader

end Gatehouse.Json
