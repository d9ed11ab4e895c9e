import Gatehouse.Json.Container
import Gatehouse.Json.Skip

/-!
# Reading JSON: records

A record has named members. It is written as an object, whose members may come in any order and among
others that are skipped, or as the list of its members in their order.
`Record.read` collects the members into a draft.
-/

namespace Gatehouse.Json

/-- When a member of a record may be left out. -/
inductive Presence
  /-- Never. -/
  | required
  /-- In an object, but not in a list. -/
  | nullable
  /-- In an object and at the end of a list. -/
  | defaulted
  deriving DecidableEq, Repr

/-- A member of a record that is collected into a draft of type `δ`. -/
structure Member (δ : Type) where
  /-- The key under which it stands in an object. -/
  key : String
  presence : Presence
  /-- Whether a draft has it. -/
  isSet : δ → Bool
  /-- Reads its value into a draft. -/
  read : δ → Reader δ

namespace Member

variable {δ α : Type}

/-- A member that is one optional field of the draft. -/
def field (key : String) (presence : Presence) (get : δ → Option α) (put : α → δ → δ)
    (value : Reader α) : Member δ where
  key := key
  presence := presence
  isSet draft := (get draft).isSome
  read draft := do
    let a ← value
    pure (put a draft)

end Member

namespace Record

variable {δ : Type}

/-- One member of the object form. A key that comes a second time is a mismatch, and one that no member
has is skipped with its value. -/
def member (members : List (Member δ)) (name : String) (draft : δ) : Reader δ := do
  match members.find? (·.key == name) with
  | some m =>
    if m.isSet draft then throw .mismatch
    Reader.colon
    m.read draft
  | none =>
    Reader.colon
    skip
    pure draft

def readObject (members : List (Member δ)) (start : δ) : Reader δ :=
  Reader.closedBy (do
    let draft ← Reader.membersFrom (member members) (← get) true start
    if members.all fun m => m.presence != .required || m.isSet draft then pure draft
    else throw .mismatch) Reader.endObject

/-- The members of the list form from a given one on. -/
def positions : List (Member δ) → (isFirst : Bool) → δ → Reader δ
  | [], _, draft => pure draft
  | m :: members, isFirst, draft => do
    if ← Reader.hasItem isFirst then
      let draft ← m.read draft
      positions members false draft
    else if m.presence = .defaulted then positions members isFirst draft
    else throw .mismatch

/-- A record in either form, read into a draft that starts as `start`. -/
def read (members : List (Member δ)) (start : δ) : Reader δ := do
  let next ← peek
  if next = some 123 then
    advance
    readObject members start
  else if next = some 91 then
    advance
    Reader.closedBy (positions members true start) Reader.endList
  else Reader.refuse

end Record

end Gatehouse.Json
