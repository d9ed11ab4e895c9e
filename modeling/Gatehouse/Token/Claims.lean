import Gatehouse.Fault
import Gatehouse.Json.Record
import Gatehouse.Json.Value
import Gatehouse.Json.Writer
import Gatehouse.Role

/-!
# Claims

What a token says about its bearer, as JSON text.

* `Claims.write` and `Claims.read` are the payload of a token.
* `Conditions.read` reads the same payload again for the members that restrict a token.
-/

namespace Gatehouse.Token

open Json

/-- What a token says: whose it is, that account's email address and role, and the second since the
start of 1970 after which it is void. -/
structure Claims where
  subject : String
  email : String
  role : Role
  expiry : Nat
  deriving DecidableEq

namespace Claims

/-- The id of the account that the token was issued to. -/
def accountId (c : Claims) : Except Fault Int :=
  match Text.word? c.subject with
  | some id => .ok id
  | none => .error .tokenClaims

/-- The payload that states the claims. -/
def write (c : Claims) : List Char :=
  writeObject [("sub", writeString c.subject), ("email", writeString c.email),
    ("role", writeString c.role.name), ("exp", writeInt c.expiry)]

/-- Claims while they are read. -/
structure Draft where
  subject : Option String := none
  email : Option String := none
  role : Option Role := none
  expiry : Option Nat := none

/-- The members of a payload that make up the claims; all are required. -/
def members : List (Member Draft) :=
  [.field "sub" .required Draft.subject (fun s d => { d with subject := some s }) Reader.string,
    .field "email" .required Draft.email (fun s d => { d with email := some s }) Reader.string,
    .field "role" .required Draft.role (fun r d => { d with role := some r })
      (Reader.variant Role.ofName?),
    .field "exp" .required Draft.expiry (fun n d => { d with expiry := some n }) Reader.natWord]

def ofDraft? (d : Draft) : Option Claims := do
  pure ⟨← d.subject, ← d.email, ← d.role, ← d.expiry⟩

/-- Reads the claims of a payload. -/
def read : Reader Claims := do
  match ofDraft? (← Record.read members {}) with
  | some c => pure c
  | none => throw .mismatch

end Claims

/-! ### Conditions -/

/-- The members of a payload that restrict the use of a token, as far as they were read. A member of
an unexpected kind counts as read. -/
structure Conditions where
  seen : List String := []
  audience : Option Value := none

namespace Conditions

/-- A number; of a list or object only an empty one is taken. -/
def numeric : Reader Number := do
  let next ← peek
  if next = some 91 then
    advance
    Reader.closedBy (throw .mismatch) Reader.endList
  else if next = some 123 then
    advance
    Reader.closedBy (throw .mismatch) Reader.endObject
  else Reader.anyNumber

/-- A member whose value is only noted as seen. Its reader may fail; reading then goes on where it
stopped. -/
def noted {α : Type} (key : String) (presence : Presence) (value : Reader α) : Member Conditions where
  key := key
  presence := presence
  isSet c := c.seen.contains key
  read c := do
    let _value ← attempt value
    pure { c with seen := key :: c.seen }

/-- The audience, of any kind. -/
def audienceMember : Member Conditions where
  key := "aud"
  presence := .nullable
  isSet c := c.seen.contains "aud"
  read c := do
    let value ← attempt (Reader.value (maxNesting - 1))
    pure { c with seen := "aud" :: c.seen, audience := value }

/-- The members that are looked at. -/
def members : List (Member Conditions) :=
  [noted "exp" .defaulted numeric, noted "nbf" .defaulted numeric,
    noted "sub" .nullable (Reader.nullable Reader.string),
    noted "iss" .nullable (Reader.value (maxNesting - 1)), audienceMember]

/-- Reads the conditions of a payload. -/
def read : Reader Conditions := Record.read members {}

/-- Whether a token is addressed to somebody: its audience is a name or a list of names. -/
def isAddressed (c : Conditions) : Bool :=
  match c.audience with
  | some v => v.text?.isSome || v.texts?.isSome
  | none => false

end Conditions

end Gatehouse.Token
