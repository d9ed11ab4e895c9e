import Gatehouse.Account
import Gatehouse.Json.Record
import Gatehouse.Json.Writer
import Gatehouse.Moment.Rfc3339

/-!
# Accounts as JSON

`Account.toJson` writes an account without the hash of its password, so what is written does not depend
on it. `Account.ofJson?` reads an account and asks for the hash, too.
-/

namespace Gatehouse.Account

open Json

/-- The members of an account that are written, where the moment of registration is given as text. -/
def writtenMembers (a : Account) (registeredAt : String) : List (String × List Char) :=
  [("id", writeInt a.id), ("email", writeString a.profile.email),
    ("phone_number", writeString a.profile.phoneNumber), ("name", writeString a.profile.name),
    ("surname", writeString a.profile.surname), ("registered_at", writeString registeredAt),
    ("role", writeString a.role.name), ("family_ids", writeList (a.familyIds.map writeInt))]

/-- An account as JSON; its moment of registration has to have a text. -/
def toJson (a : Account) : Except Moment.Unwritable String := do
  let registeredAt ← a.registeredAt.toRfc3339
  pure (String.ofList (writeObject (a.writtenMembers registeredAt)))

/-- An account while it is read. -/
structure Draft where
  id : Option Int := none
  email : Option String := none
  phoneNumber : Option String := none
  name : Option String := none
  surname : Option String := none
  passwordHash : Option String := none
  registeredAt : Option Moment := none
  role : Option Role := none
  familyIds : Option (List Int) := none

def readMoment : Reader Moment := do
  match Moment.ofRfc3339? (utf8 (← Reader.string)) with
  | some m => pure m
  | none => throw .mismatch

/-- The members of an account; all are required. -/
def members : List (Member Draft) :=
  [.field "id" .required Draft.id (fun n d => { d with id := some n }) Reader.word,
    .field "email" .required Draft.email (fun s d => { d with email := some s }) Reader.string,
    .field "phone_number" .required Draft.phoneNumber (fun s d => { d with phoneNumber := some s })
      Reader.string,
    .field "name" .required Draft.name (fun s d => { d with name := some s }) Reader.string,
    .field "surname" .required Draft.surname (fun s d => { d with surname := some s }) Reader.string,
    .field "password_hash" .required Draft.passwordHash
      (fun s d => { d with passwordHash := some s }) Reader.string,
    .field "registered_at" .required Draft.registeredAt
      (fun m d => { d with registeredAt := some m }) readMoment,
    .field "role" .required Draft.role (fun r d => { d with role := some r })
      (Reader.variant Role.ofName?),
    .field "family_ids" .required Draft.familyIds (fun l d => { d with familyIds := some l })
      (Reader.listOf Reader.word)]

/-- The account of a complete draft. -/
def ofDraft? (d : Draft) : Option Account := do
  pure {
    id := ← d.id
    profile := ⟨← d.email, ← d.phoneNumber, ← d.name, ← d.surname⟩
    passwordHash := ← d.passwordHash
    registeredAt := ← d.registeredAt
    role := ← d.role
    familyIds := ← d.familyIds }

def read : Reader Account := do
  match ofDraft? (← Record.read members {}) with
  | some a => pure a
  | none => throw .mismatch

def ofJson? (text : String) : Option Account := (readAll read (utf8 text)).toOption

end Gatehouse.Account
