import Gatehouse.Account
import Gatehouse.Email
import Gatehouse.Json.Record
import Gatehouse.Password
import Gatehouse.Service.Identity
import Gatehouse.Text.Lower

/-!
# Forms

What the bodies of requests ask for, how they are read, and how they are tidied and checked before
anything is done. A text that a form leaves out counts as empty; an id may not be left out.
-/

namespace Gatehouse.Api

open Json

/-! ### Reading -/

/-- The texts of a form by their keys. -/
abbrev Texts := List (String × String)

/-- A text under a key, empty if it was left out. -/
def Texts.at (texts : Texts) (key : String) : String := (texts.lookup key).getD ""

/-- Reads a form of texts. -/
def readTexts (keys : List String) : Reader Texts :=
  Record.read (keys.map fun key =>
    .field key .defaulted (List.lookup key) (fun s texts => (key, s) :: texts) Reader.string) []

/-- Reads a form of ids, all of which are required. -/
def readIds (keys : List String) : Reader (List (String × Int)) :=
  Record.read (keys.map fun key =>
    .field key .required (List.lookup key) (fun n ids => (key, n) :: ids) Reader.word) []

def readAccountId : Reader Int := do
  match (← readIds ["user_id"]).lookup "user_id" with
  | some id => pure id
  | none => throw .mismatch

structure FamilyForm where
  accountId : Int
  familyId : Int
  deriving DecidableEq, Repr

def readFamilyForm : Reader FamilyForm := do
  let ids ← readIds ["user_id", "family_id"]
  match ids.lookup "user_id", ids.lookup "family_id" with
  | some accountId, some familyId => pure ⟨accountId, familyId⟩
  | _, _ => throw .mismatch

structure SignInForm where
  email : String
  password : String
  deriving DecidableEq, Repr

def readSignIn : Reader SignInForm := do
  let texts ← readTexts ["email", "password"]
  pure ⟨texts.at "email", texts.at "password"⟩

def readSignUp : Reader Registration := do
  let texts ← readTexts ["email", "password", "phone_number", "name", "surname"]
  pure {
    profile := ⟨texts.at "email", texts.at "phone_number", texts.at "name", texts.at "surname"⟩
    password := texts.at "password" }

def readPatch : Reader Profile := do
  let texts ← readTexts ["new_email", "new_phone_number", "new_name", "new_surname"]
  pure ⟨texts.at "new_email", texts.at "new_phone_number", texts.at "new_name",
    texts.at "new_surname"⟩

structure PasswordForm where
  old : String
  new : String
  deriving DecidableEq, Repr

def readPasswordForm : Reader PasswordForm := do
  let texts ← readTexts ["old_password", "new_password"]
  pure ⟨texts.at "old_password", texts.at "new_password"⟩

/-! ### Tidying and checking -/

/-- An email address as it is stored: trimmed and in lower case. -/
def normalEmail (email : String) : String := Text.lower (Text.trim email)

/-- A profile as it is stored: all fields trimmed, the email address in lower case. -/
def normalProfile (p : Profile) : Profile where
  email := normalEmail p.email
  phoneNumber := Text.trim p.phoneNumber
  name := Text.trim p.name
  surname := Text.trim p.surname

def checkEmail (email : String) : Except Fault Unit :=
  if Email.isValid email then .ok () else .error (.validation "email format is invalid")

def required (text what : String) : Except Fault Unit :=
  if Text.isBlankText text then .error (.validation (what ++ " is required")) else .ok ()

/-- Tidies and checks a registration. The password stays as it is. -/
def checkRegistration (r : Registration) : Except Fault Registration := do
  let profile := normalProfile r.profile
  checkEmail profile.email
  required r.password "password"
  Password.checkLength r.password
  required r.profile.phoneNumber "phone number"
  required r.profile.name "name"
  required r.profile.surname "surname"
  pure ⟨profile, r.password⟩

def checkSignIn (form : SignInForm) : Except Fault SignInForm := do
  let email := normalEmail form.email
  checkEmail email
  required form.password "password"
  pure ⟨email, form.password⟩

/-- Tidies and checks the changes of a profile. An empty email address is no change. -/
def checkPatch (patch : Profile) : Except Fault Profile := do
  let patch := normalProfile patch
  if !patch.email.isEmpty then checkEmail patch.email
  pure patch

def checkPasswordForm (form : PasswordForm) : Except Fault PasswordForm := do
  required form.new "new password"
  Password.checkLength form.new
  pure form

end Gatehouse.Api
