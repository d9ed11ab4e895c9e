import Gatehouse.Moment
import Gatehouse.Role

/-!
# Accounts

The record of a person, and the changes of its profile. In a patch an empty field means that the field
stays as it is.
-/

namespace Gatehouse

/-- How a person is called and reached. -/
structure Profile where
  email : String
  phoneNumber : String
  name : String
  surname : String
  deriving DecidableEq, Repr

namespace Profile

/-- A new value, or the old one where the new one is empty. -/
def pick (new old : String) : String := if new.isEmpty then old else new

/-- A profile with the fields of a patch; every empty field of the patch is left as it was. -/
def patched (current patch : Profile) : Profile where
  email := pick patch.email current.email
  phoneNumber := pick patch.phoneNumber current.phoneNumber
  name := pick patch.name current.name
  surname := pick patch.surname current.surname

end Profile

/-- The record of an account. The password is kept as the text of a hash. -/
structure Account where
  id : Int
  profile : Profile
  passwordHash : String
  registeredAt : Moment
  role : Role
  familyIds : List Int
  deriving DecidableEq

/-- What is known of an account before it has an id. -/
structure NewAccount where
  profile : Profile
  passwordHash : String
  registeredAt : Moment
  deriving DecidableEq

/-- The record of a new account: a plain user in no family. -/
def NewAccount.withId (a : NewAccount) (id : Int) : Account where
  id := id
  profile := a.profile
  passwordHash := a.passwordHash
  registeredAt := a.registeredAt
  role := .user
  familyIds := []

end Gatehouse
