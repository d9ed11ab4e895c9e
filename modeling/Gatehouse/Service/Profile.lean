import Gatehouse.Password
import Gatehouse.Program

/-!
# Profiles, passwords, families and roles

The operations on one account that exists. Who may call them is decided elsewhere.
-/

namespace Gatehouse.Service

/-- The record of an account, without the hash of its password. -/
def getProfile (id : Int) : Action Account := do
  let account ← Action.account id
  pure { account with passwordHash := "" }

/-- Changes the profile fields that are not empty in a patch. -/
def updateProfile (id : Int) (patch : Profile) : Action Unit := do
  let account ← Action.account id
  Action.store (.setProfile id (account.profile.patched patch))

def changePassword (scheme : Password.Scheme) (salt : Password.Salt) (id : Int) (old new : String) :
    Action Unit := do
  let account ← Action.account id
  if ← Action.ofExcept (scheme.verify account.passwordHash old) then
    let hash ← Action.ofExcept (scheme.hash salt new)
    Action.store (.setPasswordHash id hash)
  else throw .wrongPassword

def addFamilyLink (id familyId : Int) : Action Unit := Action.store (.linkFamily id familyId)

def removeFamilyLink (id familyId : Int) : Action Unit := Action.store (.unlinkFamily id familyId)

/-- Deletes the record of an account, and nothing anywhere else. -/
def deleteRecord (id : Int) : Action Unit := Action.store (.delete id)

def isAdmin (id : Int) : Action Bool := do
  let account ← Action.account id
  pure (account.role == .admin)

end Gatehouse.Service
