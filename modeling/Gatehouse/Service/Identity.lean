import Gatehouse.Password
import Gatehouse.Program
import Gatehouse.Token

/-!
# Signing up and signing in

* `signUp` creates an account with a hashed password.
* `signIn` gives a token to whoever knows the password of an account. It does not tell an unknown email
  address from a wrong password.
* `ensureAdmin` makes sure that an administrator with a given password exists.
-/

namespace Gatehouse

/-- What chance and the clock give to one operation: the time, and the salt of the hash it may make. -/
structure Occasion where
  now : Moment
  salt : Password.Salt

/-- What signing up asks for. -/
structure Registration where
  profile : Profile
  password : String
  deriving DecidableEq, Repr

namespace Service

/-- Creates an account and gives its id. -/
def signUp (scheme : Password.Scheme) (occasion : Occasion) (r : Registration) : Action Int := do
  let passwordHash ← Action.ofExcept (scheme.hash occasion.salt r.password)
  Action.store (.create {
    profile := r.profile
    passwordHash
    registeredAt := occasion.now })

/-- Gives a token to whoever knows the password of the account that holds an email address. -/
def signIn (scheme : Password.Scheme) (authority : Token.Authority) (now : Moment)
    (email password : String) : Action String := do
  match ← Action.store (.findByEmail email) with
  | none => throw .accountNotFound
  | some account =>
    if ← Action.ofExcept (scheme.verify account.passwordHash password) then
      Action.ofExcept (authority.issue now account)
    else throw .accountNotFound

/-- The registration of an administrator who is not registered yet. -/
def adminRegistration (email password : String) : Registration where
  profile := ⟨email, "-", "admin", "admin"⟩
  password := password

/-- The id of the account that holds an email address, if the password is that account's. -/
def confirm (scheme : Password.Scheme) (email password : String) : Action Int := do
  match ← Action.store (.findByEmail email) with
  | none => throw .accountNotFound
  | some account =>
    if ← Action.ofExcept (scheme.verify account.passwordHash password) then pure account.id
    else throw .wrongPassword

/-- Makes sure that an administrator exists who holds an email address and a password, and gives the id.
An account that holds the address already is promoted only if the password is its own. -/
def ensureAdmin (scheme : Password.Scheme) (occasion : Occasion) (email password : String) :
    Action Int := do
  let id ← tryCatch (signUp scheme occasion (adminRegistration email password)) fun
    | .accountExists => confirm scheme email password
    | fault => throw fault
  Action.store (.setRole id .admin)
  pure id

end Service

end Gatehouse
