/-!
# Faults

Why an operation is refused or fails. Every cause has a text for the caller and an HTTP status; the
detail of an internal fault is kept for the operator and is no part of the text.
-/

namespace Gatehouse

/-- The causes for which an operation of the service ends without a result. -/
inductive Fault
  /-- The request itself is not acceptable; the text says what is wrong. -/
  | validation (text : String)
  /-- No credential was sent. -/
  | noToken
  /-- The credential is malformed, forged or expired. -/
  | invalidToken
  /-- A verified token does not name an account. -/
  | tokenClaims
  /-- The role of the caller is not allowed to do this. -/
  | forbidden
  /-- Another account holds the email address. -/
  | accountExists
  /-- No account has this id, or no account matches the credentials. -/
  | accountNotFound
  /-- The old password is not the account's. -/
  | wrongPassword
  /-- The family is linked to the account already. -/
  | alreadyLinked
  /-- The family is not linked to the account. -/
  | notLinked
  /-- Something outside the caller's control failed. -/
  | internal (detail : String)
  deriving DecidableEq, Repr

namespace Fault

/-- The text that a caller sees. -/
def message : Fault → String
  | validation text => text
  | noToken => "authorization token is not provided"
  | invalidToken => "invalid token"
  | tokenClaims => "failed to get claims from token"
  | forbidden => "access denied"
  | accountExists => "user already exists"
  | accountNotFound => "user not found"
  | wrongPassword => "invalid password"
  | alreadyLinked => "user already in the family"
  | notLinked => "user already not in the family"
  | internal _ => "internal error"

def status : Fault → Nat
  | validation _ | wrongPassword => 400
  | noToken | invalidToken | tokenClaims => 401
  | forbidden => 403
  | accountNotFound => 404
  | accountExists | alreadyLinked | notLinked => 409
  | internal _ => 500

end Fault

end Gatehouse
