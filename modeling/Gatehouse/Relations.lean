/-!
# The relationship service

A second service keeps who belongs to which family and who is invited. This service asks it to forget a
person. `Relations.Call` lists what may be asked, and `Relations.Failure` how the answer may fail.
-/

namespace Gatehouse.Relations

/-- A request to the relationship service. -/
inductive Call
  /-- Take a user out of a family. -/
  | removeMember (userId familyId : Int)
  /-- Withdraw all invitations of a user. -/
  | deleteInvites (userId : Int)
  deriving DecidableEq, Repr

inductive Failure
  /-- The service could not be reached or is in trouble itself. -/
  | unavailable (detail : String)
  /-- The service refused the request. -/
  | rejected (status : Nat) (message : String)
  deriving DecidableEq, Repr

abbrev Reply := Except Failure Unit

/-- A client of the service: it answers calls and keeps a state. -/
abbrev Client (ρ : Type) := Call → ρ → Reply × ρ

namespace Failure

/-- Whether the service is in trouble, as opposed to refusing. -/
def isUnavailable : Failure → Bool
  | unavailable _ => true
  | rejected .. => false

def message : Failure → String
  | unavailable detail => "family service internal failure: " ++ detail
  | rejected status message =>
    "family service rejected request (" ++ toString status ++ "): " ++ message

end Failure

end Gatehouse.Relations
