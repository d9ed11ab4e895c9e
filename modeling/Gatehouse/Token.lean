import Gatehouse.Account
import Gatehouse.Bytes
import Gatehouse.Token.Claims
import Gatehouse.Token.Header

/-!
# Tokens

A token is three segments with dots between them: header, payload and signature, each in Base64 that is
safe in URLs. Whoever holds the secret can issue tokens and verify them.

* `Token.sign` signs a payload, and `Authority.issue` issues a token to an account.
* `Authority.verify` reads back the claims of a token that is intact and not yet void.
-/

namespace Gatehouse.Token

open Json

def issuedHeader : List Char :=
  writeObject [("typ", writeString "JWT"), ("alg", writeString "HS384")]

/-- The Base64 text of the UTF-8 encoding of a text. -/
def segment (text : List Char) : List Char :=
  Base64.encode Base64.urlSafe (utf8 (String.ofList text))

/-- The signature of a message: the Base64 text of its authentication code. -/
def signature (hash : Digest.Sha2.Variant) (secret : Bytes) (message : List Char) : List Char :=
  Base64.encode Base64.urlSafe (Digest.hmac hash secret (utf8 (String.ofList message)))

/-- A token with the given payload, signed with the given secret. -/
def sign (secret : Bytes) (payload : List Char) : String :=
  let message := segment issuedHeader ++ '.' :: segment payload
  String.ofList (message ++ '.' :: signature Digest.Sha2.sha384 secret message)

/-- A lifetime as a signed number of seconds. -/
def signedSeconds (lifetime : Nat) : Int := (lifetime : Int).bmod 0x10000000000000000

/-- The second at which a token becomes void that is issued at `now`, as long as it lies in the years
from -9999 to 9999. -/
def expiry? (now : Moment) (lifetime : Nat) : Option Nat :=
  let second := now.seconds + signedSeconds lifetime
  let year := (Moment.utc second).date.year
  if -9999 ≤ year ∧ year ≤ 9999 then some (second % 0x10000000000000000).toNat else none

/-- What issues tokens and verifies them: a secret, and how many seconds a token is good for. -/
structure Authority where
  secret : Bytes
  lifetime : Nat

namespace Authority

/-- The claims of an account that become void at `expiry`. -/
def claimsFor (account : Account) (expiry : Nat) : Claims where
  subject := String.ofList (Text.decimal account.id)
  email := account.profile.email
  role := account.role
  expiry := expiry

def issue (authority : Authority) (now : Moment) (account : Account) : Except Fault String :=
  match expiry? now authority.lifetime with
  | some expiry => .ok (sign authority.secret (claimsFor account expiry).write)
  | none => .error (.internal "the expiry of the token lies outside the calendar")

/-- The payload of a token whose signature is the one that its header asks for. -/
def payload? (secret : Bytes) (token : String) : Option Bytes :=
  match token.toList.splitOn '.' with
  | [header, payload, sig] => do
    let headerText ← Base64.decode? Base64.urlSafe header
    let algorithm ← (readAll Header.read headerText).toOption
    let hash ← algorithm.hash?
    if sig = signature hash secret (header ++ '.' :: payload) then
      Base64.decode? Base64.urlSafe payload
    else none
  | _ => none

/-- The claims of a payload that are good at `now`: not expired, and addressed to nobody else. -/
def accepted? (now : Moment) (payload : Bytes) : Option Claims := do
  let claims ← (readAll Claims.read payload).toOption
  let conditions ← (readAll Conditions.read payload).toOption
  if (claims.expiry : Int) < now.seconds ∨ conditions.isAddressed then none else pure claims

def verify (authority : Authority) (now : Moment) (token : String) : Except Fault Claims :=
  match (payload? authority.secret token).bind (accepted? now) with
  | some claims => .ok claims
  | none => .error .invalidToken

end Authority

end Gatehouse.Token
