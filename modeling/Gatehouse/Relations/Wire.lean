import Gatehouse.Http.Message
import Gatehouse.Json.Writer
import Gatehouse.Relations
import Gatehouse.Url.Parser

/-!
# The relationship service over HTTP

Requests to the relationship service are posted as JSON to paths below a base URL.

* `baseOf?` accepts a base URL and `endpoint?` joins a path to it.
* `classify` tells trouble on the other side from a refusal, and `replyOf` reads a whole answer.
* `client` makes a client of any peer that answers requests.
-/

namespace Gatehouse.Relations.Wire

open Json (writeObject writeInt)

/-! ### Where requests go -/

/-- The segments of a path with a slash at its end. The drive at its start gets a colon if it is the
path of a file. -/
def closePath (file : Bool) : List (List Char) → List (List Char)
  | first :: rest => (if file && Url.isDrive first then Url.keepDrive first else first) :: rest ++ [[]]
  | [] => [[]]

/-- A URL with a slash at the end of its path, so that what is joined to it goes below. -/
def withTrailingSlash (u : Url) : Url :=
  match u.path with
  | .segments list =>
    if list.getLast? = some [] then u
    else { u with path := .segments (closePath (Url.isFile u.scheme) list) }
  | .plain text =>
    if text.getLast? = some '/' then u
    else if text.isEmpty then { u with path := .plain "%2F".toList }
    else { u with path := .plain (text ++ ['/']) }

def baseOf? (text : String) : Option Url := (Url.parse? text).map withTrailingSlash

def endpoint? (base : Url) (path : String) : Option Url := base.join? path

def pathOf : Call → String
  | .removeMember .. => "FamilyLeader/RemoveUser"
  | .deleteInvites _ => "Invite/DeleteUserInvites"

/-- The body of a request, its keys in alphabetical order. -/
def bodyOf : Call → String
  | .removeMember userId familyId =>
    String.ofList (writeObject [("family_id", writeInt familyId), ("user_id", writeInt userId)])
  | .deleteInvites userId => String.ofList (writeObject [("user_id", writeInt userId)])

structure Request where
  url : Url
  body : String
  deriving DecidableEq

/-! ### What comes back -/

/-- What becomes of a request: it fails on the way, or it is answered with a status and a body that may
be unreadable. -/
inductive Answer
  | failed (detail : String)
  | answered (status : Nat) (body : Option String)
  deriving DecidableEq, Repr

/-- The failure that an answer without success stands for. -/
def classify (status : Nat) (message : String) : Failure :=
  if Http.Status.isServerError status || status == 408 || status == 429 then
    .unavailable ("HTTP " ++ Http.Status.describe status ++ ": " ++ message)
  else .rejected status message

/-- The reply that an answer stands for. A body that cannot be read counts as empty. -/
def replyOf : Answer → Reply
  | .failed detail => .error (.unavailable detail)
  | .answered status body =>
    if Http.Status.isSuccess status then .ok () else .error (classify status (body.getD ""))

/-! ### The client -/

/-- A peer: it answers requests and keeps a state. -/
abbrev Peer (π : Type) := Request → π → Answer × π

/-- A client of a peer below a base URL. Nothing is sent when no path can be joined to the base. -/
def client {π : Type} (base : Url) (peer : Peer π) : Client π := fun call state =>
  match endpoint? base (pathOf call) with
  | none => (.error (.unavailable "relative URL with a cannot-be-a-base base"), state)
  | some url =>
    let (answer, state) := peer ⟨url, bodyOf call⟩ state
    (replyOf answer, state)

end Gatehouse.Relations.Wire
