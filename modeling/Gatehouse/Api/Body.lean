import Gatehouse.Http.MediaType
import Gatehouse.Json.Record

/-!
# Request bodies

A body is JSON, has to be announced as such, and has a limited size. Whatever stands behind the value is
not looked at.
-/

namespace Gatehouse.Api

open Json

/-- Why a body is refused. -/
inductive BodyRefusal
  /-- It is not announced as JSON. -/
  | mediaType
  | tooLarge
  | malformed
  /-- It is JSON of the wrong shape. -/
  | mismatch
  deriving DecidableEq, Repr

namespace BodyRefusal

def status : BodyRefusal → Nat
  | mediaType => 415
  | tooLarge => 413
  | malformed => 400
  | mismatch => 422

/-- The text of the answer. Where it is the reader that fails, its own words on what and where follow behind a
colon; they are left out. -/
def message : BodyRefusal → String
  | mediaType => "Expected request with `Content-Type: application/json`"
  | tooLarge => "Failed to buffer the request body: length limit exceeded"
  | malformed => "Failed to parse the request body as JSON"
  | mismatch => "Failed to deserialize the JSON body into the target type"

def ofFlaw : Flaw → BodyRefusal
  | .malformed => malformed
  | .mismatch => mismatch

end BodyRefusal

/-- The greatest size of a body in bytes. -/
def maxBodyBytes : Nat := 2 * 1024 * 1024

def readBody {α : Type} (value : Reader α) (request : Http.Request) : Except BodyRefusal α :=
  if !Http.announcesJson request.headers then .error .mediaType
  else if maxBodyBytes < request.body.length then .error .tooLarge
  else (readFront value request.body).mapError .ofFlaw

end Gatehouse.Api
