import Gatehouse.Bytes

/-!
# HTTP messages

Requests and answers as values. Header names are compared without regard to ASCII case, and of several
headers with one name the first one counts. Statuses come in classes; those that tell of trouble on the other
side have a reason phrase.
-/

namespace Gatehouse.Http

/-- Whether two texts are equal up to the case of ASCII letters. -/
def sameIgnoringCase (s t : String) : Bool := s.toList.map Char.toLower == t.toList.map Char.toLower

/-- The headers of a message in the order in which they were sent: names and raw values. -/
abbrev Headers := List (String × Bytes)

/-- The value of the first header of a name. -/
def Headers.first? (headers : Headers) (name : String) : Option Bytes :=
  (headers.find? fun h => sameIgnoringCase h.1 name).map Prod.snd

/-- Whether a byte may stand in the text of a header: visible ASCII, the space or the tab. -/
def isHeaderText (b : UInt8) : Bool := (32 ≤ b && b < 127) || b == 9

/-- The text of a header value, if all its bytes may stand in one. -/
def headerText? (value : Bytes) : Option String :=
  if value.all isHeaderText then some (String.ofList (value.map fun b => Char.ofNat b.toNat)) else none

/-- A request: its method and target as sent, its headers and its body. -/
structure Request where
  method : String
  target : String
  headers : Headers
  body : Bytes

/-- What an answer carries: nothing, a text, or JSON text. -/
inductive Content
  | empty
  | text (s : String)
  | json (s : String)
  deriving DecidableEq, Repr

def Content.type? : Content → Option String
  | empty => none
  | text _ => some "text/plain; charset=utf-8"
  | json _ => some "application/json"

def Content.body : Content → String
  | empty => ""
  | text s => s
  | json s => s

/-- An answer. `allow` lists the methods of the resource where the answer names them; `isPreflight` says
that the answer tells a browser that pages of any origin may send any request. The length of the body and the
headers that are the same on every other answer (any origin may read it, with all of its headers) are left out. -/
structure Response where
  status : Nat
  content : Content
  allow : List String
  isPreflight : Bool
  deriving DecidableEq, Repr

/-! ## Statuses -/

namespace Status

def isSuccess (status : Nat) : Bool := 200 ≤ status && status < 300

def isServerError (status : Nat) : Bool := 500 ≤ status && status < 600

/-- The reason phrases of the statuses that ask to try again later and of the server's faults. -/
def reasons : List (Nat × String) :=
  [(408, "Request Timeout"), (429, "Too Many Requests"), (500, "Internal Server Error"),
    (501, "Not Implemented"), (502, "Bad Gateway"), (503, "Service Unavailable"),
    (504, "Gateway Timeout"), (505, "HTTP Version Not Supported"), (506, "Variant Also Negotiates"),
    (507, "Insufficient Storage"), (508, "Loop Detected"), (510, "Not Extended"),
    (511, "Network Authentication Required")]

def describe (status : Nat) : String :=
  toString status ++ " " ++ (reasons.lookup status).getD "<unknown status code>"

end Status

end Gatehouse.Http
