import Gatehouse.Http.Message
import Gatehouse.Text.Blank
import Gatehouse.Token

/-!
# Bearer credentials

A token is sent as the second of the two words of the `authorization` header; the first is `bearer` in
any case. `Bearer.token?` finds the token, and `Bearer.Credential` states the form as a grammar.
-/

namespace Gatehouse.Token

namespace Bearer

def scheme : String := "bearer"

def token? (credential : String) : Option String :=
  match Text.words credential.toList with
  | [first, token] =>
    if Http.sameIgnoringCase (String.ofList first) scheme then some (String.ofList token) else none
  | _ => none

/-- The form of a credential: the scheme, blanks, and a token without blanks, with blanks allowed around
both. -/
def Credential (credential token : List Char) : Prop :=
  ∃ front first between behind : List Char,
    credential = front ++ first ++ between ++ token ++ behind ∧
      Http.sameIgnoringCase (String.ofList first) scheme = true ∧
      between ≠ [] ∧ token ≠ [] ∧ (∀ c ∈ front ++ between ++ behind, Text.isBlank c = true) ∧
      ∀ c ∈ token, Text.isBlank c = false

def parse (credential : String) : Except Fault String :=
  match token? credential with
  | some token => .ok token
  | none => .error .invalidToken

end Bearer

/-- The verified claims of the first `authorization` header. -/
def Authority.claimsOfHeaders (authority : Authority) (now : Moment) (headers : Http.Headers) :
    Except Fault Claims := do
  match headers.first? "authorization" with
  | none => throw .noToken
  | some value =>
    match Http.headerText? value with
    | none => throw .invalidToken
    | some text => authority.verify now (← Bearer.parse text)

end Gatehouse.Token
