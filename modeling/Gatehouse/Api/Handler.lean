import Gatehouse.Access
import Gatehouse.Api.Body
import Gatehouse.Api.Form
import Gatehouse.Api.Route
import Gatehouse.Json.Writer
import Gatehouse.Moment.Rfc3339
import Gatehouse.Service.Deletion

/-!
# Handlers

What each route does with a request that may be performed: who calls, what the body asks for, the
operation, and the answer.
-/

namespace Gatehouse.Api

open Http (Request Response)
open Json (Reader writeObject writeString writeInt writeBool)

/-- What the handlers share: who issues tokens, who may do what, and how passwords are hashed. -/
structure Application where
  authority : Token.Authority
  policy : Access.Policy
  scheme : Password.Scheme

/-! ### Answers -/

/-- An answer without further headers. -/
def answer (status : Nat) (content : Http.Content) : Response := ⟨status, content, [], false⟩

def faultAnswer (fault : Fault) : Response := answer fault.status (.text fault.message)

def refusalAnswer (refusal : BodyRefusal) : Response := answer refusal.status (.text refusal.message)

def jsonAnswer (members : List (String × List Char)) : Response :=
  answer 200 (.json (String.ofList (writeObject members)))

def doneAnswer (_ : Unit) : Response := jsonAnswer [("succeed", writeBool true)]

/-- The answer that shows a profile. A moment of registration that cannot be written is an error of its
own. -/
def profileAnswer (a : Account) : Response :=
  match a.registeredAt.toRfc3339 with
  | .error unwritable => answer 500 (.text unwritable.message)
  | .ok registeredAt =>
    jsonAnswer [("user_id", writeInt a.id), ("email", writeString a.profile.email),
      ("phone_number", writeString a.profile.phoneNumber), ("name", writeString a.profile.name),
      ("surname", writeString a.profile.surname), ("registered_at", writeString registeredAt)]

/-- Performs an operation and answers with its value or its fault. -/
def perform {α : Type} (action : Action α) (write : α → Response) : Program Response := do
  match ← action.run with
  | .ok a => pure (write a)
  | .error fault => pure (faultAnswer fault)

def withBody {α : Type} (value : Reader α) (request : Request) (next : α → Program Response) :
    Program Response :=
  match readBody value request with
  | .ok a => next a
  | .error refusal => pure (refusalAnswer refusal)

/-! ### The caller -/

/-- Who calls: the claims that the access layer has verified, or else those of the headers. -/
def callerClaims (authority : Token.Authority) (now : Moment) (verified : Option Token.Claims)
    (headers : Http.Headers) : Except Fault Token.Claims :=
  match verified with
  | some claims => .ok claims
  | none => authority.claimsOfHeaders now headers

def withCaller (app : Application) (now : Moment) (verified : Option Token.Claims) (request : Request)
    (next : Token.Claims → Program Response) : Program Response :=
  match callerClaims app.authority now verified request.headers with
  | .ok claims => next claims
  | .error fault => pure (faultAnswer fault)

/-! ### The operations -/

def signUpAction (app : Application) (occasion : Occasion) (r : Registration) : Action Int := do
  let r ← Action.ofExcept (checkRegistration r)
  Service.signUp app.scheme occasion r

def signInAction (app : Application) (now : Moment) (form : SignInForm) : Action String := do
  let form ← Action.ofExcept (checkSignIn form)
  Service.signIn app.scheme app.authority now form.email form.password

def ownProfileAction (claims : Token.Claims) : Action Account := do
  let id ← Action.ofExcept claims.accountId
  Service.getProfile id

def updateAction (claims : Token.Claims) (patch : Profile) : Action Unit := do
  let patch ← Action.ofExcept (checkPatch patch)
  let id ← Action.ofExcept claims.accountId
  Service.updateProfile id patch

def changePasswordAction (app : Application) (occasion : Occasion) (claims : Token.Claims)
    (form : PasswordForm) : Action Unit := do
  let form ← Action.ofExcept (checkPasswordForm form)
  let id ← Action.ofExcept claims.accountId
  Service.changePassword app.scheme occasion.salt id form.old form.new

/-- What a route does with a request by one of its methods. `verified` holds the claims of the caller
where the access layer has asked for them. -/
def handle (app : Application) (occasion : Occasion) (verified : Option Token.Claims)
    (request : Request) : Route → Program Response
  | .signUp =>
    withBody readSignUp request fun r =>
      perform (signUpAction app occasion r) fun id => jsonAnswer [("user_id", writeInt id)]
  | .signIn =>
    withBody readSignIn request fun form =>
      perform (signInAction app occasion.now form) fun token =>
        jsonAnswer [("token", writeString token)]
  | .isAdmin =>
    withBody readAccountId request fun id =>
      perform (Service.isAdmin id) fun isAdmin => jsonAnswer [("is_admin", writeBool isAdmin)]
  | .getUserInfo =>
    withCaller app occasion.now verified request fun claims =>
      perform (ownProfileAction claims) profileAnswer
  | .getUserInfoById =>
    withBody readAccountId request fun id => perform (Service.getProfile id) profileAnswer
  | .updateUserInfo =>
    withCaller app occasion.now verified request fun claims =>
      withBody readPatch request fun patch => perform (updateAction claims patch) doneAnswer
  | .changePassword =>
    withCaller app occasion.now verified request fun claims =>
      withBody readPasswordForm request fun form =>
        perform (changePasswordAction app occasion claims form) doneAnswer
  | .addFamily =>
    withBody readFamilyForm request fun form =>
      perform (Service.addFamilyLink form.accountId form.familyId) doneAnswer
  | .deleteFamily =>
    withBody readFamilyForm request fun form =>
      perform (Service.removeFamilyLink form.accountId form.familyId) doneAnswer
  | .deleteUser =>
    withBody readAccountId request fun id => perform (Service.deleteEverywhere id) doneAnswer
  | .health => pure (answer 200 (.text (if request.method = "HEAD" then "" else "ok")))

end Gatehouse.Api
