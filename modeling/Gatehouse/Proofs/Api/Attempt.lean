import Gatehouse.Proofs.Api.Errand
import Gatehouse.Proofs.Service.Identity

/-!
# Attempts to sign in

* `Service.tokenFor`, `Service.signIn_runWith` — the token of an attempt, by the account that holds the address;
* `admission_of_public`, `passage_of_admission` — how requests get to routes that are open to everybody;
* `Attempts` — a request to sign in with some form, and `attempt` what becomes of it over a store;
* `attempt_eq` — an attempt is refused for the form of its address or a blank password, or goes by the account;
* `respond_of_attempts` — such a request is answered with what becomes of it, and leaves everything as it was.
-/

namespace Gatehouse

open Http (Request Response)
open Program (inMemory)

/-! ## The operation -/

namespace Service

variable {ρ : Type} {client : Relations.Client ρ} {scheme : Password.Scheme} {authority : Token.Authority}
  {now : Moment} {a : Account} {password : String}

/-- The token of an attempt to sign in, by the account that was found. -/
def tokenFor (scheme : Password.Scheme) (authority : Token.Authority) (now : Moment) (found : Option Account)
    (password : String) : Except Fault String :=
  match found with
  | none => .error .accountNotFound
  | some a =>
    match scheme.verify a.passwordHash password with
    | .ok true => authority.issue now a
    | .ok false => .error .accountNotFound
    | .error fault => .error fault

/-- **Signing in** looks the address up and goes by the account that it finds; the store stays as it is. -/
theorem signIn_runWith (scheme : Password.Scheme) (authority : Token.Authority) (now : Moment) (email password : String)
    (s : Store) (p : ρ) :
    (signIn scheme authority now email password).runWith (inMemory client) (s, p) =
      (tokenFor scheme authority now (s.holder? email) password, (s, p)) := by
  have hfind : (Action.store (.findByEmail email)).runWith (inMemory client) (s, p) =
      (.ok (s.holder? email), (s, p)) := rfl
  rw [signIn, Action.runWith_bind_ok hfind]
  cases s.holder? email with
  | none => rfl
  | some a =>
    dsimp only [tokenFor]
    cases hv : scheme.verify a.passwordHash password with
    | error fault => rfl
    | ok known => cases known <;> rfl

end Service

/-! ## The request -/

lemma Access.Policy.signIn_public : standard.allowed? "Auth.SignIn" = none := by decide

namespace Api

variable {ρ : Type} {client : Relations.Client ρ} {app : Application} {request : Request} {form : SignInForm}

/-! ### Routes that are open to everybody -/

lemma admission_of_public {target : String} {route : Route} (hroute : Route.ofPath? (pathOf target) = some route)
    (hpublic : ∀ operation, route.operation? = some operation → app.policy.allowed? operation = none) (now : Moment)
    (headers : Http.Headers) : admission app now (pathOf target) headers = .ok none := by
  rw [admission, operationOf?_eq_of_ofPath? hroute]
  cases ho : route.operation? with
  | none => rfl
  | some operation =>
    dsimp only
    rw [Access.authorize, hpublic operation ho]
    rfl

/-- Who is let through gets to the handler of the route by one of its methods. -/
lemma passage_of_admission {method target : String} {headers : Http.Headers} {now : Moment} {route : Route}
    {verified : Option Token.Claims} (hadmission : admission app now (pathOf target) headers = .ok verified)
    (hroute : Route.ofPath? (pathOf target) = some route) (hmethod : route.methods.contains method = true) :
    passage app now method target headers = .handled route verified := by
  have hoptions : ¬ method = "OPTIONS" := by
    rintro rfl
    cases route <;> exact absurd hmethod (by decide)
  rw [passage, hadmission, hroute, if_neg hoptions]
  dsimp only
  rw [if_pos hmethod]

/-! ### Signing in -/

/-- The request is one to sign in, by the method of the route and with a body that is read as a form. -/
structure Attempts (request : Request) (form : SignInForm) : Prop where
  method : request.method = "POST"
  route : Route.ofPath? (pathOf request.target) = some .signIn
  body : readBody readSignIn request = .ok form

/-- What becomes of an attempt over a store: the form is checked, then the account is looked for. -/
def attempt (app : Application) (now : Moment) (s : Store) (form : SignInForm) : Except Fault String :=
  match checkSignIn form with
  | .ok f => Service.tokenFor app.scheme app.authority now (s.holder? f.email) f.password
  | .error fault => .error fault

lemma checkSignIn_eq (form : SignInForm) :
    checkSignIn form =
      if Email.isValid (normalEmail form.email) then
        if Text.isBlankText form.password then .error (.validation "password is required")
        else .ok ⟨normalEmail form.email, form.password⟩
      else .error (.validation "email format is invalid") := by
  unfold checkSignIn
  dsimp only
  rw [checkEmail, required]
  cases Email.isValid (normalEmail form.email) with
  | false => rfl
  | true => cases Text.isBlankText form.password <;> rfl

/-- **An attempt** is refused for its address first, and then for want of a password, before any account is looked
for. -/
theorem attempt_eq (app : Application) (now : Moment) (s : Store) (form : SignInForm) :
    attempt app now s form =
      if Email.isValid (normalEmail form.email) then
        if Text.isBlankText form.password then .error (.validation "password is required")
        else Service.tokenFor app.scheme app.authority now (s.holder? (normalEmail form.email)) form.password
      else .error (.validation "email format is invalid") := by
  unfold attempt
  rw [checkSignIn_eq]
  cases Email.isValid (normalEmail form.email) with
  | false => rfl
  | true => cases Text.isBlankText form.password <;> rfl

/-- The answer that tells what has become of an attempt. -/
def attemptAnswer : Except Fault String → Response
  | .ok token => jsonAnswer [("token", Json.writeString token)]
  | .error fault => faultAnswer fault

lemma passage_of_attempts (h : Attempts request form) (hpublic : app.policy.allowed? "Auth.SignIn" = none)
    (now : Moment) :
    passage app now request.method request.target request.headers = .handled .signIn none := by
  have hopen : ∀ operation, Route.signIn.operation? = some operation → app.policy.allowed? operation = none := by
    rintro _ ⟨⟩
    exact hpublic
  have hpost : Route.signIn.methods.contains request.method = true := by
    rw [h.method]
    decide
  exact passage_of_admission (admission_of_public h.route hopen now request.headers) h.route hpost

/-- **A request to sign in** is answered with what becomes of the attempt, and leaves everything as it was. -/
theorem respond_of_attempts (h : Attempts request form) (hpublic : app.policy.allowed? "Auth.SignIn" = none)
    (occasion : Occasion) (s : Store) (p : ρ) :
    (respond app occasion request).run (inMemory client) (s, p) =
      (attemptAnswer (attempt app occasion.now s form), (s, p)) := by
  have hp := passage_of_attempts h hpublic occasion.now
  unfold attempt
  cases hc : checkSignIn form with
  | error fault =>
    rw [respond_eq_passage, hp]
    simp only [handle, withBody, h.body, signInAction, perform_ofExcept_bind, hc]
    rfl
  | ok f =>
    rw [respond_of_asks hp (.signIn h.body hc), run_perform]
    simp only [Operation.action, Service.signIn_runWith, Operation.write]
    cases Service.tokenFor app.scheme app.authority occasion.now (s.holder? f.email) f.password <;> rfl

end Api

end Gatehouse
