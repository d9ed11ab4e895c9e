import Gatehouse.Proofs.Api.Mediation
import Gatehouse.Proofs.Program.Keeps
import Gatehouse.Proofs.Service.Operation

/-!
# What requests ask for

* `Asks` — the operation that a request asks the handler of a route for, with its arguments;
* `handle_declines_cases` — a handler declines at once, or performs one operation that the request asks for;
* `respond_cases` — so that every request is answered at once, without any call, or performs one operation;
* `respond_of_asks` — and what a request asks for where it gets to, it performs;
* `keeps_respond_of_asks` — what the operations keep that a request may ask for, the request keeps.
-/

namespace Gatehouse

open Http (Request Response)

/-- How the result of an operation is written into an answer. -/
def Operation.write : (o : Operation) → o.Answer → Response
  | signUp .. | ensureAdmin .. => fun id => Api.jsonAnswer [("user_id", Json.writeInt id)]
  | signIn .. => fun token => Api.jsonAnswer [("token", Json.writeString token)]
  | getProfile _ => Api.profileAnswer
  | isAdmin _ => fun isAdmin => Api.jsonAnswer [("is_admin", Json.writeBool isAdmin)]
  | updateProfile .. | changePassword .. | addFamilyLink .. | removeFamilyLink .. | deleteRecord _
  | deleteEverywhere _ => Api.doneAnswer

namespace Api

variable {app : Application} {occasion : Occasion} {verified : Option Token.Claims} {request : Request}

/-- The request asks the handler of a route for an operation: its body can be read and passes the checks of the form,
and where the operation is on the caller's own account, the verified claims name that account. -/
inductive Asks (app : Application) (occasion : Occasion) (verified : Option Token.Claims) (request : Request) :
    Route → Operation → Prop
  | signUp {form r : Registration} (hb : readBody readSignUp request = .ok form)
      (hc : checkRegistration form = .ok r) : Asks app occasion verified request .signUp (.signUp occasion r)
  | signIn {form f : SignInForm} (hb : readBody readSignIn request = .ok form) (hc : checkSignIn form = .ok f) :
      Asks app occasion verified request .signIn (.signIn occasion.now f.email f.password)
  | isAdmin {id : Int} (hb : readBody readAccountId request = .ok id) :
      Asks app occasion verified request .isAdmin (.isAdmin id)
  | getUserInfo {claims : Token.Claims} {id : Int}
      (hv : callerClaims app.authority occasion.now verified request.headers = .ok claims)
      (hid : claims.accountId = .ok id) : Asks app occasion verified request .getUserInfo (.getProfile id)
  | getUserInfoById {id : Int} (hb : readBody readAccountId request = .ok id) :
      Asks app occasion verified request .getUserInfoById (.getProfile id)
  | updateUserInfo {claims : Token.Claims} {form patch : Profile} {id : Int}
      (hv : callerClaims app.authority occasion.now verified request.headers = .ok claims)
      (hb : readBody readPatch request = .ok form) (hc : checkPatch form = .ok patch)
      (hid : claims.accountId = .ok id) : Asks app occasion verified request .updateUserInfo (.updateProfile id patch)
  | changePassword {claims : Token.Claims} {form f : PasswordForm} {id : Int}
      (hv : callerClaims app.authority occasion.now verified request.headers = .ok claims)
      (hb : readBody readPasswordForm request = .ok form) (hc : checkPasswordForm form = .ok f)
      (hid : claims.accountId = .ok id) :
      Asks app occasion verified request .changePassword (.changePassword occasion.salt id f.old f.new)
  | addFamily {form : FamilyForm} (hb : readBody readFamilyForm request = .ok form) :
      Asks app occasion verified request .addFamily (.addFamilyLink form.accountId form.familyId)
  | deleteFamily {form : FamilyForm} (hb : readBody readFamilyForm request = .ok form) :
      Asks app occasion verified request .deleteFamily (.removeFamilyLink form.accountId form.familyId)
  | deleteUser {id : Int} (hb : readBody readAccountId request = .ok id) :
      Asks app occasion verified request .deleteUser (.deleteEverywhere id)

/-! ## Handlers -/

/-- A program that answers at once, and with no JSON. -/
def AnswersAtOnce (p : Program Response) : Prop :=
  ∃ response : Response, p = pure response ∧ ∀ text, response.content ≠ .json text

/-- A program that declines a request at once, for a fault or for its body. -/
def Declines (p : Program Response) : Prop :=
  (∃ fault, p = pure (faultAnswer fault)) ∨ ∃ refusal, p = pure (refusalAnswer refusal)

lemma declines_fault (fault : Fault) : Declines (pure (faultAnswer fault)) := .inl ⟨fault, rfl⟩

lemma declines_refusal (refusal : BodyRefusal) : Declines (pure (refusalAnswer refusal)) := .inr ⟨refusal, rfl⟩

lemma Declines.answersAtOnce {p : Program Response} (h : Declines p) : AnswersAtOnce p := by
  rcases h with ⟨fault, h⟩ | ⟨refusal, h⟩
  · exact ⟨_, h, by simp [faultAnswer, answer]⟩
  · exact ⟨_, h, by simp [refusalAnswer, answer]⟩

lemma perform_ofExcept_bind {α β : Type} (r : Except Fault α) (f : α → Action β) (write : β → Response) :
    perform (Action.ofExcept r >>= f) write =
      match r with
      | .ok a => perform (f a) write
      | .error fault => pure (faultAnswer fault) := by
  cases r <;> rfl

lemma exists_of_bind_eq_ok {ε α β : Type} {r : Except ε α} {f : α → Except ε β} {b : β} (h : (r >>= f) = .ok b) :
    ∃ a, r = .ok a ∧ f a = .ok b := by
  cases r with
  | error fault => cases h
  | ok a => exact ⟨a, rfl, h⟩

lemma withBody_cases {α : Type} (value : Json.Reader α) (request : Request) (next : α → Program Response) :
    Declines (withBody value request next) ∨
      ∃ a, readBody value request = .ok a ∧ withBody value request next = next a := by
  unfold withBody
  cases readBody value request with
  | ok a => exact .inr ⟨a, rfl, rfl⟩
  | error refusal => exact .inl (declines_refusal refusal)

lemma withCaller_cases (app : Application) (now : Moment) (verified : Option Token.Claims) (request : Request)
    (next : Token.Claims → Program Response) :
    Declines (withCaller app now verified request next) ∨
      ∃ claims, callerClaims app.authority now verified request.headers = .ok claims ∧
        withCaller app now verified request next = next claims := by
  unfold withCaller
  cases callerClaims app.authority now verified request.headers with
  | ok claims => exact .inr ⟨claims, rfl, rfl⟩
  | error fault => exact .inl (declines_fault fault)

lemma perform_ofExcept_cases {α β : Type} (r : Except Fault α) (f : α → Action β) (write : β → Response) :
    Declines (perform (Action.ofExcept r >>= f) write) ∨
      ∃ a, r = .ok a ∧ perform (Action.ofExcept r >>= f) write = perform (f a) write := by
  rw [perform_ofExcept_bind]
  cases r with
  | ok a => exact .inr ⟨a, rfl, rfl⟩
  | error fault => exact .inl (declines_fault fault)

lemma withForm_cases {α β γ : Type} (value : Json.Reader α) (request : Request) (check : α → Except Fault β)
    (f : β → Action γ) (write : γ → Response) :
    Declines (withBody value request fun form => perform (Action.ofExcept (check form) >>= f) write) ∨
      ∃ form a, readBody value request = .ok form ∧ check form = .ok a ∧
        withBody value request (fun form => perform (Action.ofExcept (check form) >>= f) write) =
          perform (f a) write := by
  rcases withBody_cases value request fun form => perform (Action.ofExcept (check form) >>= f) write with
    h | ⟨form, hb, h⟩
  · exact .inl h
  · rw [h]
    refine (perform_ofExcept_cases (check form) f write).imp_right ?_
    rintro ⟨a, hc, hp⟩
    exact ⟨form, a, hb, hc, hp⟩

/-- A form for the caller's own account: the caller is found out first, then the form is read and checked, and the
id of the caller comes last. -/
lemma withOwnForm_cases {α β γ : Type} (app : Application) (now : Moment) (verified : Option Token.Claims)
    (request : Request) (value : Json.Reader α) (check : α → Except Fault β) (f : Int → β → Action γ)
    (write : γ → Response) :
    let p := withCaller app now verified request fun claims => withBody value request fun form =>
      perform (Action.ofExcept (check form) >>= fun a => Action.ofExcept claims.accountId >>= fun id => f id a) write
    Declines p ∨
      ∃ claims form a id, callerClaims app.authority now verified request.headers = .ok claims ∧
        readBody value request = .ok form ∧ check form = .ok a ∧ claims.accountId = .ok id ∧
        p = perform (f id a) write := by
  intro p
  rcases withCaller_cases app now verified request fun claims => withBody value request fun form =>
    perform (Action.ofExcept (check form) >>= fun a => Action.ofExcept claims.accountId >>= fun id => f id a) write with
    h | ⟨claims, hv, h⟩
  · exact .inl h
  · rw [show p = _ from h]
    rcases withForm_cases value request check (fun a => Action.ofExcept claims.accountId >>= fun id => f id a) write
      with h | ⟨form, a, hb, hc, h⟩
    · exact .inl h
    · rw [h]
      refine (perform_ofExcept_cases claims.accountId (f · a) write).imp_right ?_
      rintro ⟨id, hid, hp⟩
      exact ⟨claims, form, a, id, hv, hb, hc, hid, hp⟩

/-- **A handler declines at once, or performs the one operation that the request asks for,** unless it only tells that
the service is there. -/
theorem handle_declines_cases (app : Application) (occasion : Occasion) (verified : Option Token.Claims)
    (request : Request) {route : Route} (hroute : route ≠ .health) :
    Declines (handle app occasion verified request route) ∨
      ∃ o, Asks app occasion verified request route o ∧
        handle app occasion verified request route = perform (o.action app.scheme app.authority) o.write := by
  cases route with
  | signUp =>
    refine (withForm_cases readSignUp request checkRegistration _ _).imp_right ?_
    rintro ⟨form, r, hb, hc, h⟩
    exact ⟨_, .signUp hb hc, h⟩
  | signIn =>
    refine (withForm_cases readSignIn request checkSignIn _ _).imp_right ?_
    rintro ⟨form, f, hb, hc, h⟩
    exact ⟨_, .signIn hb hc, h⟩
  | isAdmin =>
    refine (withBody_cases readAccountId request _).imp_right ?_
    rintro ⟨id, hb, h⟩
    exact ⟨_, .isAdmin hb, h⟩
  | getUserInfo =>
    rcases withCaller_cases app occasion.now verified request fun claims => perform (ownProfileAction claims) _ with
      h | ⟨claims, hv, h⟩
    · exact .inl h
    · rw [handle, h]
      refine (perform_ofExcept_cases _ _ _).imp_right ?_
      rintro ⟨id, hid, hp⟩
      exact ⟨_, .getUserInfo hv hid, hp⟩
  | getUserInfoById =>
    refine (withBody_cases readAccountId request _).imp_right ?_
    rintro ⟨id, hb, h⟩
    exact ⟨_, .getUserInfoById hb, h⟩
  | updateUserInfo =>
    refine (withOwnForm_cases app occasion.now verified request readPatch checkPatch _ _).imp_right ?_
    rintro ⟨claims, form, patch, id, hv, hb, hc, hid, h⟩
    exact ⟨_, .updateUserInfo hv hb hc hid, h⟩
  | changePassword =>
    refine (withOwnForm_cases app occasion.now verified request readPasswordForm checkPasswordForm _ _).imp_right ?_
    rintro ⟨claims, form, f, id, hv, hb, hc, hid, h⟩
    exact ⟨_, .changePassword hv hb hc hid, h⟩
  | addFamily =>
    refine (withBody_cases readFamilyForm request _).imp_right ?_
    rintro ⟨form, hb, h⟩
    exact ⟨_, .addFamily hb, h⟩
  | deleteFamily =>
    refine (withBody_cases readFamilyForm request _).imp_right ?_
    rintro ⟨form, hb, h⟩
    exact ⟨_, .deleteFamily hb, h⟩
  | deleteUser =>
    refine (withBody_cases readAccountId request _).imp_right ?_
    rintro ⟨id, hb, h⟩
    exact ⟨_, .deleteUser hb, h⟩
  | health => exact absurd rfl hroute

/-- A handler answers at once, or performs the one operation that the request asks for. -/
theorem handle_cases (app : Application) (occasion : Occasion) (verified : Option Token.Claims) (request : Request)
    (route : Route) :
    AnswersAtOnce (handle app occasion verified request route) ∨
      ∃ o, Asks app occasion verified request route o ∧
        handle app occasion verified request route = perform (o.action app.scheme app.authority) o.write := by
  by_cases hroute : route = .health
  · subst hroute
    exact .inl ⟨_, rfl, by simp [answer]⟩
  · exact (handle_declines_cases app occasion verified request hroute).imp_left Declines.answersAtOnce

theorem handle_of_asks {route : Route} {o : Operation} (h : Asks app occasion verified request route o) :
    handle app occasion verified request route = perform (o.action app.scheme app.authority) o.write := by
  cases h with
  | signUp hb hc =>
    simp only [handle, withBody, hb, signUpAction, perform_ofExcept_bind, hc]
    rfl
  | signIn hb hc =>
    simp only [handle, withBody, hb, signInAction, perform_ofExcept_bind, hc]
    rfl
  | isAdmin hb | getUserInfoById hb | addFamily hb | deleteFamily hb | deleteUser hb =>
    simp only [handle, withBody, hb]
    rfl
  | getUserInfo hv hid =>
    simp only [handle, withCaller, hv, ownProfileAction, perform_ofExcept_bind, hid]
    rfl
  | updateUserInfo hv hb hc hid =>
    simp only [handle, withCaller, hv, withBody, hb, updateAction, perform_ofExcept_bind, hc, hid]
    rfl
  | changePassword hv hb hc hid =>
    simp only [handle, withCaller, hv, withBody, hb, changePasswordAction, perform_ofExcept_bind, hc, hid]
    rfl

/-! ## Requests -/

lemma write_allow (o : Operation) (a : o.Answer) : (o.write a).allow = [] := by
  cases o with
  | getProfile id =>
    show (profileAnswer a).allow = []
    unfold profileAnswer
    split <;> rfl
  | _ => rfl

lemma perform_write (o : Operation) (action : Action o.Answer) :
    (perform action o.write >>= fun response => pure { response with allow := [] }) = perform action o.write := by
  unfold perform
  rw [bind_assoc]
  refine congrArg (action.run >>= ·) (funext fun result => ?_)
  cases result with
  | ok a =>
    have hallow : { o.write a with allow := [] } = o.write a := by
      rw [← write_allow o a]
    exact congrArg (pure : Response → Program Response) hallow
  | error fault => rfl

lemma content_of_answered {app : Application} {now : Moment} {method target : String} {headers : Http.Headers}
    {response : Response} (h : passage app now method target headers = .answered response) (text : String) :
    response.content ≠ .json text := by
  unfold passage at h
  dsimp only at h
  split at h
  · cases h
    simp
  · split at h
    · cases h
      simp [faultAnswer, answer]
    · split at h
      · split at h
        · cases h
        · cases h
          simp [answer]
      · cases h
        simp [answer]

lemma ofPath?_of_handled {app : Application} {now : Moment} {method target : String} {headers : Http.Headers}
    {route : Route} {verified : Option Token.Claims}
    (h : passage app now method target headers = .handled route verified) :
    Route.ofPath? (pathOf target) = some route := by
  unfold passage at h
  dsimp only at h
  split at h
  · cases h
  · split at h
    · cases h
    · split at h
      · next r hr =>
        split at h
        · cases h
          exact hr
        · cases h
      · cases h

/-- **A request is answered at once, or performs the one operation that it asks for.** -/
theorem respond_cases (app : Application) (occasion : Occasion) (request : Request) :
    AnswersAtOnce (respond app occasion request) ∨
      ∃ route verified o,
        passage app occasion.now request.method request.target request.headers = .handled route verified ∧
        Asks app occasion verified request route o ∧
        respond app occasion request = perform (o.action app.scheme app.authority) o.write := by
  rw [respond_eq_passage]
  cases hp : passage app occasion.now request.method request.target request.headers with
  | answered response => exact .inl ⟨response, rfl, content_of_answered hp⟩
  | handled route verified =>
    dsimp only
    rcases handle_cases app occasion verified request route with ⟨response, h, hcontent⟩ | ⟨o, hasks, h⟩
    · rw [h]
      exact .inl ⟨_, rfl, hcontent⟩
    · rw [h, perform_write]
      exact .inr ⟨route, verified, o, rfl, hasks, rfl⟩

theorem respond_of_asks {route : Route} {o : Operation}
    (hp : passage app occasion.now request.method request.target request.headers = .handled route verified)
    (h : Asks app occasion verified request route o) :
    respond app occasion request = perform (o.action app.scheme app.authority) o.write := by
  rw [respond_eq_passage, hp]
  dsimp only
  rw [handle_of_asks h, perform_write]

/-- What every operation keeps that a request may ask for, the request keeps. -/
theorem keeps_respond_of_asks {I : Store → Prop}
    (h : ∀ {route verified o}, Asks app occasion verified request route o →
      (o.action app.scheme app.authority).Keeps I) : (respond app occasion request).Keeps I := by
  rcases respond_cases app occasion request with ⟨response, hr, -⟩ | ⟨route, verified, o, -, hasks, hr⟩ <;> rw [hr]
  · trivial
  · exact Program.Keeps.bind (h hasks) fun result => by cases result <;> trivial

section Run

variable {σ α : Type} {handler : Program.Handler σ}

/-- An operation that is performed leaves the state that its action leaves, and its result is written down. -/
lemma run_perform (action : Action α) (write : α → Response) (s : σ) :
    (perform action write).run handler s =
      (match (action.runWith handler s).1 with
        | .ok a => write a
        | .error fault => faultAnswer fault, (action.runWith handler s).2) := by
  unfold perform Action.runWith
  rw [Program.run_bind]
  rcases Program.run handler action.run s with ⟨result, s'⟩
  cases result <;> rfl

end Run

end Api

end Gatehouse
