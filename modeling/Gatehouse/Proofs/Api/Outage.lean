import Gatehouse.Proofs.Api.Attempt
import Gatehouse.Proofs.Api.Ownership
import Gatehouse.Proofs.Api.Refusal
import Gatehouse.Proofs.Api.Trouble
import Gatehouse.Proofs.Program.Outage

/-!
# The service without its store

* `Operation.founders` — over a store that fails every call, no operation comes to anything;
* `Api.Accepted` — the body of a request is one that the handler of a route goes on with;
* `Api.Accepted.asks` — such a request asks for an operation, unless its token names no account;
* `Api.fails_closed` — so that a service without its store answers nothing but that it is there, gives no token and asks
  nothing of the relationship service.
-/

namespace Gatehouse

open Http (Request Response)

/-! ## Operations -/

lemma Password.Scheme.hash_eq_error {scheme : Scheme} {salt : Salt} {plain : String} {fault : Fault}
    (h : scheme.hash salt plain = .error fault) : ∃ detail, fault = .internal detail := by
  cases ho : scheme.output? salt plain with
  | some tag =>
    rw [hash_of_some ho] at h
    cases h
  | none =>
    rw [hash_of_none ho] at h
    cases h
    exact ⟨_, rfl⟩

namespace Operation

open Gatehouse.Action (Founders founders_store founders_ofExcept_bind)

variable {σ : Type} {handler : Program.Handler σ}

/-- **Over a store that fails every call** no operation comes to anything, whatever its arguments. -/
theorem founders (hdown : handler.StoreFails) (scheme : Password.Scheme) (authority : Token.Authority) (o : Operation) :
    (o.action scheme authority).Founders handler := by
  have haccount : ∀ id, (Action.account id).Founders handler := fun id => (founders_store hdown (.findById id)).bind _
  have hsignUp : ∀ occasion r, (Service.signUp scheme occasion r).Founders handler := fun occasion r =>
    founders_ofExcept_bind (fun _ => Password.Scheme.hash_eq_error) fun text => founders_store hdown _
  cases o with
  | signUp occasion r => exact hsignUp occasion r
  | signIn now email password => exact (founders_store hdown (.findByEmail email)).bind _
  | ensureAdmin occasion email password =>
    -- only a clash of addresses is handled, and this is none
    refine Founders.bind (Founders.tryCatch ?_ fun detail => ?_) _
    · exact hsignUp occasion (Service.adminRegistration email password)
    · rfl
  | getProfile id | isAdmin id | updateProfile id patch | changePassword salt id old new => exact (haccount id).bind _
  | addFamilyLink | removeFamilyLink | deleteRecord => exact founders_store hdown _
  | deleteEverywhere id => exact ((haccount id).bind _).bind _

end Operation

/-! ## Requests -/

namespace Api

variable {app : Application} {occasion : Occasion} {verified : Option Token.Claims} {request : Request} {route : Route}
  {claims : Token.Claims}

/-- The body of the request can be read by the handler of a route, and what it asks for passes the checks. -/
inductive Accepted (request : Request) : Route → Prop
  | signUp {form r : Registration} (hb : readBody readSignUp request = .ok form)
      (hc : checkRegistration form = .ok r) : Accepted request .signUp
  | signIn {form f : SignInForm} (hb : readBody readSignIn request = .ok form) (hc : checkSignIn form = .ok f) :
      Accepted request .signIn
  | isAdmin {id : Int} (hb : readBody readAccountId request = .ok id) : Accepted request .isAdmin
  | getUserInfo : Accepted request .getUserInfo
  | getUserInfoById {id : Int} (hb : readBody readAccountId request = .ok id) : Accepted request .getUserInfoById
  | updateUserInfo {form patch : Profile} (hb : readBody readPatch request = .ok form)
      (hc : checkPatch form = .ok patch) : Accepted request .updateUserInfo
  | changePassword {form f : PasswordForm} (hb : readBody readPasswordForm request = .ok form)
      (hc : checkPasswordForm form = .ok f) : Accepted request .changePassword
  | addFamily {form : FamilyForm} (hb : readBody readFamilyForm request = .ok form) : Accepted request .addFamily
  | deleteFamily {form : FamilyForm} (hb : readBody readFamilyForm request = .ok form) : Accepted request .deleteFamily
  | deleteUser {id : Int} (hb : readBody readAccountId request = .ok id) : Accepted request .deleteUser

/-- The route acts on the account of the caller, and the verified claims name none. -/
def Unnamed (route : Route) (verified : Option Token.Claims) : Prop :=
  route.IsOwn ∧ ∃ claims, verified = some claims ∧ ∀ id, claims.accountId ≠ .ok id

/-- **What is accepted asks for an operation,** where the claims of a caller who acts on the own account name it. -/
theorem Accepted.asks (h : Accepted request route) (hclaims : route.IsOwn → ∃ claims id,
      callerClaims app.authority occasion.now verified request.headers = .ok claims ∧ claims.accountId = .ok id) :
    ∃ o, Asks app occasion verified request route o := by
  cases h with
  | signUp hb hc => exact ⟨_, .signUp hb hc⟩
  | signIn hb hc => exact ⟨_, .signIn hb hc⟩
  | isAdmin hb => exact ⟨_, .isAdmin hb⟩
  | getUserInfoById hb => exact ⟨_, .getUserInfoById hb⟩
  | addFamily hb => exact ⟨_, .addFamily hb⟩
  | deleteFamily hb => exact ⟨_, .deleteFamily hb⟩
  | deleteUser hb => exact ⟨_, .deleteUser hb⟩
  | getUserInfo =>
    obtain ⟨claims, id, hv, hid⟩ := hclaims trivial
    exact ⟨_, .getUserInfo hv hid⟩
  | updateUserInfo hb hc =>
    obtain ⟨claims, id, hv, hid⟩ := hclaims trivial
    exact ⟨_, .updateUserInfo hv hb hc hid⟩
  | changePassword hb hc =>
    obtain ⟨claims, id, hv, hid⟩ := hclaims trivial
    exact ⟨_, .changePassword hv hb hc hid⟩

lemma Accepted.handle_of_unnamed (h : Accepted request route) (hown : route.IsOwn) {fault : Fault}
    (hv : callerClaims app.authority occasion.now verified request.headers = .ok claims)
    (hid : claims.accountId = .error fault) :
    handle app occasion verified request route = pure (faultAnswer fault) := by
  cases h with
  | getUserInfo => simp only [handle, withCaller, hv, ownProfileAction, perform_ofExcept_bind, hid]
  | updateUserInfo hb hc =>
    simp only [handle, withCaller, hv, withBody, hb, updateAction, perform_ofExcept_bind, hc, hid]
  | changePassword hb hc =>
    simp only [handle, withCaller, hv, withBody, hb, changePasswordAction, perform_ofExcept_bind, hc, hid]
  | _ => exact hown.elim

lemma exists_claims_of_handled (hpolicy : app.policy = .standard) (hown : route.IsOwn)
    (h : passage app occasion.now request.method request.target request.headers = .handled route verified) :
    ∃ claims, verified = some claims := by
  obtain ⟨operation, ho, roles, hroles⟩ : ∃ operation, route.operation? = some operation ∧
      ∃ roles, Access.Policy.standard.allowed? operation = some roles := by
    cases route with
    | getUserInfo | updateUserInfo | changePassword => exact ⟨_, rfl, _, rfl⟩
    | _ => exact hown.elim
  obtain ⟨hop, hadmission⟩ := admission_of_handled h
  unfold admission at hadmission
  rw [hop, ho, hpolicy] at hadmission
  obtain ⟨claims, hv, -⟩ := Access.exists_claims_of_authorize hroles hadmission
  exact ⟨claims, hv⟩

/-- Of what is answered in front of the handlers, only the answer to a preflight request reports success. -/
lemma preflight_of_answered {now : Moment} {method target : String} {headers : Http.Headers} {response : Response}
    (h : passage app now method target headers = .answered response) (hstatus : response.status = 200) :
    method = "OPTIONS" ∧ response.isPreflight = true := by
  unfold passage at h
  dsimp only at h
  split at h
  · next hm =>
    cases h
    exact ⟨hm, rfl⟩
  · split at h
    · next fault _ =>
      cases h
      exact absurd hstatus (status_faultAnswer fault)
    · split at h
      · split at h <;> cases h
        simp [answer] at hstatus
      · cases h
        simp [answer] at hstatus

/-! ## Answers -/

section Answers

variable {σ : Type} {handler : Program.Handler σ}

lemma status_of_declines {p : Program Response} (h : Declines p) (s : σ) : (p.run handler s).1.status ≠ 200 := by
  rcases h with ⟨fault, rfl⟩ | ⟨refusal, rfl⟩
  · exact status_faultAnswer fault
  · show refusal.status ≠ 200
    cases refusal <;> decide

lemma content_of_declines {p : Program Response} (h : Declines p) (s : σ) (text : String) :
    (p.run handler s).1.content ≠ .json text := by
  obtain ⟨response, rfl, hcontent⟩ := h.answersAtOnce
  exact hcontent text

lemma calls_of_declines {p : Program Response} (h : Declines p) (s : σ) : p.calls handler s = [] := by
  rcases h with ⟨fault, rfl⟩ | ⟨refusal, rfl⟩ <;> rfl

/-- An operation that comes to nothing is answered as trouble. -/
lemma perform_of_founders {α : Type} {action : Action α} (h : action.Founders handler) (write : α → Response) (s : σ) :
    ((perform action write).run handler s).1 = troubleAnswer ∧
      ∀ c, .relations c ∉ (perform action write).calls handler s := by
  obtain ⟨⟨detail, hfault⟩, hcalls⟩ := h s
  constructor
  · rw [run_perform, hfault]
    rfl
  · intro c hc
    unfold perform at hc
    rw [Program.calls_bind, List.mem_append] at hc
    -- behind the action the answer is written, which takes no call
    rcases hc with hc | hc
    · exact hcalls c hc
    · rw [show (Program.run handler action.run s).1 = .error (.internal detail) from hfault] at hc
      cases hc

lemma run_respond_of_handled (handler : Program.Handler σ) {route : Route}
    (hp : passage app occasion.now request.method request.target request.headers = .handled route verified) (s : σ) :
    ((respond app occasion request).run handler s).1 =
        { ((handle app occasion verified request route).run handler s).1 with allow := [] } ∧
      (respond app occasion request).calls handler s =
        (handle app occasion verified request route).calls handler s := by
  rw [respond_eq_passage, hp]
  dsimp only
  rw [Program.run_bind, Program.calls_bind, Program.calls_pure, List.append_nil]
  exact ⟨rfl, rfl⟩

/-- **A request without the store** gets no success but a preflight answer or the word that the service is there, and
no JSON; and nothing is asked of the relationship service. -/
theorem respond_without_store (hdown : handler.StoreFails) (app : Application) (occasion : Occasion)
    (request : Request) (s : σ) :
    let response := ((respond app occasion request).run handler s).1
    (response.status = 200 → request.method = "OPTIONS" ∧ response.isPreflight = true ∨
      Route.ofPath? (pathOf request.target) = some .health) ∧
    (∀ text, response.content ≠ .json text) ∧
    ∀ c, .relations c ∉ (respond app occasion request).calls handler s := by
  intro response
  cases hp : passage app occasion.now request.method request.target request.headers with
  | answered answered =>
    have hrespond : respond app occasion request = pure answered := by rw [respond_eq_passage, hp]
    simp only [response, hrespond, Program.run_pure, Program.calls_pure]
    exact ⟨fun h => .inl (preflight_of_answered hp h), content_of_answered hp, fun c => List.not_mem_nil⟩
  | handled route verified =>
    obtain ⟨hrun, hcalls⟩ := run_respond_of_handled handler hp s
    simp only [response, hrun, hcalls]
    by_cases hroute : route = .health
    · subst hroute
      exact ⟨fun _ => .inr (ofPath?_of_handled hp), by simp [handle, answer], fun c => List.not_mem_nil⟩
    · rcases handle_declines_cases app occasion verified request hroute with h | ⟨o, -, h⟩
      · rw [calls_of_declines h]
        exact ⟨fun hstatus => absurd hstatus (status_of_declines h s), content_of_declines h s,
          fun c => List.not_mem_nil⟩
      · obtain ⟨htrouble, hno⟩ := perform_of_founders (o.founders hdown app.scheme app.authority) o.write s
        rw [h, htrouble]
        exact ⟨fun hstatus => absurd hstatus (by decide), by simp [troubleAnswer, answer], hno⟩

end Answers

/-- **Without its store the service fails closed.** If every call on the store fails, whatever the report and whatever
the relationship service does, then every operation ends in an internal fault, whatever its arguments, and asks nothing
of the relationship service. No answer to a request has the status 200, except that to a preflight request and that of
the route that tells that the service is there; none holds a token, or any other result, and no request leads to a call
on the relationship service. A request that passes the access layer, whose body can be read and what it says passes the
checks, is answered by status 500, unless it is for the own account of a caller whose token names none: that is told
so, by status 401. -/
theorem fails_closed {σ : Type} {handler : Program.Handler σ} (hdown : handler.StoreFails) (authority : Token.Authority)
    (scheme : Password.Scheme) (s : σ) :
    let app : Application := ⟨authority, .standard, scheme⟩
    (∀ o : Operation, (∃ detail, ((o.action scheme authority).runWith handler s).1 = .error (.internal detail)) ∧
      ∀ c, .relations c ∉ Program.calls handler (o.action scheme authority).run s) ∧
    ∀ occasion request,
      let response := ((respond app occasion request).run handler s).1
      (response.status = 200 → request.method = "OPTIONS" ∧ response.isPreflight = true ∨
        Route.ofPath? (pathOf request.target) = some .health) ∧
      (∀ text, response.content ≠ .json text) ∧
      (∀ c, .relations c ∉ (respond app occasion request).calls handler s) ∧
      ∀ route verified,
        passage app occasion.now request.method request.target request.headers = .handled route verified →
        Accepted request route →
        (¬ Unnamed route verified → response = troubleAnswer) ∧
          (Unnamed route verified → response = faultAnswer .tokenClaims) := by
  intro app
  refine ⟨fun o => o.founders hdown scheme authority s, fun occasion request => ?_⟩
  intro response
  obtain ⟨hstatus, hcontent, hcalls⟩ := respond_without_store hdown app occasion request s
  refine ⟨hstatus, hcontent, hcalls, fun route verified hp haccepted => ⟨fun hnamed => ?_, ?_⟩⟩
  · obtain ⟨o, hasks⟩ : ∃ o, Asks app occasion verified request route o := by
      refine haccepted.asks fun hown => ?_
      obtain ⟨claims, rfl⟩ := exists_claims_of_handled rfl hown hp
      by_contra hno
      exact hnamed ⟨hown, claims, rfl, fun id hid => hno ⟨claims, id, rfl, hid⟩⟩
    simp only [response, respond_of_asks hp hasks]
    exact (perform_of_founders (o.founders hdown scheme authority) o.write s).1
  · rintro ⟨hown, claims, rfl, hnobody⟩
    cases hid : claims.accountId with
    | ok id => exact absurd hid (hnobody id)
    | error fault =>
      cases accountId_eq_error hid
      have hanswer : handle app occasion (some claims) request route = pure (faultAnswer .tokenClaims) :=
        haccepted.handle_of_unnamed hown rfl hid
      simp only [response, (run_respond_of_handled handler hp s).1, hanswer]
      rfl

/-- Somebody signs in while the store is out of reach. -/
theorem fails_closed_at_sign_in :
    let stretching : Password.Stretching := ⟨fun p _ _ => some (List.replicate p.tagLength 0), by simp⟩
    let app : Application := ⟨⟨utf8 "secret", 60⟩, .standard, ⟨"", stretching⟩⟩
    let occasion : Occasion := ⟨Moment.utc 0, Vector.replicate 16 0⟩
    let request : Request := ⟨"POST", "/Auth/SignIn", [("content-type", utf8 "application/json")],
      utf8 "\x7b\"email\":\"a@x.com\",\"password\":\"p\"\x7d"⟩
    (Program.withoutStore Startup.noClient).StoreFails ∧
      ((respond app occasion request).run (Program.withoutStore Startup.noClient) ()).1 = troubleAnswer := by
  intro stretching app occasion request
  have hdown := Program.storeFails_withoutStore Startup.noClient
  have hattempts : Attempts request ⟨"a@x.com", "p"⟩ := ⟨rfl, by decide +kernel, by decide +kernel⟩
  have hp : passage app occasion.now request.method request.target request.headers = .handled .signIn none :=
    passage_of_attempts hattempts rfl occasion.now
  have haccepted : Accepted request .signIn := .signIn hattempts.body (f := ⟨"a@x.com", "p"⟩) (by decide +kernel)
  exact ⟨hdown, (((fails_closed hdown app.authority app.scheme ()).2 occasion request).2.2.2 .signIn none hp
    haccepted).1 fun h => h.1⟩

end Api

end Gatehouse
