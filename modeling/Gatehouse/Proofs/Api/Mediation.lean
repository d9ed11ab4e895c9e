import Gatehouse.Proofs.Access
import Gatehouse.Proofs.Program.Run
import Gatehouse.Startup

/-!
# Every protected handler stands behind the access layer

* `passage` — what the layers in front of the handlers make of a request, by its method, target and headers;
* `respond_eq_passage` — the router answers at once or runs one handler, as the passage says;
* `operationOf?_path` — the operation that the path of a route names is the operation of the route;
* `respond_mediated` — a protected handler runs only behind an authorization for its own operation, and a
  refusal is the answer of its fault, the same for all bodies and stores, and leaves everything as it was.
-/

namespace Gatehouse.Api

open Http (Request Response)

/-! ## Routes and operations -/

def Route.operation? : Route → Option String
  | .signUp => some "Auth.SignUp"
  | .signIn => some "Auth.SignIn"
  | .isAdmin => some "Permissions.IsAdmin"
  | .getUserInfo => some "UserInfo.GetUserInfo"
  | .getUserInfoById => some "UserInfo.GetUserInfoByID"
  | .updateUserInfo => some "UserInfo.UpdateUserInfo"
  | .changePassword => some "UserInfo.ChangePassword"
  | .addFamily => some "UserInfo.AddFamily"
  | .deleteFamily => some "UserInfo.DeleteFamily"
  | .deleteUser => some "UserInfo.DeleteUser"
  | .health => none

/-- The two readings of a path agree: where a path leads to a route, it names the operation of that route. -/
theorem operationOf?_path (route : Route) : Access.operationOf? route.path = route.operation? := by
  cases route <;> decide +kernel

lemma operationOf?_eq_of_ofPath? {path : String} {route : Route} (h : Route.ofPath? path = some route) :
    Access.operationOf? path = route.operation? := by
  rw [Route.ofPath?_eq_some_iff.1 h, operationOf?_path]

/-! ## What the layers make of a request -/

/-- A request is answered in front of the handlers, or handed to the handler of a route. -/
inductive Passage
  | answered (response : Response)
  | handled (route : Route) (verified : Option Token.Claims)

/-- How far a request gets. Its body has no part in this. -/
def passage (app : Application) (now : Moment) (method target : String) (headers : Http.Headers) : Passage :=
  let route := Route.ofPath? (pathOf target)
  let allow := allowFor method route
  if method = "OPTIONS" then .answered ⟨200, .empty, allow, true⟩
  else
    match admission app now (pathOf target) headers with
    | .error fault => .answered { faultAnswer fault with allow }
    | .ok verified =>
      match route with
      | some route =>
        if route.methods.contains method then .handled route verified
        else .answered { answer 405 .empty with allow }
      | none => .answered { answer 404 .empty with allow }

theorem respond_eq_passage (app : Application) (occasion : Occasion) (request : Request) :
    respond app occasion request =
      match passage app occasion.now request.method request.target request.headers with
      | .answered response => pure response
      | .handled route verified =>
        handle app occasion verified request route >>= fun response => pure { response with allow := [] } := by
  unfold respond passage
  by_cases ho : request.method = "OPTIONS"
  · simp only [ho, if_true]
  · simp only [ho, if_false]
    cases admission app occasion.now (pathOf request.target) request.headers with
    | error fault => rfl
    | ok verified =>
      cases Route.ofPath? (pathOf request.target) with
      | none => rfl
      | some route =>
        by_cases hm : route.methods.contains request.method = true
        · simp only [dispatch, allowFor, hm, if_true]
        · simp only [dispatch, hm]
          rfl

/-- A request that the access layer refuses is answered without any call, whatever its body. -/
lemma respond_of_refused {app : Application} {occasion : Occasion} {request : Request} {operation : String}
    {fault : Fault} (hm : request.method ≠ "OPTIONS")
    (hop : Access.operationOf? (pathOf request.target) = some operation)
    (h : Access.authorize app.authority app.policy occasion.now operation request.headers = .error fault) :
    respond app occasion request =
      pure { faultAnswer fault with allow := allowFor request.method (Route.ofPath? (pathOf request.target)) } := by
  unfold respond admission
  simp only [hm, if_false, hop, h]

/-- A request that gets to a handler has passed the access layer, by the operation of that handler's route. -/
lemma admission_of_handled {app : Application} {now : Moment} {method target : String} {headers : Http.Headers}
    {route : Route} {verified : Option Token.Claims}
    (h : passage app now method target headers = .handled route verified) :
    Access.operationOf? (pathOf target) = route.operation? ∧
      admission app now (pathOf target) headers = .ok verified := by
  unfold passage at h
  by_cases ho : method = "OPTIONS"
  · simp [ho] at h
  · simp only [ho, if_false] at h
    cases ha : admission app now (pathOf target) headers with
    | error fault => simp [ha] at h
    | ok v =>
      cases hr : Route.ofPath? (pathOf target) with
      | none => simp [ha, hr] at h
      | some r =>
        by_cases hm : r.methods.contains method = true
        · simp only [ha, hr, hm, if_true, Passage.handled.injEq] at h
          obtain ⟨rfl, rfl⟩ := h
          exact ⟨operationOf?_eq_of_ofPath? hr, rfl⟩
        · simp only [ha, hr, if_neg hm] at h
          cases h

/-! ## Mediation -/

/-- **Every protected handler stands behind the access layer**, for any settings of the service and any request.
The router runs a handler only where the passage leads to it. A request gets to a handler only under the operation
of that handler's route, and to a protected one only with an authorization for that operation by its own headers.
A refusal has the status and the text of its fault, as plain text, and beside them only what the layers around the
access layer add to every answer to that method and path; it does not depend on the body or on the store, calls nothing
and leaves everything as it was. -/
theorem respond_mediated (settings : Settings) (stretching : Password.Stretching) (occasion : Occasion)
    (request : Request) :
    let app := Startup.applicationOf settings stretching
    let authorized (operation : String) :=
      Access.authorize app.authority .standard occasion.now operation request.headers
    respond app occasion request =
      (match passage app occasion.now request.method request.target request.headers with
      | .answered response => pure response
      | .handled route verified =>
        handle app occasion verified request route >>= fun response => pure { response with allow := [] }) ∧
    (∀ route verified,
      passage app occasion.now request.method request.target request.headers = .handled route verified →
      Access.operationOf? (pathOf request.target) = route.operation? ∧
      ∀ operation roles, route.operation? = some operation →
        Access.Policy.standard.allowed? operation = some roles →
        ∃ claims, verified = some claims ∧ authorized operation = .ok (some claims) ∧ claims.role ∈ roles) ∧
    ∀ operation fault, request.method ≠ "OPTIONS" →
      Access.operationOf? (pathOf request.target) = some operation → authorized operation = .error fault →
      ∃ refusal : Response,
        refusal = { faultAnswer fault with allow := allowFor request.method (Route.ofPath? (pathOf request.target)) } ∧
        refusal.status = fault.status ∧ refusal.content = .text fault.message ∧
        (refusal.status = 401 ∨ refusal.status = 403) ∧
        ∀ body, respond app occasion { request with body } = pure refusal ∧
          ∀ (ρ : Type) (client : Relations.Client ρ) (s : Store) (r : ρ),
            (respond app occasion { request with body }).run (Program.inMemory client) (s, r) =
              (refusal, (s, r)) := by
  intro app authorized
  refine ⟨respond_eq_passage app occasion request, ?_, ?_⟩
  · intro route verified h
    obtain ⟨hop, hadm⟩ := admission_of_handled h
    refine ⟨hop, fun operation roles ho hr => ?_⟩
    have hauth : authorized operation = .ok verified := by
      unfold admission at hadm
      rw [hop, ho] at hadm
      exact hadm
    obtain ⟨claims, rfl, hrole⟩ := Access.exists_claims_of_authorize hr hauth
    exact ⟨claims, rfl, hauth, hrole⟩
  · intro operation fault hm hop hauth
    refine ⟨_, rfl, rfl, rfl, (Access.authorize_eq_error hauth).2, fun body => ?_⟩
    have hrespond : respond app occasion { request with body } = _ := respond_of_refused hm hop hauth
    exact ⟨hrespond, fun ρ client s r => by rw [hrespond]; rfl⟩

end Gatehouse.Api
