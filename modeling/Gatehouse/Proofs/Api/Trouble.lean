import Gatehouse.Proofs.Api.Session
import Gatehouse.Proofs.Program.Keeps

/-!
# What the answers to trouble tell

* `troubleAnswer` — the one answer to whatever goes wrong inside, which tells nothing of the cause;
* `TellsMoment` — the answer that tells of a moment of registration which has no text;
* `run_respond_guarded` — whatever answers its calls, a request that ends in trouble is answered by one of these;
* `Store.Writable` — all moments of registration have a text, which every call keeps that creates no account without;
* `trouble_tells_nothing` — so that over such a store, and over one out of reach, trouble has one answer.
-/

namespace Gatehouse

open Http (Request Response)
open Program (inMemory withoutStore)

namespace Api

/-! ## Answers -/

/-- The answer to trouble: it tells nothing of the cause. -/
def troubleAnswer : Response := answer 500 (.text "internal error")

section Guarded

variable {σ : Type} (handler : Program.Handler σ) (s : σ)

/-- The answer tells what cannot be written of the moment of registration of an account, which the store gave under an
id. -/
def TellsMoment (response : Response) : Prop :=
  ∃ id a unwritable, (handler (.store (.findById id)) s).1 = .ok (some a) ∧
    a.registeredAt.toRfc3339 = .error unwritable ∧ response = answer 500 (.text unwritable.message)

/-- An answer that reports trouble is the one that tells nothing, or tells what cannot be written of a moment. -/
def Guarded (response : Response) : Prop :=
  500 ≤ response.status → response = troubleAnswer ∨ TellsMoment handler s response

variable {handler s} {response : Response}

lemma guarded_of_lt (h : response.status < 500) : Guarded handler s response :=
  fun htrouble => absurd htrouble (by omega)

lemma guarded_faultAnswer (fault : Fault) : Guarded handler s (faultAnswer fault) := by
  cases fault with
  | internal detail => exact fun _ => .inl rfl
  | _ => exact guarded_of_lt (by simp [faultAnswer, answer, Fault.status])

lemma guarded_refusalAnswer (refusal : BodyRefusal) : Guarded handler s (refusalAnswer refusal) := by
  cases refusal <;> exact guarded_of_lt (by decide)

lemma profileAnswer_cases (a : Account) :
    (profileAnswer a).status = 200 ∨
      ∃ unwritable, a.registeredAt.toRfc3339 = .error unwritable ∧
        profileAnswer a = answer 500 (.text unwritable.message) := by
  unfold profileAnswer
  cases a.registeredAt.toRfc3339 with
  | ok text => exact .inl rfl
  | error unwritable => exact .inr ⟨unwritable, rfl, rfl⟩

/-! ## Handlers -/

variable {α : Type} {request : Request} {app : Application} {occasion : Occasion}

lemma run_withBody_guarded {value : Json.Reader α} {next : α → Program Response}
    (h : ∀ a, Guarded handler s ((next a).run handler s).1) :
    Guarded handler s ((withBody value request next).run handler s).1 := by
  unfold withBody
  cases readBody value request with
  | ok a => exact h a
  | error refusal => exact guarded_refusalAnswer refusal

lemma run_withCaller_guarded {now : Moment} {verified : Option Token.Claims} {next : Token.Claims → Program Response}
    (h : ∀ claims, Guarded handler s ((next claims).run handler s).1) :
    Guarded handler s ((withCaller app now verified request next).run handler s).1 := by
  unfold withCaller
  cases callerClaims app.authority now verified request.headers with
  | ok claims => exact h claims
  | error fault => exact guarded_faultAnswer fault

lemma run_perform_guarded (action : Action α) {write : α → Response} (h : ∀ a, (write a).status = 200) :
    Guarded handler s ((perform action write).run handler s).1 := by
  rw [run_perform]
  cases (action.runWith handler s).1 with
  | ok a => exact guarded_of_lt (by rw [h a]; decide)
  | error fault => exact guarded_faultAnswer fault

lemma exists_account_of_getProfile {id : Int} {a : Account}
    (h : ((Service.getProfile id).runWith handler s).1 = .ok a) :
    ∃ b, (handler (.store (.findById id)) s).1 = .ok (some b) ∧ a = { b with passwordHash := "" } := by
  have hstore : (Action.store (.findById id)).runWith handler s = handler (.store (.findById id)) s := rfl
  rw [Service.getProfile, Action.account, bind_assoc, Action.runWith_bind, hstore] at h
  rcases hfound : handler (.store (.findById id)) s with ⟨fault | found, s'⟩ <;> rw [hfound] at h
  · cases h
  · cases found with
    | none => cases h
    | some b =>
      cases h
      exact ⟨b, rfl, rfl⟩

/-- Showing a profile tells at worst what cannot be written of its moment. -/
lemma run_getProfile_guarded (id : Int) :
    Guarded handler s ((perform (Service.getProfile id) profileAnswer).run handler s).1 := by
  rw [run_perform]
  cases hrun : ((Service.getProfile id).runWith handler s).1 with
  | error fault => exact guarded_faultAnswer fault
  | ok a =>
    obtain ⟨b, hb, rfl⟩ := exists_account_of_getProfile hrun
    rcases profileAnswer_cases { b with passwordHash := "" } with h | ⟨unwritable, hmoment, h⟩
    · exact guarded_of_lt (by rw [h]; decide)
    · exact fun _ => .inr ⟨id, b, unwritable, hb, hmoment, h⟩

/-- **Every handler** tells of trouble at worst what cannot be written of a moment of registration. -/
theorem run_handle_guarded (app : Application) (occasion : Occasion) (verified : Option Token.Claims)
    (request : Request) (route : Route) :
    Guarded handler s ((handle app occasion verified request route).run handler s).1 := by
  cases route with
  | signUp | signIn | isAdmin | addFamily | deleteFamily | deleteUser =>
    exact run_withBody_guarded fun form => run_perform_guarded _ fun _ => rfl
  | updateUserInfo | changePassword =>
    exact run_withCaller_guarded fun claims => run_withBody_guarded fun form => run_perform_guarded _ fun _ => rfl
  | getUserInfoById => exact run_withBody_guarded run_getProfile_guarded
  | getUserInfo =>
    refine run_withCaller_guarded fun claims => ?_
    rw [ownProfileAction, perform_ofExcept_bind]
    cases claims.accountId with
    | ok id => exact run_getProfile_guarded id
    | error fault => exact guarded_faultAnswer fault
  | health => exact guarded_of_lt (show 200 < 500 by decide)

/-! ## Requests -/

lemma status_answered {now : Moment} {method target : String} {headers : Http.Headers}
    (h : passage app now method target headers = .answered response) : response.status < 500 := by
  unfold passage at h
  dsimp only at h
  split at h
  · cases h
    simp
  · split at h
    · next fault hfault =>
      cases h
      unfold admission at hfault
      split at hfault
      · have hstatus := (Access.authorize_eq_error hfault).2
        show fault.status < 500
        omega
      · cases hfault
    · split at h
      · split at h <;> cases h
        simp [answer]
      · cases h
        simp [answer]

/-- **Whatever answers the calls of a request,** trouble is answered by the one answer that tells nothing of the cause,
or by what cannot be written of the moment of registration of an account that was found. -/
theorem run_respond_guarded (app : Application) (occasion : Occasion) (request : Request) :
    Guarded handler s ((respond app occasion request).run handler s).1 := by
  rw [respond_eq_passage]
  cases hp : passage app occasion.now request.method request.target request.headers with
  | answered response => exact guarded_of_lt (status_answered hp)
  | handled route verified =>
    dsimp only
    rw [Program.run_bind, Program.run_pure]
    intro htrouble
    -- both answers name no methods, as any answer of a handler
    rcases run_handle_guarded app occasion verified request route htrouble with h | ⟨id, a, unwritable, ha, hm, h⟩
    · rw [h]
      exact .inl rfl
    · rw [h]
      exact .inr ⟨id, a, unwritable, ha, hm, rfl⟩

end Guarded

end Api

/-! ## Stores whose moments can be written -/

def Moment.IsWritable (m : Moment) : Prop := ∃ text, m.toRfc3339 = .ok text

namespace Store

variable {s : Store} {c : Call}

def Writable (s : Store) : Prop := ∀ entry ∈ s.accounts, entry.2.registeredAt.IsWritable

/-- An account that a call creates has a moment that can be written. -/
def Call.WritesWritable : Call → Prop
  | .create n => n.registeredAt.IsWritable
  | _ => True

lemma writable_empty : empty.Writable := by
  rintro entry ⟨⟩

/-- **A call that creates no account without a text for its moment** keeps all moments writable. -/
theorem Writable.serve (h : s.Writable) (hc : c.WritesWritable) : (s.serve c).2.Writable := by
  refine forall_mem_serve (P := fun a => a.registeredAt.IsWritable) h ?_ fun id a b hr ha => ?_
  · rintro n id rfl
    exact hc
  · rw [hr.registeredAt]
    exact ha

lemma Writable.serveAll (h : s.Writable) {calls : List Call} (hcalls : ∀ c ∈ calls, c.WritesWritable) :
    (s.serveAll calls).Writable := by
  induction calls generalizing s with
  | nil => exact h
  | cons c calls ih =>
    exact ih (h.serve (hcalls c List.mem_cons_self)) fun d hd => hcalls d (List.mem_cons_of_mem c hd)

lemma Writable.not_tellsMoment (h : s.Writable) {ρ : Type} (client : Relations.Client ρ) (r : ρ) (response : Response) :
    ¬ Api.TellsMoment (inMemory client) (s, r) response := by
  rintro ⟨id, a, unwritable, ha, hmoment, -⟩
  obtain ⟨text, htext⟩ := h (id, a) (mem_of_account? (Except.ok.inj ha))
  rw [htext] at hmoment
  cases hmoment

end Store

/-! ## Trouble has one answer -/

namespace Api

variable {app : Application} {occasion : Occasion} {request : Request}

/-- **Over accounts whose moments can be written,** trouble has one answer. -/
theorem eq_troubleAnswer_of_writable {ρ : Type} {client : Relations.Client ρ} {s : Store} (hs : s.Writable) {r : ρ}
    (htrouble : 500 ≤ ((respond app occasion request).run (inMemory client) (s, r)).1.status) :
    ((respond app occasion request).run (inMemory client) (s, r)).1 = troubleAnswer :=
  (run_respond_guarded app occasion request htrouble).resolve_right (hs.not_tellsMoment client r _)

/-- **Trouble tells nothing of its cause,** be it in the accounts, in the hash of a password, in the relationship
service or in reaching the store. Over any accounts and any relationship service, an answer with a status of 500 or more
is the one answer to trouble, or tells what cannot be written of the moment of registration of some account. It is the
one answer if all these moments can be written, so that two such runs of a request that end in trouble cannot be told
apart, and it is the one answer if the store is out of reach. -/
theorem trouble_tells_nothing {ρ : Type} (app : Application) (occasion : Occasion) (request : Request) :
    let answered (s : Store) (client : Relations.Client ρ) (r : ρ) : Response :=
      ((respond app occasion request).run (inMemory client) (s, r)).1
    let unanswered (client : Relations.Client ρ) (r : ρ) : Response :=
      ((respond app occasion request).run (withoutStore client) r).1
    (∀ s client r, 500 ≤ (answered s client r).status → answered s client r = troubleAnswer ∨
      ∃ id a unwritable, s.account? id = some a ∧ a.registeredAt.toRfc3339 = .error unwritable ∧
        answered s client r = answer 500 (.text unwritable.message)) ∧
    (∀ s client r, s.Writable → 500 ≤ (answered s client r).status → answered s client r = troubleAnswer ∧
      ∀ s' client' r', s'.Writable → 500 ≤ (answered s' client' r').status →
        answered s' client' r' = answered s client r) ∧
    ∀ client r, 500 ≤ (unanswered client r).status → unanswered client r = troubleAnswer := by
  intro answered unanswered
  refine ⟨fun s client r htrouble => ?_, fun s client r hs htrouble => ?_, fun client r htrouble => ?_⟩
  · refine (run_respond_guarded app occasion request htrouble).imp_right ?_
    rintro ⟨id, a, unwritable, ha, hmoment, h⟩
    exact ⟨id, a, unwritable, Except.ok.inj ha, hmoment, h⟩
  · have hanswer := eq_troubleAnswer_of_writable hs htrouble
    exact ⟨hanswer, fun s' client' r' hs' htrouble' => (eq_troubleAnswer_of_writable hs' htrouble').trans hanswer.symm⟩
  · refine (run_respond_guarded app occasion request htrouble).resolve_right ?_
    rintro ⟨id, a, unwritable, ha, -⟩
    cases ha

/-- Somebody signs in to an account whose hash of a password is none, so that signing in cannot be decided. -/
theorem trouble_tells_no_hash :
    let stretching : Password.Stretching := ⟨fun p _ _ => some (List.replicate p.tagLength 0), by simp⟩
    let app : Application := ⟨⟨utf8 "secret", 60⟩, .standard, ⟨"", stretching⟩⟩
    let occasion : Occasion := ⟨Moment.utc 0, Vector.replicate 16 0⟩
    let s := Store.empty.serveAll [.create ⟨⟨"a@x.com", "1", "a", "b"⟩, "h", Moment.utc 0⟩]
    let request : Request := ⟨"POST", "/Auth/SignIn", [("content-type", utf8 "application/json")],
      utf8 "\x7b\"email\":\"a@x.com\",\"password\":\"p\"\x7d"⟩
    let answered := ((respond app occasion request).run (inMemory Startup.noClient) (s, ())).1
    s.Writable ∧ 500 ≤ answered.status ∧ answered = troubleAnswer := by
  intro stretching app occasion s request answered
  have hs : s.Writable := by
    refine Store.writable_empty.serveAll fun c hc => ?_
    cases List.mem_singleton.1 hc
    exact ⟨"1970-01-01T00:00:00Z", by decide +kernel⟩
  have htrouble : 500 ≤ answered.status := by decide +kernel
  exact ⟨hs, htrouble, ((trouble_tells_nothing app occasion request).2.1 s Startup.noClient () hs htrouble).1⟩

/-- An account was registered at a moment whose offset has a second, and its owner asks for the profile: the answer
tells so. -/
theorem trouble_tells_offset :
    ¬ ∀ (ρ : Type) (client : Relations.Client ρ) (r : ρ) (calls : List Store.Call) (app : Application)
      (occasion : Occasion) (request : Request),
      let answered := ((respond app occasion request).run (inMemory client) (Store.empty.serveAll calls, r)).1
      500 ≤ answered.status → answered.content = .text "internal error" := by
  intro h
  let calls : List Store.Call := [.create ⟨⟨"a@x.com", "1", "a", "b"⟩, "h", ⟨0, 0, 1, by decide⟩⟩]
  -- the token is one for the account 1, issued with the secret of the application
  obtain ⟨app, occasion, request, hanswered⟩ : ∃ app occasion request,
      let s := Store.empty.serveAll calls
      let answered := ((respond app occasion request).run (inMemory Startup.noClient) (s, ())).1
      answered.status = 500 ∧ answered.content = .text Moment.Unwritable.offsetSecond.message := by
    let stretching : Password.Stretching := ⟨fun p _ _ => some (List.replicate p.tagLength 0), by simp⟩
    let token := "eyJ0eXAiOiJKV1QiLCJhbGciOiJIUzM4NCJ9." ++
      "eyJzdWIiOiIxIiwiZW1haWwiOiJhQHguY29tIiwicm9sZSI6InVzZXIiLCJleHAiOjYwfQ." ++
      "lgJ0yTCQ23A-MXoYusE2tJEdC0cvnFM71fDQH-5q2LXF5M9GfyrPIolizCXlgM6e"
    refine ⟨⟨⟨utf8 "secret", 60⟩, .standard, ⟨"", stretching⟩⟩, ⟨Moment.utc 0, Vector.replicate 16 0⟩,
      ⟨"POST", "/UserInfo/GetUserInfo", [("authorization", utf8 ("Bearer " ++ token))], []⟩, ?_⟩
    decide +kernel
  have hcontent := h Unit Startup.noClient () calls app occasion request (by rw [hanswered.1])
  rw [hanswered.2] at hcontent
  exact absurd hcontent (by decide)

end Api

end Gatehouse
