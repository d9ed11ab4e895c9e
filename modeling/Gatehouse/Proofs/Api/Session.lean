import Gatehouse.Proofs.Api.Errand
import Gatehouse.Proofs.Json.Reader
import Gatehouse.Proofs.Service.Identity

/-!
# Runs of requests and operations

* `Step`, `Deed` — a step of a run, a request or an operation that is called directly, and what happened in it;
* `Session`, `Session.run` — all steps one after another on the empty store, with the history of what happened;
* `Session.run_induction` — what holds at the start and is kept by every step holds behind every run;
* `Session.serve`, `Session.serve_induction` — a run of requests only, and the same for it;
* `Deed.Gives`, `exists_account_of_gives` — a token that a step gives was issued to an account of the store.
-/

namespace Gatehouse

open Http (Request Response)

/-- A step of a run: a request to the router, or an operation that is called directly. -/
inductive Step
  | request (occasion : Occasion) (request : Request)
  | operation (o : Operation)

/-- What happened in a step: the request or the operation, the store that it found, and how it ended. -/
inductive Deed
  | request (occasion : Occasion) (request : Request) (before : Store) (response : Response)
  | operation (e : Event)

def Deed.before : Deed → Store
  | request _ _ before _ => before
  | operation e => e.before

/-- The state of a run: the store, the state of the relationship service, and what happened, the latest deed first. -/
structure Session (ρ : Type) where
  store : Store
  peer : ρ
  history : List Deed

namespace Session

open Api (Application respond)

variable {ρ : Type} (app : Application) (client : Relations.Client ρ)

def start (peer : ρ) : Session ρ := ⟨.empty, peer, []⟩

def deed (t : Session ρ) : Step → Deed
  | .request occasion request =>
    .request occasion request t.store
      ((respond app occasion request).run (Program.inMemory client) (t.store, t.peer)).1
  | .operation o =>
    .operation ⟨o, t.store,
      ((o.action app.scheme app.authority).runWith (Program.inMemory client) (t.store, t.peer)).1⟩

def effect (t : Session ρ) : Step → Store × ρ
  | .request occasion request =>
    ((respond app occasion request).run (Program.inMemory client) (t.store, t.peer)).2
  | .operation o =>
    ((o.action app.scheme app.authority).runWith (Program.inMemory client) (t.store, t.peer)).2

def perform (t : Session ρ) (step : Step) : Session ρ :=
  ⟨(t.effect app client step).1, (t.effect app client step).2, t.deed app client step :: t.history⟩

/-- The run of steps one after another on the empty store. -/
def run (peer : ρ) (steps : List Step) : Session ρ := steps.foldl (perform app client) (start peer)

variable {app client}

/-- **What holds at the start and is kept by every step holds behind every run.** -/
theorem run_induction {I : Session ρ → Prop} {peer : ρ} (hstart : I (start peer))
    (hstep : ∀ t step, I t → I (t.perform app client step)) (steps : List Step) : I (run app client peer steps) := by
  have hfold : ∀ t, I t → I (steps.foldl (perform app client) t) := by
    induction steps with
    | nil => exact fun _ ht => ht
    | cons step steps ih => exact fun t ht => ih _ (hstep t step ht)
  exact hfold _ hstart

/-- The run of requests one after another on the empty store. -/
def serve (app : Application) (client : Relations.Client ρ) (peer : ρ) (requests : List (Occasion × Request)) :
    Session ρ :=
  run app client peer (requests.map fun q => .request q.1 q.2)

theorem serve_induction {I : Session ρ → Prop} {peer : ρ} {requests : List (Occasion × Request)}
    (hstart : I (start peer))
    (hstep : ∀ q ∈ requests, ∀ t, I t → I (t.perform app client (.request q.1 q.2))) :
    I (serve app client peer requests) := by
  have hfold : ∀ t, I t → I ((requests.map fun q => Step.request q.1 q.2).foldl (perform app client) t) := by
    induction requests with
    | nil => exact fun _ ht => ht
    | cons q requests ih =>
      exact fun t ht => ih (fun r hr => hstep r (List.mem_cons_of_mem q hr)) _ (hstep q List.mem_cons_self t ht)
  exact hfold _ hstart

lemma perform_wellFormed {t : Session ρ} (h : t.store.WellFormed) (step : Step) :
    (t.perform app client step).store.WellFormed := by
  cases step with
  | request occasion request => exact Program.run_wellFormed _ client h t.peer
  | operation o => exact Program.run_wellFormed _ client h t.peer

lemma deed_operation_eq {t : Session ρ} {o : Operation} {outcome : Except Fault o.Answer} {w : Store × ρ}
    (h : (o.action app.scheme app.authority).runWith (Program.inMemory client) (t.store, t.peer) = (outcome, w)) :
    t.deed app client (.operation o) = .operation ⟨o, t.store, outcome⟩ := by
  simp only [deed, h]

lemma effect_operation_eq {t : Session ρ} {o : Operation} {outcome : Except Fault o.Answer} {w : Store × ρ}
    (h : (o.action app.scheme app.authority).runWith (Program.inMemory client) (t.store, t.peer) = (outcome, w)) :
    t.effect app client (.operation o) = w := by
  simp only [effect, h]

/-- **What a request does,** an operation that it asks for does, or it does nothing. -/
theorem effect_request_cases (t : Session ρ) (occasion : Occasion) (request : Request) :
    t.effect app client (.request occasion request) = (t.store, t.peer) ∨
      ∃ route verified o, Api.Asks app occasion verified request route o ∧
        t.effect app client (.request occasion request) = t.effect app client (.operation o) := by
  simp only [effect]
  rcases Api.respond_cases app occasion request with ⟨response, h, -⟩ | ⟨route, verified, o, -, hasks, h⟩
  · exact .inl (by rw [h]; rfl)
  · exact .inr ⟨route, verified, o, hasks, by rw [h, Api.run_perform]⟩

end Session

/-! ## Tokens that are given -/

namespace Deed

/-- A deed gives a token to somebody: by an operation that signs in, or in the answer to a request to sign in. -/
def Gives (token : String) : Deed → Prop
  | .operation ⟨.signIn .., _, .ok given⟩ => given = token
  | .request _ r _ response => Api.Route.ofPath? (Api.pathOf r.target) = some .signIn ∧
      response = Api.jsonAnswer [("token", Json.writeString token)]
  | _ => False

end Deed

namespace Session

open Api (Application)

variable {ρ : Type} {app : Application} {client : Relations.Client ρ} {t : Session ρ}

lemma eq_of_tokenAnswer_eq {given token : String}
    (h : Api.jsonAnswer [("token", Json.writeString given)] = Api.jsonAnswer [("token", Json.writeString token)]) :
    given = token := by
  have htext : Json.writeObject [("token", Json.writeString given)] =
      Json.writeObject [("token", Json.writeString token)] := by
    simpa [Api.jsonAnswer, Api.answer, String.ofList_inj] using h
  simp only [Json.writeObject, List.map_cons, List.map_nil, Json.commaSeparated, Json.writeMember, List.cons.injEq,
    true_and, List.append_cancel_left_eq, List.append_cancel_right_eq] at htext
  exact Json.Reader.writeString_injective htext

lemma exists_account_of_signIn (h : t.store.WellFormed) {now : Moment} {email password token : String}
    (hok : ((Service.signIn app.scheme app.authority now email password).runWith (Program.inMemory client)
      (t.store, t.peer)).1 = .ok token) :
    ∃ a, t.store.account? a.id = some a ∧ app.authority.issue now a = .ok token := by
  obtain ⟨result, hrun, hresult⟩ :=
    @Service.signIn_run ρ client app.scheme app.authority now email password t.store t.peer
  rw [hrun] at hok
  obtain ⟨a, ha, -, hissue⟩ := (hresult token).1 hok
  exact ⟨a, (h.holder?_eq_some_iff.1 ha).1, hissue⟩

/-- **A token that a step gives was issued** to an account of the store. -/
theorem exists_account_of_gives (h : t.store.WellFormed) {step : Step} {token : String}
    (hg : (t.deed app client step).Gives token) :
    ∃ now a, t.store.account? a.id = some a ∧ app.authority.issue now a = .ok token := by
  cases step with
  | operation o =>
    cases o with
    | signIn now email password =>
      rcases hrun : (Service.signIn app.scheme app.authority now email password).runWith (Program.inMemory client)
        (t.store, t.peer) with ⟨fault | given, w⟩
      · rw [deed_operation_eq hrun] at hg
        exact hg.elim
      · rw [deed_operation_eq hrun] at hg
        cases hg
        exact ⟨now, exists_account_of_signIn h (congrArg Prod.fst hrun)⟩
    | _ => exact hg.elim
  | request occasion request =>
    -- no answer that is given at once is JSON, so that an operation was performed, on the route of signing in
    obtain ⟨hpath, hresponse⟩ := hg
    rcases Api.respond_cases app occasion request with ⟨response, hr, hcontent⟩ | ⟨route, verified, o, hp, hasks, hr⟩
    · rw [hr] at hresponse
      exact absurd (congrArg Response.content hresponse) (hcontent _)
    · have hroute : route = .signIn := Option.some.inj ((Api.ofPath?_of_handled hp).symm.trans hpath)
      subst hroute
      cases hasks with
      | @signIn form f hb hc =>
        rw [hr, Api.run_perform] at hresponse
        rcases hrun : (Service.signIn app.scheme app.authority occasion.now f.email f.password).runWith
          (Program.inMemory client) (t.store, t.peer) with ⟨fault | given, w⟩
        · simp only [Operation.action, hrun] at hresponse
          exact absurd (congrArg Response.content hresponse) (by simp [Api.faultAnswer, Api.jsonAnswer, Api.answer])
        · simp only [Operation.action, hrun] at hresponse
          cases eq_of_tokenAnswer_eq hresponse
          exact ⟨occasion.now, exists_account_of_signIn h (congrArg Prod.fst hrun)⟩

end Session

end Gatehouse
