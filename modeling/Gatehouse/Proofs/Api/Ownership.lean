import Gatehouse.Proofs.Api.Session
import Gatehouse.Proofs.Program.Locality
import Gatehouse.Proofs.Store.Frame
import Gatehouse.Proofs.Token.RoundTrip

/-!
# A token acts on one account

* `Operation.IsOwn` — the operations that callers may ask for on their own accounts, which name that account only;
* `own_admission` — the access layer hands on the claims of the token that is presented;
* `respond_own_cases` — behind it a request is refused at once, or performs one operation on the account that the
  claims name;
* `token_acts_on_one_account` — so that a token that was given in a run acts on the account that it was issued to, and
  on no other one that comes later.
-/

namespace Gatehouse

open Http (Request Response)
open Token.Authority (claimsFor)

/-! ## Operations on an own account -/

namespace Operation

variable {o : Operation} {n : Int}

/-- An operation that a caller may ask for on the own account, whose id is `n`. -/
def IsOwn (n : Int) : Operation → Prop
  | getProfile id | updateProfile id _ | changePassword _ id _ _ => id = n
  | _ => False

lemma May.names {c : Call} (hc : o.May c) (ho : o.IsOwn n) : c.Names n := by
  cases o with
  | getProfile id | updateProfile id patch | changePassword salt id old new =>
    cases ho
    cases c with
    | relations c => exact hc.elim
    | store c =>
      cases c with
      | findById | setProfile | setPasswordHash => first | exact hc | exact hc.elim
      | _ => exact hc.elim
  | _ => exact ho.elim

lemma IsOwn.run_of_none {ρ : Type} (ho : o.IsOwn n) {s : Store} (hn : s.account? n = none) (scheme : Password.Scheme)
    (authority : Token.Authority) (client : Relations.Client ρ) (r : ρ) :
    (o.action scheme authority).runWith (Program.inMemory client) (s, r) = (.error .accountNotFound, (s, r)) := by
  cases o with
  | getProfile id | updateProfile id patch | changePassword salt id old new =>
    cases ho
    exact Action.runWith_bind_error (Action.runWith_account_of_none hn r) _
  | _ => exact ho.elim

end Operation

/-! ## Requests -/

namespace Api

variable {app : Application} {occasion : Occasion} {request : Request} {route : Route} {claims : Token.Claims}

/-- A route on which callers act on their own accounts. -/
def Route.IsOwn : Route → Prop
  | getUserInfo | updateUserInfo | changePassword => True
  | _ => False

/-- The access layer lets a request for an own account through exactly if it verifies the token that is presented, and
hands on its claims. -/
lemma own_admission {token : String} (hpolicy : app.policy = .standard)
    (hr : Route.ofPath? (pathOf request.target) = some route) (hown : route.IsOwn)
    (hp : Presents request.headers token) :
    admission app occasion.now (pathOf request.target) request.headers =
      (app.authority.verify occasion.now token).map some := by
  have hallowed : ∃ operation, route.operation? = some operation ∧
      Access.Policy.standard.allowed? operation = some [.user, .admin] := by
    cases route with
    | getUserInfo | updateUserInfo | changePassword => exact ⟨_, rfl, rfl⟩
    | _ => exact hown.elim
  obtain ⟨operation, ho, hroles⟩ := hallowed
  unfold admission
  rw [operationOf?_eq_of_ofPath? hr, ho]
  dsimp only
  rw [hpolicy, Access.authorize_of_allowed? hroles, Token.claimsOfHeaders_of_presents hp]
  cases app.authority.verify occasion.now token with
  | error fault => rfl
  | ok claims =>
    -- there is no role that may not act on an own account
    have hrole : claims.role ∈ [Role.user, Role.admin] := by cases claims.role <;> simp
    simp [hrole, Except.map]

/-! ### Refusals -/

/-- A program that refuses a request at once, by a status that blames the request. -/
def RefusesAtOnce (p : Program Response) : Prop :=
  ∃ response : Response, p = pure response ∧ 400 ≤ response.status ∧ response.status < 500

lemma refusesAtOnce_refusal (refusal : BodyRefusal) : RefusesAtOnce (pure (refusalAnswer refusal)) :=
  ⟨_, rfl, by cases refusal <;> decide⟩

/-- A check that can only find fault with what the request says. -/
def IsCheck {α : Type} (r : Except Fault α) : Prop := ∀ fault, r = .error fault → ∃ text, fault = .validation text

section Checks

variable {α β : Type}

lemma isCheck_ok (a : α) : IsCheck (.ok a : Except Fault α) := by
  intro fault h
  cases h

lemma isCheck_validation (text : String) : IsCheck (.error (.validation text) : Except Fault α) := by
  intro fault h
  cases h
  exact ⟨text, rfl⟩

lemma IsCheck.bind {r : Except Fault α} (hr : IsCheck r) {f : α → Except Fault β} (hf : ∀ a, IsCheck (f a)) :
    IsCheck (r >>= f) := by
  intro fault h
  cases r with
  | ok a => exact hf a fault h
  | error _ =>
    cases h
    exact hr fault rfl

lemma isCheck_checkEmail (email : String) : IsCheck (checkEmail email) := by
  unfold checkEmail
  split
  · exact isCheck_ok ()
  · exact isCheck_validation _

lemma isCheck_checkPatch (patch : Profile) : IsCheck (checkPatch patch) := by
  unfold checkPatch
  dsimp only
  split
  · exact (isCheck_checkEmail _).bind fun _ => isCheck_ok _
  · exact isCheck_ok _

lemma isCheck_checkPasswordForm (form : PasswordForm) : IsCheck (checkPasswordForm form) := by
  have hrequired : IsCheck (required form.new "new password") := by
    unfold required
    split
    · exact isCheck_validation _
    · exact isCheck_ok ()
  have hlength : IsCheck (Password.checkLength form.new) := by
    unfold Password.checkLength
    split
    · exact isCheck_validation _
    · exact isCheck_ok ()
  exact hrequired.bind fun _ => hlength.bind fun _ => isCheck_ok form

end Checks

lemma accountId_eq_error {fault : Fault} (h : claims.accountId = .error fault) : fault = .tokenClaims := by
  unfold Token.Claims.accountId at h
  split at h <;> cases h
  rfl

lemma makes_perform {α : Type} {P : Call → Prop} {action : Action α} (h : action.Makes P) (write : α → Response) :
    (perform action write).Makes P :=
  Program.Makes.bind h fun result => by cases result <;> trivial

/-! ### Behind the access layer -/

lemma perform_own_cases {α : Type} (claims : Token.Claims) (f : Int → Action α) (write : α → Response) :
    RefusesAtOnce (perform (Action.ofExcept claims.accountId >>= f) write) ∨
      ∃ id, claims.accountId = .ok id ∧
        perform (Action.ofExcept claims.accountId >>= f) write = perform (f id) write := by
  rw [perform_ofExcept_bind]
  cases hid : claims.accountId with
  | ok id => exact .inr ⟨id, rfl, rfl⟩
  | error fault =>
    cases accountId_eq_error hid
    exact .inl ⟨_, rfl, by decide⟩

lemma withBody_own_cases {α β γ : Type} (claims : Token.Claims) (request : Request) (value : Json.Reader α)
    {check : α → Except Fault β} (hcheck : ∀ form, IsCheck (check form)) (f : β → Int → Action γ)
    (write : γ → Response) :
    let p := withBody value request fun form =>
      perform (Action.ofExcept (check form) >>= fun a => Action.ofExcept claims.accountId >>= f a) write
    RefusesAtOnce p ∨ ∃ a id, claims.accountId = .ok id ∧ p = perform (f a id) write := by
  intro p
  simp only [p, withBody]
  cases readBody value request with
  | error refusal => exact .inl (refusesAtOnce_refusal refusal)
  | ok form =>
    dsimp only
    rw [perform_ofExcept_bind]
    cases hc : check form with
    | error fault =>
      obtain ⟨text, rfl⟩ := hcheck form fault hc
      exact .inl ⟨_, rfl, by simp [faultAnswer, answer, Fault.status]⟩
    | ok a =>
      refine (perform_own_cases claims (f a) write).imp_right ?_
      rintro ⟨id, hid, h⟩
      exact ⟨a, id, hid, h⟩

/-- The handler of a route for own accounts refuses at once, or performs an operation on the account that the verified
claims name. -/
lemma handle_own_cases (app : Application) (occasion : Occasion) (claims : Token.Claims) (request : Request)
    (hown : route.IsOwn) :
    RefusesAtOnce (handle app occasion (some claims) request route) ∨
      ∃ id o, claims.accountId = .ok id ∧ Operation.IsOwn id o ∧
        handle app occasion (some claims) request route = perform (o.action app.scheme app.authority) o.write := by
  cases route with
  | getUserInfo =>
    refine (perform_own_cases claims Service.getProfile profileAnswer).imp_right ?_
    rintro ⟨id, hid, h⟩
    exact ⟨id, .getProfile id, hid, rfl, h⟩
  | updateUserInfo =>
    refine (withBody_own_cases claims request readPatch isCheck_checkPatch
      (fun patch id => Service.updateProfile id patch) doneAnswer).imp_right ?_
    rintro ⟨patch, id, hid, h⟩
    exact ⟨id, .updateProfile id patch, hid, rfl, h⟩
  | changePassword =>
    refine (withBody_own_cases claims request readPasswordForm isCheck_checkPasswordForm
      (fun form id => Service.changePassword app.scheme occasion.salt id form.old form.new) doneAnswer).imp_right ?_
    rintro ⟨form, id, hid, h⟩
    exact ⟨id, .changePassword occasion.salt id form.old form.new, hid, rfl, h⟩
  | _ => exact hown.elim

section Respond

variable {a : Account} {expiry : Nat} (hm : request.method ≠ "OPTIONS")
  (hr : Route.ofPath? (pathOf request.target) = some route) (hown : route.IsOwn)
  (h : admission app occasion.now (pathOf request.target) request.headers = .ok (some (claimsFor a expiry)))
include hm hr hown h

/-- **Behind the access layer** a request for an own account is refused at once, or performs one operation on the
account that the verified claims were made for. -/
theorem respond_own_cases :
    RefusesAtOnce (respond app occasion request) ∨
      ∃ o : Operation, o.IsOwn a.id ∧
        respond app occasion request = perform (o.action app.scheme app.authority) o.write := by
  unfold respond
  simp only [hm, if_false, h, hr, dispatch]
  by_cases hmethod : route.methods.contains request.method = true
  · simp only [hmethod, if_true, allowFor]
    rcases handle_own_cases app occasion (claimsFor a expiry) request hown with
      ⟨response, hp, hstatus⟩ | ⟨id, o, hid, ho, hp⟩
    · rw [hp]
      exact .inl ⟨_, rfl, hstatus⟩
    · cases Token.eq_of_accountId_claimsFor hid
      rw [hp, perform_write]
      exact .inr ⟨o, ho, rfl⟩
  · simp only [hmethod]
    exact .inl ⟨_, rfl, by simp [answer]⟩

theorem respond_own_makes : (respond app occasion request).Makes (Call.Names a.id) := by
  rcases respond_own_cases hm hr hown h with ⟨response, hp, -⟩ | ⟨o, ho, hp⟩
  · rw [hp]
    trivial
  · rw [hp]
    exact makes_perform (o.makes.mono fun _ hc => hc.names ho) o.write

/-- When that account is gone, nothing changes, and the answer is that it was not found, or an earlier refusal. -/
theorem respond_own_of_none {ρ : Type} (client : Relations.Client ρ) {s : Store} (r : ρ)
    (hgone : s.account? a.id = none) :
    let p := respond app occasion request
    let run := p.run (Program.inMemory client) (s, r)
    run.2 = (s, r) ∧
      (run.1 = faultAnswer .accountNotFound ∨ p = pure run.1 ∧ 400 ≤ run.1.status ∧ run.1.status < 500) := by
  intro p run
  rcases respond_own_cases hm hr hown h with ⟨response, hp, hstatus⟩ | ⟨o, ho, hp⟩
  · have hrun : run = (response, (s, r)) := by
      simp only [run, p, hp, Program.run_pure]
    rw [hrun]
    exact ⟨rfl, .inr ⟨hp, hstatus⟩⟩
  · have hrun : run = (faultAnswer .accountNotFound, (s, r)) := by
      simp only [run, p, hp, run_perform, ho.run_of_none hgone]
    rw [hrun]
    exact ⟨rfl, .inl rfl⟩

end Respond

end Api

/-! ## Runs -/

namespace Session

variable {ρ : Type} {app : Api.Application} {client : Relations.Client ρ}

lemma wellFormed_run (peer : ρ) (steps : List Step) : (run app client peer steps).store.WellFormed :=
  run_induction (I := fun t => t.store.WellFormed) Store.wellFormed_empty
    (fun _ step h => perform_wellFormed h step) steps

lemma keepsIds_perform (t : Session ρ) (step : Step) : t.store.KeepsIds (t.perform app client step).store := by
  cases step with
  | request occasion request => exact Program.run_keepsIds _ client t.store t.peer
  | operation o => exact Program.run_keepsIds _ client t.store t.peer

lemma keepsIds_run_append (peer : ρ) (steps more : List Step) :
    (run app client peer steps).store.KeepsIds (run app client peer (steps ++ more)).store := by
  have hfold : ∀ t : Session ρ, t.store.KeepsIds (more.foldl (perform app client) t).store := by
    induction more with
    | nil => exact fun t => .refl _
    | cons step more ih => exact fun t => (keepsIds_perform t step).trans (ih _)
  unfold run
  rw [List.foldl_append]
  exact hfold _

end Session

/-- **A token acts on one account for ever.** Let a step of a run give a token. The token was issued to an account `a`
of that moment, and whatever the run goes on with: once `a` is gone, no account has its id. Whenever a request for an
own account, other than a preflight, then passes the access layer with the token, it acts on the claims of `a`, which
the access layer has verified and which its headers give as well. It makes no call but on the account of that id, so
that all others, the ids given out and the relationship service are left alone, and it answers and leaves that account
as it would in any store with the same record of it in which others hold the same email addresses. If the account is
gone, nothing changes, and the answer is that it was not found, or an earlier refusal. -/
theorem token_acts_on_one_account {ρ : Type} (authority : Token.Authority) (scheme : Password.Scheme)
    (client : Relations.Client ρ) (peer : ρ) (before : List Step) (step : Step) (token : String)
    (hg : ((Session.run ⟨authority, .standard, scheme⟩ client peer before).deed ⟨authority, .standard, scheme⟩ client
      step).Gives token) :
    let app : Api.Application := ⟨authority, .standard, scheme⟩
    ∃ now a expiry, (Session.run app client peer before).store.account? a.id = some a ∧
      authority.issue now a = .ok token ∧ Token.expiry? now authority.lifetime = some expiry ∧
      ∀ later,
        let t := Session.run app client peer (before ++ step :: later)
        (∀ more, t.store.account? a.id = none →
          (Session.run app client peer (before ++ step :: later ++ more)).store.account? a.id = none) ∧
        ∀ occasion request route verified, request.method ≠ "OPTIONS" →
          Api.Route.ofPath? (Api.pathOf request.target) = some route → route.IsOwn →
          Api.admission app occasion.now (Api.pathOf request.target) request.headers = .ok verified →
          Presents request.headers token →
          let p := Api.respond app occasion request
          let run := p.run (Program.inMemory client) (t.store, t.peer)
          (verified = some (claimsFor a expiry) ∧
            Api.callerClaims authority occasion.now verified request.headers = .ok (claimsFor a expiry) ∧
            authority.claimsOfHeaders occasion.now request.headers = .ok (claimsFor a expiry)) ∧
          (p.Makes (Call.Names a.id) ∧ t.store.KeepsOthers a.id run.2.1 ∧ run.2.2 = t.peer) ∧
          (∀ u : Store, u.WellFormed → t.store.AgreeOn a.id u →
            let run' := p.run (Program.inMemory client) (u, t.peer)
            run'.1 = run.1 ∧ run'.2.1.account? a.id = run.2.1.account? a.id) ∧
          (t.store.account? a.id = none → run.2 = (t.store, t.peer) ∧
            (run.1 = Api.faultAnswer .accountNotFound ∨ p = pure run.1 ∧ 400 ≤ run.1.status ∧ run.1.status < 500)) := by
  intro app
  have hwf : (Session.run app client peer before).store.WellFormed := Session.wellFormed_run peer before
  obtain ⟨now, a, ha, hissue⟩ := Session.exists_account_of_gives hwf hg
  obtain ⟨expiry, hexpiry, hverify⟩ := Token.verify_issue hissue
  refine ⟨now, a, expiry, ha, hissue, hexpiry, fun later => ?_⟩
  intro t
  constructor
  · intro more hgone
    have hid : a.id ≤ (t.store.lastId : Int) :=
      Int.le_trans (hwf.id_le _ (Store.mem_of_account? ha))
        (Int.ofNat_le.2 (Session.keepsIds_run_append peer before _).1)
    exact (Session.keepsIds_run_append peer _ more).2 a.id hid hgone
  · intro occasion request route verified hm hr hown hadm hp p run
    have ht : t.store.WellFormed := Session.wellFormed_run peer _
    obtain ⟨hv, rfl⟩ : authority.verify occasion.now token = .ok (claimsFor a expiry) ∧
        verified = some (claimsFor a expiry) := by
      rw [Api.own_admission rfl hr hown hp, show app.authority = authority from rfl, hverify occasion.now] at hadm
      rw [hverify occasion.now]
      split at hadm
      · cases hadm
      · next hvalid =>
        rw [if_neg hvalid]
        exact ⟨rfl, (Except.ok.inj hadm).symm⟩
    have hmakes : p.Makes (Call.Names a.id) := Api.respond_own_makes hm hr hown hadm
    refine ⟨⟨rfl, rfl, ?_⟩, ⟨hmakes, ?_, ?_⟩, fun u hu hagree => ?_,
      Api.respond_own_of_none hm hr hown hadm client t.peer⟩
    · rw [Token.claimsOfHeaders_of_presents hp]
      exact hv
    · exact Program.run_keepsOthers client hmakes t.store t.peer
    · exact Program.run_peer client hmakes t.store t.peer
    · obtain ⟨hanswer, hafter⟩ := Program.run_agree client hmakes ht hu hagree t.peer
      exact ⟨hanswer.symm, hafter.account.symm⟩

/-- The holder of a token is deleted and signs up again under the same email address. The token names the account that
is gone, and not the new one: a request with it changes nothing. -/
theorem token_of_deleted_account :
    let authority : Token.Authority := ⟨utf8 "secret", 60⟩
    let stretching : Password.Stretching := ⟨fun p _ _ => some (List.replicate p.tagLength 0), by simp⟩
    let scheme : Password.Scheme := ⟨"", stretching⟩
    let app : Api.Application := ⟨authority, .standard, scheme⟩
    let occasion : Occasion := ⟨Moment.utc 0, Vector.replicate 16 0⟩
    let signUp : Step := .operation (.signUp occasion ⟨⟨"a@x.com", "1", "a", "b"⟩, "p"⟩)
    let signIn : Step := .operation (.signIn occasion.now "a@x.com" "p")
    let delete : Step := .operation (.deleteRecord 1)
    let token := "eyJ0eXAiOiJKV1QiLCJhbGciOiJIUzM4NCJ9." ++
      "eyJzdWIiOiIxIiwiZW1haWwiOiJhQHguY29tIiwicm9sZSI6InVzZXIiLCJleHAiOjYwfQ." ++
      "lgJ0yTCQ23A-MXoYusE2tJEdC0cvnFM71fDQH-5q2LXF5M9GfyrPIolizCXlgM6e"
    let request : Request := ⟨"POST", "/UserInfo/GetUserInfo", [("authorization", utf8 ("Bearer " ++ token))], []⟩
    let t := Session.run app Startup.noClient () [signUp, signIn, delete, signUp]
    (t.store.holder? "a@x.com").map (·.id) = some 2 ∧
    ((Api.respond app occasion request).run (Program.inMemory Startup.noClient) (t.store, t.peer)).2 =
      (t.store, t.peer) := by
  intro authority stretching scheme app occasion signUp signIn delete token request t
  let start := Session.run ⟨authority, .standard, scheme⟩ Startup.noClient () [signUp]
  have hgives : (start.deed ⟨authority, .standard, scheme⟩ Startup.noClient signIn).Gives token := by
    have hrun : (Service.signIn scheme authority occasion.now "a@x.com" "p").runWith (Program.inMemory Startup.noClient)
        (start.store, start.peer) = (.ok token, (start.store, start.peer)) := by decide +kernel
    have hdeed : start.deed ⟨authority, .standard, scheme⟩ Startup.noClient signIn =
        .operation ⟨.signIn occasion.now "a@x.com" "p", start.store, .ok token⟩ := Session.deed_operation_eq hrun
    rw [hdeed]
    rfl
  obtain ⟨now, a, expiry, ha, hissue, hexpiry, hacts⟩ :=
    token_acts_on_one_account authority scheme Startup.noClient () [signUp] signIn token (by assumption)
  have hid : a.id = 1 := by
    have hwf : start.store.WellFormed := Session.wellFormed_run () [signUp]
    have hlast : start.store.lastId = 1 := by decide +kernel
    have hpos := hwf.id_pos _ (Store.mem_of_account? ha)
    have hle := hwf.id_le _ (Store.mem_of_account? ha)
    rw [hlast] at hle
    omega
  have hpresents : Presents request.headers token :=
    presents_iff.2 ⟨utf8 ("Bearer " ++ token), "Bearer " ++ token,
      by simp [request, Http.Headers.first?, Http.sameIgnoringCase], by decide +kernel, by decide +kernel⟩
  have hroute : Api.Route.ofPath? (Api.pathOf request.target) = some .getUserInfo := by decide +kernel
  have hadmission : Api.admission app occasion.now (Api.pathOf request.target) request.headers =
      .ok (some (claimsFor a expiry)) := by
    obtain ⟨_, he, hverify⟩ := Token.verify_issue hissue
    cases hexpiry.symm.trans he
    rw [Api.own_admission rfl hroute trivial hpresents, hverify, if_neg (by simp [occasion, Moment.utc])]
    rfl
  have hgone : t.store.account? a.id = none := by
    rw [hid]
    decide +kernel
  have hrun := ((hacts [delete, signUp]).2 occasion request .getUserInfo _ (by decide) hroute trivial hadmission
    hpresents).2.2.2 hgone
  exact ⟨by decide +kernel, hrun.1⟩

end Gatehouse
