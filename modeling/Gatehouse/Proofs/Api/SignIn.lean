import Gatehouse.Proofs.Api.Attempt
import Gatehouse.Proofs.Api.Session
import Gatehouse.Proofs.Service.Credentials

/-!
# What signing in tells

* `Session.readable_run` — behind every run, every hash that the store keeps can be read;
* `Service.signIn_eq_error` — so that signing in fails in the same way for a wrong password as for an unknown address;
* `Api.respond_signIn_cases` — what stands in front of the lookup goes by the request alone;
* `signIn_tells_nothing` — behind any two runs, requests to sign in that give no token are answered alike.
-/

namespace Gatehouse

open Http (Request Response)

/-! ## Hashes that can be read -/

namespace Session

open Api (Application)

variable {ρ : Type} {app : Application} {client : Relations.Client ρ} {t : Session ρ}

lemma readable_operation (h : t.store.WellFormed) (hread : t.store.Readable) (o : Operation) :
    (t.effect app client (.operation o)).1.Readable :=
  Trace.readable_perform (t := ⟨t.store, t.peer, []⟩) h hread o

lemma readable_perform (h : t.store.WellFormed) (hread : t.store.Readable) (step : Step) :
    (t.perform app client step).store.Readable := by
  cases step with
  | operation o => exact readable_operation h hread o
  | request occasion request =>
    show (t.effect app client (.request occasion request)).1.Readable
    rcases t.effect_request_cases occasion request with heffect | ⟨-, -, o, -, heffect⟩
    · rw [heffect]
      exact hread
    · rw [heffect]
      exact readable_operation h hread o

theorem readable_run (peer : ρ) (steps : List Step) :
    (run app client peer steps).store.WellFormed ∧ (run app client peer steps).store.Readable := by
  refine run_induction (I := fun t => t.store.WellFormed ∧ t.store.Readable) ⟨Store.wellFormed_empty, ?_⟩ ?_ steps
  · rintro id a ha
    cases ha
  · rintro t step ⟨h, hread⟩
    exact ⟨perform_wellFormed h step, readable_perform h hread step⟩

end Session

/-! ## How signing in fails -/

/-- **Signing in fails in one way only** if all hashes can be read: there is no such account, or so it says. Only a
token that would expire outside the calendar is a failure of another kind. -/
theorem Service.signIn_eq_error {ρ : Type} {client : Relations.Client ρ} {scheme : Password.Scheme}
    {authority : Token.Authority} {now : Moment} {email password : String} {s : Store} {p : ρ} {fault : Fault}
    (hs : s.WellFormed) (hread : s.Readable)
    (h : ((signIn scheme authority now email password).runWith (Program.inMemory client) (s, p)).1 = .error fault) :
    fault = .accountNotFound ∨
      Token.expiry? now authority.lifetime = none ∧ ∃ detail, fault = .internal detail := by
  have hfind : (Action.store (.findByEmail email)).runWith (Program.inMemory client) (s, p) =
      (.ok (s.holder? email), (s, p)) := rfl
  rw [signIn, Action.runWith_bind_ok hfind] at h
  cases ha : s.holder? email with
  | none =>
    rw [ha] at h
    cases h
    exact .inl rfl
  | some a =>
    obtain ⟨known, hverify⟩ := hread.exists_verify (hs.holder?_eq_some_iff.1 ha).1 scheme password
    rw [ha] at h
    dsimp only at h
    rw [hverify, Action.runWith_bind_ok (Action.runWith_ofExcept _ _)] at h
    cases known with
    | false =>
      cases h
      exact .inl rfl
    | true =>
      rw [if_pos rfl, Action.runWith_ofExcept] at h
      exact .inr (Token.issue_eq_error h)

/-! ## What stands in front of the lookup -/

namespace Api

variable {app : Application}

/-- How far a request gets on a route that is open to everybody does not depend on the time. -/
lemma passage_of_public {target : String} {route : Route} (hpath : Route.ofPath? (pathOf target) = some route)
    (hpublic : ∀ operation, route.operation? = some operation → app.policy.allowed? operation = none)
    (now later : Moment) (method : String) (headers : Http.Headers) :
    passage app now method target headers = passage app later method target headers := by
  have hadmission : ∀ now, admission app now (pathOf target) headers = .ok none :=
    fun now => admission_of_public hpath hpublic now headers
  unfold passage
  simp only [hadmission]

/-- **A request to sign in** is answered by what it says alone, at any time and whatever the store holds, or it signs in
with the address and the password that it tells. -/
theorem respond_signIn_cases {request : Request} (hpath : Route.ofPath? (pathOf request.target) = some .signIn)
    (hpublic : app.policy.allowed? "Auth.SignIn" = none) :
    (∃ response, ∀ occasion, respond app occasion request = pure response) ∨
      ∃ email password, ∀ occasion, respond app occasion request =
        perform (Service.signIn app.scheme app.authority occasion.now email password) fun token =>
          jsonAnswer [("token", Json.writeString token)] := by
  have hpassage : ∀ now, passage app now request.method request.target request.headers =
      passage app (Moment.utc 0) request.method request.target request.headers := by
    refine fun now => passage_of_public hpath ?_ _ _ _ _
    rintro operation ⟨⟩
    exact hpublic
  cases hp : passage app (Moment.utc 0) request.method request.target request.headers with
  | answered response =>
    refine .inl ⟨response, fun occasion => ?_⟩
    rw [respond_eq_passage, hpassage, hp]
  | handled route verified =>
    obtain rfl : route = .signIn := Option.some.inj ((ofPath?_of_handled hp).symm.trans hpath)
    cases hb : readBody readSignIn request with
    | error refusal =>
      refine .inl ⟨{ refusalAnswer refusal with allow := [] }, fun occasion => ?_⟩
      rw [respond_eq_passage, hpassage, hp]
      simp only [handle, withBody, hb]
      rfl
    | ok form =>
      cases hc : checkSignIn form with
      | error fault =>
        refine .inl ⟨{ faultAnswer fault with allow := [] }, fun occasion => ?_⟩
        rw [respond_eq_passage, hpassage, hp]
        simp only [handle, withBody, hb, signInAction, perform_ofExcept_bind, hc]
        rfl
      | ok f =>
        refine .inr ⟨f.email, f.password, fun occasion => ?_⟩
        exact respond_of_asks ((hpassage occasion.now).trans hp) (.signIn hb hc)

/-- Whoever signs in at a time at which tokens can be issued gets a token, or is told that there is no such account. -/
lemma answer_of_signIn {ρ : Type} {client : Relations.Client ρ} {s : Store} {p : ρ} {now : Moment} {expiry : Nat}
    {email password : String} {response : Response} (hs : s.WellFormed) (hread : s.Readable)
    (he : Token.expiry? now app.authority.lifetime = some expiry)
    (h : ((perform (Service.signIn app.scheme app.authority now email password) fun token =>
      jsonAnswer [("token", Json.writeString token)]).run (Program.inMemory client) (s, p)).1 = response) :
    (∃ token, response = jsonAnswer [("token", Json.writeString token)]) ∨ response = faultAnswer .accountNotFound := by
  rw [run_perform] at h
  cases hresult : ((Service.signIn app.scheme app.authority now email password).runWith (Program.inMemory client)
      (s, p)).1 with
  | ok token =>
    rw [hresult] at h
    exact .inl ⟨token, h.symm⟩
  | error fault =>
    rw [hresult] at h
    rcases Service.signIn_eq_error hs hread hresult with rfl | ⟨hnone, -⟩
    · exact .inr h.symm
    · rw [he] at hnone
      cases hnone

end Api

/-- **Signing in does not tell a wrong password from an unknown address.** Take any two runs of requests and operations
on empty stores, with the same settings, and a request to sign in behind each of them, at any times in service. If
neither answer gives a token, then the answers are the same. Every failure of the operation itself is that there is no
such account, unless a token would expire outside the calendar, which it does not at any time in service: all hashes
that a run leaves can be read. -/
theorem signIn_tells_nothing (settings : Settings) (stretching : Password.Stretching) {ρ₁ ρ₂ : Type}
    (client₁ : Relations.Client ρ₁) (client₂ : Relations.Client ρ₂) (peer₁ : ρ₁) (peer₂ : ρ₂)
    (steps₁ steps₂ : List Step) :
    let app := Startup.applicationOf settings stretching
    let t₁ := Session.run app client₁ peer₁ steps₁
    let t₂ := Session.run app client₂ peer₂ steps₂
    (∀ occasion₁ occasion₂ request, occasion₁.now.InService → occasion₂.now.InService →
      Api.Route.ofPath? (Api.pathOf request.target) = some .signIn →
      let response₁ := ((Api.respond app occasion₁ request).run (Program.inMemory client₁) (t₁.store, t₁.peer)).1
      let response₂ := ((Api.respond app occasion₂ request).run (Program.inMemory client₂) (t₂.store, t₂.peer)).1
      (∀ token, response₁ ≠ Api.jsonAnswer [("token", Json.writeString token)]) →
      (∀ token, response₂ ≠ Api.jsonAnswer [("token", Json.writeString token)]) → response₁ = response₂) ∧
    (∀ now email password fault,
      ((Service.signIn app.scheme app.authority now email password).runWith (Program.inMemory client₁)
        (t₁.store, t₁.peer)).1 = .error fault →
      (fault = .accountNotFound ∨
        Token.expiry? now settings.token.lifetime = none ∧ ∃ detail, fault = .internal detail) ∧
      (now.InService → fault = .accountNotFound)) ∧
    ∀ id a, t₁.store.account? id = some a → ∃ h, Phc.parse? a.passwordHash = some h := by
  intro app t₁ t₂
  obtain ⟨hs₁, hread₁⟩ : t₁.store.WellFormed ∧ t₁.store.Readable := Session.readable_run peer₁ steps₁
  obtain ⟨hs₂, hread₂⟩ : t₂.store.WellFormed ∧ t₂.store.Readable := Session.readable_run peer₂ steps₂
  have hlifetime : app.authority.lifetime = settings.token.lifetime := rfl
  have hexpiry : ∀ now : Moment, now.InService → ∃ expiry, Token.expiry? now app.authority.lifetime = some expiry := by
    intro now hnow
    rw [hlifetime]
    exact ⟨_, Token.expiry?_eq hnow settings.token.lifetime_bounds.2⟩
  refine ⟨?_, fun now email password fault hfault => ?_, hread₁⟩
  · intro occasion₁ occasion₂ request hnow₁ hnow₂ hpath response₁ response₂ hnone₁ hnone₂
    have hpublic : app.policy.allowed? "Auth.SignIn" = none := by
      show Access.Policy.standard.allowed? "Auth.SignIn" = none
      decide
    have h₁ : ((Api.respond app occasion₁ request).run (Program.inMemory client₁) (t₁.store, t₁.peer)).1 = response₁ :=
      rfl
    have h₂ : ((Api.respond app occasion₂ request).run (Program.inMemory client₂) (t₂.store, t₂.peer)).1 = response₂ :=
      rfl
    rcases Api.respond_signIn_cases hpath hpublic with ⟨response, hr⟩ | ⟨email, password, hr⟩
    · rw [hr, Program.run_pure] at h₁ h₂
      exact h₁.symm.trans h₂
    · rw [hr] at h₁ h₂
      obtain ⟨expiry₁, he₁⟩ := hexpiry _ hnow₁
      obtain ⟨expiry₂, he₂⟩ := hexpiry _ hnow₂
      have hrefused₁ : response₁ = Api.faultAnswer .accountNotFound := by
        refine (Api.answer_of_signIn hs₁ hread₁ he₁ h₁).resolve_left ?_
        rintro ⟨token, htoken⟩
        exact hnone₁ token htoken
      have hrefused₂ : response₂ = Api.faultAnswer .accountNotFound := by
        refine (Api.answer_of_signIn hs₂ hread₂ he₂ h₂).resolve_left ?_
        rintro ⟨token, htoken⟩
        exact hnone₂ token htoken
      rw [hrefused₁, hrefused₂]
  · have hcases := Service.signIn_eq_error hs₁ hread₁ hfault
    refine ⟨hcases, fun hnow => hcases.resolve_right ?_⟩
    rintro ⟨hnone, -⟩
    obtain ⟨expiry, he⟩ := hexpiry now hnow
    rw [he] at hnone
    cases hnone

/-- Somebody signs in with a wrong password, once with the address of an account and once where there is none: the
answer is the same 404. -/
theorem signIn_tells_nothing_known :
    let settings : Settings := ⟨none, ⟨"secret", 60⟩, "", "http://127.0.0.1:8081", 5, 10, none⟩
    let stretching : Password.Stretching :=
      ⟨fun p _ secret => some (List.replicate p.tagLength (secret.headD 0)), by simp⟩
    let app := Startup.applicationOf settings stretching
    let occasion : Occasion := ⟨Moment.utc 0, Vector.replicate 16 0⟩
    let request : Request := ⟨"POST", "/Auth/SignIn", [("content-type", utf8 "application/json")],
      utf8 "\x7b\"email\":\"a@x.com\",\"password\":\"q\"\x7d"⟩
    let steps : List Step := [.operation (.signUp occasion ⟨⟨"a@x.com", "1", "a", "b"⟩, "p"⟩)]
    let response (steps : List Step) :=
      let t := Session.run app Startup.noClient () steps
      ((Api.respond app occasion request).run (Program.inMemory Startup.noClient) (t.store, t.peer)).1
    (Session.run app Startup.noClient () steps).store.holder? "a@x.com" ≠ none ∧
      (response steps).status = 404 ∧ response steps = response [] := by
  intro settings stretching app occasion request steps response
  have hholder : (Session.run app Startup.noClient () steps).store.holder? "a@x.com" ≠ none := by decide +kernel
  have hknown : (response steps).status = 404 := by decide +kernel
  have hunknown : (response []).status = 404 := by decide +kernel
  have hnow : occasion.now.InService := by
    unfold Moment.InService
    decide +kernel
  have hpath : Api.Route.ofPath? (Api.pathOf request.target) = some .signIn := by decide +kernel
  have hnone : ∀ steps, (response steps).status = 404 →
      ∀ token, response steps ≠ Api.jsonAnswer [("token", Json.writeString token)] := by
    intro steps hstatus token htoken
    rw [htoken] at hstatus
    exact absurd (show 200 = 404 from hstatus) (by decide)
  exact ⟨hholder, hknown, (signIn_tells_nothing settings stretching Startup.noClient Startup.noClient () () steps []).1
    occasion occasion request hnow hnow hpath (hnone steps hknown) (hnone [] hunknown)⟩

end Gatehouse
