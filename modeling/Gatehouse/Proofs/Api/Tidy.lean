import Gatehouse.Proofs.Api.Attempt
import Gatehouse.Proofs.Api.Session
import Gatehouse.Proofs.Email
import Gatehouse.Proofs.Program.Keeps
import Gatehouse.Proofs.Text.Blank
import Gatehouse.Proofs.Text.Lower

/-!
# Profiles that came by requests are tidy

* `Profile.Tidy` — an email address in its normal form, and other fields without blanks at the ends;
* `Api.tidy_of_checkRegistration`, `Api.tidy_patched` — what passes the checks of a form is tidy, and so is a tidy
  profile with the changes of a patch that passes them;
* `Api.keeps_respond` — so that every call of a request keeps all stored profiles tidy;
* `tidy_behind_requests` — hence all profiles are tidy behind any requests, and every account is found by
  whoever signs in with its address, however it is spelled.
-/

namespace Gatehouse

open Http (Request Response)
open Text (IsTrimmed isBlankText)

/-! ## Tidy profiles -/

/-- A profile as it is to be stored: the email address is one and in its normal form, and all other fields are
trimmed. -/
structure Profile.Tidy (p : Profile) : Prop where
  normal_email : Api.normalEmail p.email = p.email
  isValid_email : Email.isValid p.email = true
  phoneNumber : IsTrimmed p.phoneNumber
  name : IsTrimmed p.name
  surname : IsTrimmed p.surname

def Store.Tidy (s : Store) : Prop := ∀ entry ∈ s.accounts, entry.2.profile.Tidy

namespace Api

variable {patch current : Profile}

/-- The normal form of an address is its own normal form: it has no blanks that could be trimmed, and it is in lower
case. -/
theorem normalEmail_normalEmail {email : String} (h : Email.isValid (normalEmail email) = true) :
    normalEmail (normalEmail email) = normalEmail email := by
  have htrim : Text.trim (normalEmail email) = normalEmail email := Text.trim_eq_self (Email.isBlank_of_isValid h)
  calc normalEmail (normalEmail email)
      = Text.lower (normalEmail email) := congrArg Text.lower htrim
    _ = normalEmail email := Text.lower_lower (Text.trim email)

/-! ## What passes the checks of a form -/

lemma isValid_of_checkEmail {email : String} {u : Unit} (h : checkEmail email = .ok u) :
    Email.isValid email = true := by
  unfold checkEmail at h
  split at h
  · assumption
  · cases h

lemma isTrimmed_of_required {text what : String} {u : Unit} (h : required text what = .ok u) :
    IsTrimmed (Text.trim text) := by
  unfold required at h
  split at h
  · cases h
  · next hblank => exact Text.isTrimmed_trim (mt Text.trim_eq_empty_iff.1 hblank)

lemma tidy_normalProfile {p : Profile} (hemail : Email.isValid (normalProfile p).email = true)
    (hphone : IsTrimmed (Text.trim p.phoneNumber)) (hname : IsTrimmed (Text.trim p.name))
    (hsurname : IsTrimmed (Text.trim p.surname)) : (normalProfile p).Tidy where
  normal_email := normalEmail_normalEmail hemail
  isValid_email := hemail
  phoneNumber := hphone
  name := hname
  surname := hsurname

/-- **A registration that passes the checks** is tidy. -/
theorem tidy_of_checkRegistration {form r : Registration} (h : checkRegistration form = .ok r) : r.profile.Tidy := by
  unfold checkRegistration at h
  obtain ⟨_, hemail, h⟩ := exists_of_bind_eq_ok h
  obtain ⟨_, -, h⟩ := exists_of_bind_eq_ok h
  obtain ⟨_, -, h⟩ := exists_of_bind_eq_ok h
  obtain ⟨_, hphone, h⟩ := exists_of_bind_eq_ok h
  obtain ⟨_, hname, h⟩ := exists_of_bind_eq_ok h
  obtain ⟨_, hsurname, h⟩ := exists_of_bind_eq_ok h
  obtain rfl := Except.ok.inj h
  exact tidy_normalProfile (isValid_of_checkEmail hemail) (isTrimmed_of_required hphone) (isTrimmed_of_required hname)
    (isTrimmed_of_required hsurname)

lemma of_checkPatch {form : Profile} (h : checkPatch form = .ok patch) :
    patch = normalProfile form ∧ (normalEmail form.email ≠ "" → Email.isValid (normalEmail form.email) = true) := by
  unfold checkPatch at h
  dsimp only at h
  split at h
  · obtain ⟨_, hemail, h⟩ := exists_of_bind_eq_ok h
    exact ⟨(Except.ok.inj h).symm, fun _ => isValid_of_checkEmail hemail⟩
  · next hempty =>
    refine ⟨(Except.ok.inj h).symm, fun hne => absurd ?_ hempty⟩
    simpa [normalProfile] using hne

lemma pick_cases (new old : String) : Profile.pick new old = old ∨ new ≠ "" ∧ Profile.pick new old = new := by
  unfold Profile.pick
  split
  · exact .inl rfl
  · next hempty => exact .inr ⟨by simpa using hempty, rfl⟩

lemma isTrimmed_pick {text old : String} (h : IsTrimmed old) : IsTrimmed (Profile.pick (Text.trim text) old) := by
  rcases pick_cases (Text.trim text) old with hp | ⟨hne, hp⟩ <;> rw [hp]
  · exact h
  · exact Text.isTrimmed_trim hne

/-- **A tidy profile stays tidy** with the changes of a patch that passes the checks. -/
theorem tidy_patched {form : Profile} (h : checkPatch form = .ok patch) (hcurrent : current.Tidy) :
    (current.patched patch).Tidy := by
  obtain ⟨hpatch, hvalid⟩ := of_checkPatch h
  have hemail : normalEmail (Profile.pick (normalEmail form.email) current.email) =
      Profile.pick (normalEmail form.email) current.email ∧
      Email.isValid (Profile.pick (normalEmail form.email) current.email) = true := by
    rcases pick_cases (normalEmail form.email) current.email with hp | ⟨hne, hp⟩ <;> rw [hp]
    · exact ⟨hcurrent.normal_email, hcurrent.isValid_email⟩
    · exact ⟨normalEmail_normalEmail (hvalid hne), hvalid hne⟩
  rw [hpatch]
  -- the fields are written out, lest the unifier computes them
  refine ⟨?_, ?_, ?_, ?_, ?_⟩ <;> dsimp only [Profile.patched, normalProfile]
  · exact hemail.1
  · exact hemail.2
  · exact isTrimmed_pick hcurrent.phoneNumber
  · exact isTrimmed_pick hcurrent.name
  · exact isTrimmed_pick hcurrent.surname

end Api

/-! ## Calls that keep profiles tidy -/

namespace Store

variable {s : Store} {c : Call}

def Call.WritesTidy : Call → Prop
  | .create n => n.profile.Tidy
  | .setProfile _ profile => profile.Tidy
  | _ => True

lemma tidy_empty : empty.Tidy := by
  rintro entry ⟨⟩

lemma Call.Revises.tidy {id : Int} {a b : Account} (h : c.Revises s id a b) (hc : c.WritesTidy) (ha : a.profile.Tidy) :
    b.profile.Tidy := by
  rcases h.profile with he | ⟨rfl, -⟩
  · rwa [he]
  · exact hc

/-- **A call that writes tidy profiles** keeps all profiles tidy. -/
theorem Tidy.serve (h : s.Tidy) (hc : c.WritesTidy) : (s.serve c).2.Tidy := by
  refine forall_mem_serve (P := fun a => a.profile.Tidy) h ?_ fun id a b hr => hr.tidy hc
  rintro n id rfl
  exact hc

end Store

/-! ## Requests -/

namespace Api

variable {app : Application} {occasion : Occasion} {verified : Option Token.Claims} {request : Request} {route : Route}
  {o : Operation}

/-- An operation that a request asks for writes tidy profiles only: that of a registration was checked, and that of an
account is the one that was read, with the changes of a patch that was checked. -/
theorem keeps_of_asks (h : Asks app occasion verified request route o) :
    (o.action app.scheme app.authority).Keeps Store.Tidy := by
  have hmakes : (∀ c : Store.Call, o.May (.store c) → c.WritesTidy) →
      (o.action app.scheme app.authority).Keeps Store.Tidy :=
    fun hwrites => Program.Makes.keeps o.makes fun c hc s hs => hs.serve (hwrites c hc)
  cases h with
  | signUp hb hc =>
    refine hmakes fun c hmay => ?_
    cases c with
    | create n =>
      rw [Store.Call.WritesTidy, show n.profile = _ from hmay]
      exact tidy_of_checkRegistration hc
    | _ => exact hmay.elim
  | updateUserInfo hv hb hc hid =>
    exact Action.keeps_account_bind fun s a hs ha =>
      Action.keeps_store fun u hu => hu.serve (tidy_patched hc (hs _ (Store.mem_of_account? ha)))
  | _ =>
    refine hmakes fun c hmay => ?_
    cases c with
    | create _ | setProfile _ _ => exact hmay.elim
    | _ => trivial

/-- **Every call of a request** keeps all profiles tidy. -/
theorem keeps_respond (app : Application) (occasion : Occasion) (request : Request) :
    (respond app occasion request).Keeps Store.Tidy :=
  keeps_respond_of_asks keeps_of_asks

end Api

namespace Session

variable {ρ : Type} (app : Api.Application) (client : Relations.Client ρ) (peer : ρ)

theorem tidy_serve (requests : List (Occasion × Request)) :
    (serve app client peer requests).store.WellFormed ∧ (serve app client peer requests).store.Tidy := by
  refine serve_induction (I := fun t => t.store.WellFormed ∧ t.store.Tidy)
    ⟨Store.wellFormed_empty, Store.tidy_empty⟩ ?_
  rintro q - t ⟨hwf, htidy⟩
  exact ⟨perform_wellFormed hwf _, Program.run_keeps (Api.keeps_respond app q.1 q.2) client htidy t.peer⟩

end Session

/-! ## Signing in -/

namespace Api

variable {app : Application} {now : Moment} {s : Store} {id : Int} {a : Account} {form : SignInForm}

/-- Whoever signs in with the address of a tidy account, however it is spelled, gets to this account, unless the
password is blank. -/
theorem attempt_of_tidy (hs : s.WellFormed) (htidy : s.Tidy) (ha : (id, a) ∈ s.accounts)
    (hemail : normalEmail form.email = a.profile.email) :
    s.holder? (normalEmail form.email) = some a ∧
      attempt app now s form =
        if isBlankText form.password then .error (.validation "password is required")
        else Service.tokenFor app.scheme app.authority now (some a) form.password := by
  have hholder : s.holder? (normalEmail form.email) = some a := by
    have haccount := hs.account?_eq_some_iff.2 ha
    exact hs.holder?_eq_some_iff.2 ⟨by rw [hs.account_id_eq haccount]; exact haccount, hemail.symm⟩
  have hvalid : Email.isValid (normalEmail form.email) = true := by
    rw [hemail]
    exact (htidy _ ha).isValid_email
  refine ⟨hholder, ?_⟩
  rw [attempt_eq, if_pos hvalid, hholder]

end Api

/-- **Behind any requests on the empty store all stored profiles are tidy:** every email address is one and in its
normal form, that is trimmed and in lower case, and every phone number, name and surname is trimmed and not empty. Hence
a request to sign in with any spelling of the address of an account finds this account: it is answered by whether the
password is that of the account, unless it says no password, and nothing is changed. -/
theorem tidy_behind_requests (settings : Settings) (stretching : Password.Stretching) {ρ : Type}
    (client : Relations.Client ρ) (peer : ρ) (requests : List (Occasion × Request)) :
    let app := Startup.applicationOf settings stretching
    let t := Session.serve app client peer requests
    t.store.Tidy ∧
    ∀ id a, (id, a) ∈ t.store.accounts →
      ∀ occasion request form, Api.Attempts request form → Api.normalEmail form.email = a.profile.email →
        t.store.holder? (Api.normalEmail form.email) = some a ∧
        (Api.respond app occasion request).run (Program.inMemory client) (t.store, t.peer) =
          (Api.attemptAnswer
            (if isBlankText form.password then .error (.validation "password is required")
            else Service.tokenFor app.scheme app.authority occasion.now (some a) form.password),
            (t.store, t.peer)) := by
  intro app t
  obtain ⟨hwf, htidy⟩ : t.store.WellFormed ∧ t.store.Tidy := Session.tidy_serve app client peer requests
  refine ⟨htidy, fun id a ha occasion request form hform hemail => ?_⟩
  obtain ⟨hholder, hattempt⟩ := @Api.attempt_of_tidy app occasion.now _ _ _ form hwf htidy ha hemail
  refine ⟨hholder, ?_⟩
  rw [Api.respond_of_attempts hform Access.Policy.signIn_public, hattempt]

/-- Somebody signs up with blanks and capital letters in the form, and signs in with another spelling of the address:
the account is found. -/
theorem tidy_behind_registration :
    let settings : Settings := ⟨none, ⟨"secret", 60⟩, "", "http://127.0.0.1:8081", 5, 10, none⟩
    let stretching : Password.Stretching :=
      ⟨fun p _ secret => some (List.replicate p.tagLength (secret.headD 0)), by simp⟩
    let app := Startup.applicationOf settings stretching
    let occasion : Occasion := ⟨Moment.utc 0, Vector.replicate 16 0⟩
    let headers : Http.Headers := [("content-type", utf8 "application/json")]
    let form := "\x7b\"email\":\" Ann@X.com \",\"password\":\"p\",\"phone_number\":\"1 \",\"name\":\" Ann\"," ++
      "\"surname\":\"B\"\x7d"
    let signUp : Request := ⟨"POST", "/Auth/SignUp", headers, utf8 form⟩
    let signIn : Request := ⟨"POST", "/Auth/SignIn", headers, utf8 "\x7b\"email\":\"ann@x.COM\",\"password\":\"p\"\x7d"⟩
    let t := Session.serve app Startup.noClient () [(occasion, signUp)]
    ∃ id a, (id, a) ∈ t.store.accounts ∧ a.profile = ⟨"ann@x.com", "1", "Ann", "B"⟩ ∧
      t.store.holder? (Api.normalEmail "ann@x.COM") = some a ∧
      ((Api.respond app occasion signIn).run (Program.inMemory Startup.noClient) (t.store, t.peer)).1.status = 200 := by
  intro settings stretching app occasion headers form signUp signIn t
  have hprofiles : t.store.accounts.map (fun entry => entry.2.profile) = [⟨"ann@x.com", "1", "Ann", "B"⟩] := by
    decide +kernel
  have hanswer : ((Api.respond app occasion signIn).run (Program.inMemory Startup.noClient)
      (t.store, t.peer)).1.status = 200 := by decide +kernel
  have hattempts : Api.Attempts signIn ⟨"ann@x.COM", "p"⟩ := ⟨rfl, by decide +kernel, by decide +kernel⟩
  have hnormal : Api.normalEmail "ann@x.COM" = "ann@x.com" := by decide +kernel
  have hrun := tidy_behind_requests settings stretching Startup.noClient () [(occasion, signUp)]
  -- from here on nothing computes the run
  have ht : Session.serve (Startup.applicationOf settings stretching) Startup.noClient () [(occasion, signUp)] =
    t := rfl
  clear_value t
  dsimp only at hrun
  rw [ht] at hrun
  obtain ⟨⟨id, a⟩, haccounts, hprofile⟩ := List.map_eq_singleton_iff.1 hprofiles
  have ha : (id, a) ∈ t.store.accounts := by rw [haccounts]; exact List.mem_singleton_self _
  have hfinds := hrun.2 id a ha occasion signIn ⟨"ann@x.COM", "p"⟩ hattempts (by rw [hprofile]; exact hnormal)
  exact ⟨id, a, ha, hprofile, hfinds.1, hanswer⟩

end Gatehouse
