import Gatehouse.Proofs.Api.Attempt
import Gatehouse.Proofs.Api.Ownership
import Gatehouse.Proofs.Settings
import Gatehouse.Proofs.Token.Expiry
import Gatehouse.Proofs.Token.RoundTrip

/-!
# The administrator that a start makes

* `Settings.admin_of_ofEnvironment` — the administrator that an environment asks for;
* `Startup.ensureAdmin_run`, `Startup.withAdmin_eq_ok_iff` — on the empty store its account is the first one;
* `Startup.start_eq_ok_iff` — what a start that succeeds has read and made;
* `Access.Policy.admin_mem` — an administrator may do whatever is protected;
* `Startup.admin_behind_start` — so that whoever signs in with what the environment says may do everything, as long as
  the email address is one and the password is not blank.
-/

namespace Gatehouse

open Http (Request Response)
open Password.Scheme (freshText)
open Program (inMemory)

/-! ## Settings -/

namespace Settings

variable {env : Environment} {settings : Settings}

lemma admin_of_ofEnvironment (h : ofEnvironment env = .ok settings) : settings.admin = adminOf env := by
  obtain ⟨secret, -, -, rfl⟩ := ofEnvironment_eq_ok_iff.1 h
  rfl

lemma adminOf_of_filled {email password : String} (he : filled? env "ADMIN_EMAIL" = some email)
    (hp : filled? env "ADMIN_PASSWORD" = some password) : adminOf env = some ⟨email, password⟩ := by
  simp [adminOf, he, hp]

end Settings

/-! ## The first account -/

namespace Startup

variable {scheme : Password.Scheme} {occasion : Occasion} {email password : String} {tag : Bytes} {settings : Settings}
  {admin : AdminSettings} {s : Store}

/-- The account of an administrator who is registered on the empty store, where `tag` is the output of the password. -/
def adminAccount (occasion : Occasion) (email : String) (tag : Bytes) : Account where
  id := 1
  profile := ⟨email, "-", "admin", "admin"⟩
  passwordHash := freshText occasion.salt tag
  registeredAt := occasion.now
  role := .admin
  familyIds := []

/-- **On the empty store** an administrator is registered and promoted, if there is a hash of the password. -/
theorem ensureAdmin_run (ho : scheme.output? occasion.salt password = some tag) :
    (Service.ensureAdmin scheme occasion email password).runWith (inMemory noClient) (.empty, ()) =
      (.ok 1, (⟨1, [(1, adminAccount occasion email tag)]⟩, ())) := by
  have hsignUp : (Service.signUp scheme occasion (Service.adminRegistration email password)).runWith
      (inMemory noClient) (.empty, ()) =
        (.ok 1, (⟨1, [(1, { adminAccount occasion email tag with role := .user })]⟩, ())) := by
    unfold Service.signUp
    rw [show (Service.adminRegistration email password).password = password from rfl, Password.Scheme.hash_of_some ho,
      Action.runWith_bind_ok (Action.runWith_ofExcept _ _)]
    rfl
  have hregistered : ∀ handle : Fault → Action Int,
      (tryCatch (Service.signUp scheme occasion (Service.adminRegistration email password)) handle).runWith
        (inMemory noClient) (.empty, ()) =
          (.ok 1, (⟨1, [(1, { adminAccount occasion email tag with role := .user })]⟩, ())) := by
    intro handle
    rw [Action.runWith_tryCatch, hsignUp]
  exact (Action.runWith_bind_ok (hregistered _) _).trans rfl

/-- A start makes the administrator of its settings the first account, or fails for want of a hash. -/
theorem withAdmin_eq_ok_iff (ha : settings.admin = some admin) :
    withAdmin settings scheme occasion .empty = .ok s ↔
      ∃ tag, scheme.output? occasion.salt admin.password = some tag ∧
        s = ⟨1, [(1, adminAccount occasion (Api.normalEmail admin.email) tag)]⟩ := by
  have hok : ∀ {id store}, (Service.ensureAdmin scheme occasion (Api.normalEmail admin.email) admin.password).runWith
      (inMemory noClient) (.empty, ()) = (.ok id, (store, ())) →
      withAdmin settings scheme occasion .empty = .ok store := by
    intro id store h
    unfold Action.runWith at h
    rw [withAdmin, ha]
    dsimp only
    rw [h]
  constructor
  · intro h
    rcases @Service.ensureAdmin_cases Unit noClient scheme occasion (Api.normalEmail admin.email) admin.password .empty
      Store.wellFormed_empty () with ⟨fault, hfault⟩ | ⟨tag, added, ho, -⟩ | ⟨a, hholder, -⟩
    · unfold Action.runWith at hfault
      rw [withAdmin, ha] at h
      dsimp only at h
      rw [hfault] at h
      cases h
    · exact ⟨tag, ho, (Except.ok.inj ((hok (ensureAdmin_run ho)).symm.trans h)).symm⟩
    · cases hholder
  · rintro ⟨tag, ho, rfl⟩
    exact hok (ensureAdmin_run ho)

/-- **A start that succeeds** has read its settings, has no database, knows where the relationship service is, and has
the accounts that its settings ask for. -/
theorem start_eq_ok_iff {env : Environment} {stretching : Password.Stretching} {running : Running} :
    start env stretching occasion = .ok running ↔
      Settings.ofEnvironment env = .ok running.settings ∧ running.settings.databaseUrl = none ∧
      running.application = applicationOf running.settings stretching ∧
      Relations.Wire.baseOf? running.settings.familyUrl = some running.relationsBase ∧
      withAdmin running.settings running.application.scheme occasion .empty = .ok running.store := by
  unfold start
  constructor
  · intro h
    obtain ⟨settings, hsettings, h⟩ := Api.exists_of_bind_eq_ok h
    cases hdatabase : settings.databaseUrl with
    | some url =>
      simp only [hdatabase] at h
      cases h
    | none =>
      simp only [hdatabase] at h
      cases hbase : Relations.Wire.baseOf? settings.familyUrl with
      | none =>
        simp only [hbase] at h
        cases h
      | some base =>
        simp only [hbase, Option.isSome_none] at h
        obtain ⟨_, hpure, h⟩ := Api.exists_of_bind_eq_ok h
        cases hpure
        obtain ⟨store, hstore, h⟩ := Api.exists_of_bind_eq_ok h
        cases h
        exact ⟨hsettings, hdatabase, rfl, hbase, hstore⟩
  · obtain ⟨settings, application, base, store⟩ := running
    dsimp only
    rintro ⟨hsettings, hdatabase, rfl, hbase, hstore⟩
    simp only [hsettings, bind, Except.bind, hdatabase, hbase, hstore]
    rfl

/-- With Argon2 itself, a start fails for want of a hash only if the password has four gigabytes. -/
theorem exists_running {env : Environment} (hsettings : Settings.ofEnvironment env = .ok settings)
    (hdatabase : settings.databaseUrl = none) (ha : settings.admin = some admin)
    (hbase : (Relations.Wire.baseOf? settings.familyUrl).isSome = true)
    (hlength : (utf8 (admin.password ++ settings.pepper)).length < 0x100000000) :
    ∃ running, start env Password.argon2 occasion = .ok running ∧ running.settings = settings := by
  obtain ⟨base, hbase⟩ := Option.isSome_iff_exists.1 hbase
  obtain ⟨tag, htag⟩ : ∃ tag, (applicationOf settings Password.argon2).scheme.output? occasion.salt admin.password =
      some tag := by
    show ∃ tag, Digest.Argon2.tag? _ _ (utf8 (admin.password ++ settings.pepper)) = some tag
    unfold Digest.Argon2.tag?
    rw [if_neg (Nat.not_le.2 hlength)]
    exact ⟨_, rfl⟩
  have hstore := (withAdmin_eq_ok_iff ha).2 ⟨tag, htag, rfl⟩
  exact ⟨⟨settings, _, base, _⟩, start_eq_ok_iff.2 ⟨hsettings, hdatabase, rfl, hbase, hstore⟩, rfl⟩

end Startup

/-! ## Getting in -/

namespace Access

lemma Policy.admin_mem {operation : String} {roles : List Role} (h : Policy.standard.allowed? operation = some roles) :
    Role.admin ∈ roles := by
  have hall : ∀ rule ∈ Policy.standard, Role.admin ∈ rule.2 := by decide
  obtain ⟨front, behind, he, -⟩ := List.lookup_eq_some_iff.1 h
  exact hall (operation, roles) (by rw [he]; simp)

/-- Whoever presents a token that an administrator got may do whatever is protected, as long as the token is good. -/
lemma authorize_admin {authority : Token.Authority} {now later : Moment} {account : Account} {token : String}
    {headers : Http.Headers} {expiry : Nat} (hrole : account.role = .admin)
    (hissue : authority.issue now account = .ok token) (hexpiry : Token.expiry? now authority.lifetime = some expiry)
    (hlater : later.seconds ≤ expiry) (hpresents : Presents headers token) {operation : String} {roles : List Role}
    (hroles : Policy.standard.allowed? operation = some roles) :
    authorize authority .standard later operation headers =
      .ok (some (Token.Authority.claimsFor account expiry)) := by
  obtain ⟨_, he, hverify⟩ := Token.verify_issue hissue
  cases hexpiry.symm.trans he
  have hadmin : (Token.Authority.claimsFor account expiry).role ∈ roles := by
    rw [Token.Authority.claimsFor, hrole]
    exact Policy.admin_mem hroles
  rw [Access.authorize_of_allowed? hroles, Token.claimsOfHeaders_of_presents hpresents, hverify, if_neg (by omega)]
  simp [hadmin]

end Access

namespace Startup

lemma tokenFor_adminAccount (ho : scheme.output? occasion.salt password = some tag) (authority : Token.Authority)
    (now : Moment) :
    Service.tokenFor scheme authority now (some (adminAccount occasion email tag)) password =
      authority.issue now (adminAccount occasion email tag) := by
  have hverify : scheme.verify (adminAccount occasion email tag).passwordHash password = .ok true := by
    rw [adminAccount, Password.Scheme.verify_freshText _ (Password.Scheme.length_of_output? ho), ho, beq_self_eq_true]
  simp only [Service.tokenFor, hverify]

/-- **Behind a start with an administrator** whose address and password are set and not empty, there is exactly one
account: the first one, with the role of an administrator and the address in its normal form. Whoever signs in with what
the environment says, at any time in service, gets a token with which everything that is protected may be done until it
expires. But the request has to pass the checks of its form, which the environment has not passed: if the text is no
email address, or if the password is blank, then the administrator is turned away. -/
theorem admin_behind_start {env : Environment} {stretching : Password.Stretching} {occasion : Occasion}
    {running : Running} {email password : String} (hstart : start env stretching occasion = .ok running)
    (hemail : Settings.filled? env "ADMIN_EMAIL" = some email)
    (hpassword : Settings.filled? env "ADMIN_PASSWORD" = some password) :
    ∃ a : Account, running.store = ⟨1, [(1, a)]⟩ ∧ a.id = 1 ∧ a.role = .admin ∧
      a.profile.email = Api.normalEmail email ∧
      ∀ (ρ : Type) (client : Relations.Client ρ) (peer : ρ) (visit : Occasion) (request : Request),
        visit.now.InService → Api.Attempts request ⟨email, password⟩ →
        ∃ response, (Api.respond running.application visit request).run (inMemory client) (running.store, peer) =
            (response, (running.store, peer)) ∧
          (Email.isValid (Api.normalEmail email) = true → Text.isBlankText password = false →
            ∃ token claims, response = Api.jsonAnswer [("token", Json.writeString token)] ∧
              claims.accountId = .ok 1 ∧ claims.role = .admin ∧
              ∀ later headers operation roles,
                later.seconds ≤ visit.now.seconds + running.settings.token.lifetime → Presents headers token →
                Access.Policy.standard.allowed? operation = some roles →
                Access.authorize running.application.authority running.application.policy later operation headers =
                  .ok (some claims)) ∧
          (Email.isValid (Api.normalEmail email) = true → Text.isBlankText password = true →
            response = Api.faultAnswer (.validation "password is required")) ∧
          (Email.isValid (Api.normalEmail email) = false →
            response = Api.faultAnswer (.validation "email format is invalid")) := by
  obtain ⟨hsettings, -, happ, -, hstore⟩ := start_eq_ok_iff.1 hstart
  have hadmin : running.settings.admin = some ⟨email, password⟩ :=
    (Settings.admin_of_ofEnvironment hsettings).trans (Settings.adminOf_of_filled hemail hpassword)
  obtain ⟨tag, ho, hs⟩ := (withAdmin_eq_ok_iff hadmin).1 hstore
  refine ⟨adminAccount occasion (Api.normalEmail email) tag, hs, rfl, rfl, rfl, ?_⟩
  intro ρ client peer visit request hnow hattempts
  have hpublic : running.application.policy.allowed? "Auth.SignIn" = none := by
    rw [happ]
    exact Access.Policy.signIn_public
  obtain ⟨expiry, hexpiry, hlast⟩ : ∃ expiry,
      Token.expiry? visit.now running.application.authority.lifetime = some expiry ∧
      visit.now.seconds + running.settings.token.lifetime ≤ (expiry : Int) := by
    rw [happ]
    exact ⟨_, Token.expiry?_eq hnow running.settings.token.lifetime_bounds.2, Int.self_le_toNat _⟩
  refine ⟨_, Api.respond_of_attempts hattempts hpublic visit running.store peer, ?_, ?_, ?_⟩ <;> rw [Api.attempt_eq]
  · intro hvalid hblank
    have hholder : running.store.holder? (Api.normalEmail email) =
        some (adminAccount occasion (Api.normalEmail email) tag) := by
      simp [hs, Store.holder?, adminAccount]
    have hissue : running.application.authority.issue visit.now (adminAccount occasion (Api.normalEmail email) tag) =
        .ok _ := Token.issue_of_expiry? hexpiry
    rw [if_pos hvalid, hblank, if_neg Bool.false_ne_true, hholder, tokenFor_adminAccount ho, hissue]
    refine ⟨_, Token.Authority.claimsFor (adminAccount occasion (Api.normalEmail email) tag) expiry, rfl,
      Token.accountId_claimsFor (show Text.IsWord 1 by decide), rfl, ?_⟩
    intro later headers operation roles hlater hpresents hroles
    rw [happ] at hissue hexpiry hpresents ⊢
    exact Access.authorize_admin rfl hissue hexpiry (hlater.trans hlast) hpresents hroles
  · intro hvalid hblank
    rw [if_pos hvalid, if_pos hblank]
    rfl
  · intro hvalid
    rw [hvalid, if_neg Bool.false_ne_true]
    rfl

/-- The environment asks for an administrator by an address with blanks and capital letters: whoever signs in with just
that gets a token of an administrator. -/
theorem admin_gets_in :
    let env : Environment := [("JWT_SECRET", "s"), ("ADMIN_EMAIL", " Root@X.com"), ("ADMIN_PASSWORD", "pw")]
    let occasion : Occasion := ⟨Moment.utc 0, Vector.replicate 16 0⟩
    let request : Request := ⟨"POST", "/Auth/SignIn", [("content-type", utf8 "application/json")],
      utf8 "\x7b\"email\":\" Root@X.com\",\"password\":\"pw\"\x7d"⟩
    ∃ running token claims, start env Password.argon2 occasion = .ok running ∧
      ((Api.respond running.application occasion request).run (inMemory noClient) (running.store, ())).1 =
        Api.jsonAnswer [("token", Json.writeString token)] ∧ claims.role = .admin ∧
      ∀ headers, Presents headers token →
        Access.authorize running.application.authority running.application.policy occasion.now "Permissions.IsAdmin"
          headers = .ok (some claims) := by
  intro env occasion request
  let settings : Settings :=
    ⟨none, ⟨"s", 60⟩, "", "http://127.0.0.1:8081", 5, 10, some ⟨" Root@X.com", "pw"⟩⟩
  have hsettings : Settings.ofEnvironment env = .ok settings := by decide +kernel
  have hbase : (Relations.Wire.baseOf? settings.familyUrl).isSome = true := by decide +kernel
  obtain ⟨running, hstart, -⟩ := @exists_running occasion _ _ env hsettings rfl rfl hbase (by decide +kernel)
  have hnow : occasion.now.InService := by
    unfold Moment.InService
    decide +kernel
  have hattempts : Api.Attempts request ⟨" Root@X.com", "pw"⟩ := ⟨rfl, by decide +kernel, by decide +kernel⟩
  have hvalid : Email.isValid (Api.normalEmail " Root@X.com") = true := by decide +kernel
  have hemail : Settings.filled? env "ADMIN_EMAIL" = some " Root@X.com" := by decide +kernel
  have hpassword : Settings.filled? env "ADMIN_PASSWORD" = some "pw" := by decide +kernel
  obtain ⟨a, -, -, -, -, hgets⟩ := admin_behind_start hstart hemail hpassword
  obtain ⟨response, hrun, hgood, -⟩ := hgets Unit noClient () occasion request hnow hattempts
  obtain ⟨token, claims, hresponse, -, hrole, hauthorize⟩ := hgood hvalid (by decide +kernel)
  refine ⟨running, token, claims, hstart, (congrArg Prod.fst hrun).trans hresponse, hrole, fun headers hpresents => ?_⟩
  have hroles : Access.Policy.standard.allowed? "Permissions.IsAdmin" = some [.admin] := by decide
  have hlater : occasion.now.seconds ≤ occasion.now.seconds + running.settings.token.lifetime := by omega
  exact hauthorize occasion.now headers "Permissions.IsAdmin" [.admin] hlater hpresents hroles

/-- The environment asks for an administrator by a name that is no email address: the start succeeds, but whoever signs
in with what the environment says is turned away. -/
theorem admin_turned_away :
    ¬ ∀ (env : Environment) (occasion : Occasion) (running : Running) (email password : String) (request : Request),
      start env Password.argon2 occasion = .ok running → Settings.filled? env "ADMIN_EMAIL" = some email →
      Settings.filled? env "ADMIN_PASSWORD" = some password → occasion.now.InService →
      Api.Attempts request ⟨email, password⟩ →
      ((Api.respond running.application occasion request).run (inMemory noClient) (running.store, ())).1.status =
        200 := by
  intro h
  let env : Environment := [("JWT_SECRET", "s"), ("ADMIN_EMAIL", "root"), ("ADMIN_PASSWORD", "pw")]
  let occasion : Occasion := ⟨Moment.utc 0, Vector.replicate 16 0⟩
  let request : Request := ⟨"POST", "/Auth/SignIn", [("content-type", utf8 "application/json")],
    utf8 "\x7b\"email\":\"root\",\"password\":\"pw\"\x7d"⟩
  let settings : Settings := ⟨none, ⟨"s", 60⟩, "", "http://127.0.0.1:8081", 5, 10, some ⟨"root", "pw"⟩⟩
  have hsettings : Settings.ofEnvironment env = .ok settings := by decide +kernel
  have hbase : (Relations.Wire.baseOf? settings.familyUrl).isSome = true := by decide +kernel
  obtain ⟨running, hstart, -⟩ := @exists_running occasion _ _ env hsettings rfl rfl hbase (by decide +kernel)
  have hnow : occasion.now.InService := by
    unfold Moment.InService
    decide +kernel
  have hattempts : Api.Attempts request ⟨"root", "pw"⟩ := ⟨rfl, by decide +kernel, by decide +kernel⟩
  have hinvalid : Email.isValid (Api.normalEmail "root") = false := by decide +kernel
  have hpublic : running.application.policy.allowed? "Auth.SignIn" = none := by
    rw [(start_eq_ok_iff.1 hstart).2.2.1]
    exact Access.Policy.signIn_public
  have hemail : Settings.filled? env "ADMIN_EMAIL" = some "root" := by decide +kernel
  have hpassword : Settings.filled? env "ADMIN_PASSWORD" = some "pw" := by decide +kernel
  have hstatus := h env occasion running "root" "pw" request hstart hemail hpassword hnow hattempts
  rw [Api.respond_of_attempts hattempts hpublic, Api.attempt_eq, hinvalid, if_neg Bool.false_ne_true] at hstatus
  exact absurd (show 400 = 200 from hstatus) (by decide)

end Startup

end Gatehouse
