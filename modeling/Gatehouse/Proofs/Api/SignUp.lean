import Gatehouse.Proofs.Api.Attempt
import Gatehouse.Proofs.Api.Form
import Gatehouse.Proofs.Password
import Gatehouse.Proofs.Service.Administrator

/-!
# Who may sign up

* `demands` — what a registration has to satisfy, in the order in which it is checked, with the message of each failure;
* `checkRegistration_cases` — a registration that satisfies all demands is tidied, and any other one is refused by the
  first demand that it does not satisfy;
* `SignsUp` — a request with the form of a person who signs up;
* `respond_signsUp_cases` — what such a request is answered, and what becomes of the registration;
* `signUp_exact` — **who signs up is accepted exactly if all demands are satisfied and nobody holds the address,** on
  any store that a sequence of calls leaves, and adds one account.
-/

namespace Gatehouse

open Http (Request Response)
open Program (inMemory)

def Store.IsFree (s : Store) (email : String) : Prop := ∀ id a, s.account? id = some a → a.profile.email ≠ email

/-- **A registration whose password can be hashed** finds its address taken, or adds an account under the next id with a
hash that the password passes. -/
theorem Service.signUp_of_hash {ρ : Type} (client : Relations.Client ρ) {scheme : Password.Scheme} {occasion : Occasion}
    {r : Registration} (hhash : ∃ text, scheme.hash occasion.salt r.password = .ok text) {s : Store} (hs : s.WellFormed)
    (p : ρ) :
    let run := (signUp scheme occasion r).runWith (inMemory client) (s, p)
    (¬ s.IsFree r.profile.email ∧ run = (.error .accountExists, (s, p))) ∨
      (s.IsFree r.profile.email ∧ ∃ hash, scheme.verify hash r.password = .ok true ∧
        run = (.ok (s.lastId + 1), ((s.add ⟨r.profile, hash, occasion.now⟩).2, p))) := by
  intro run
  rcases signUp_cases scheme occasion r s p with ⟨hnone, -⟩ | ⟨a, ha, hrun⟩ | ⟨tag, htag, hfree, hrun⟩
  · obtain ⟨text, htext⟩ := hhash
    rw [Password.Scheme.hash_of_none hnone] at htext
    cases htext
  · obtain ⟨hid, he⟩ := hs.holder?_eq_some_iff.1 ha
    exact .inl ⟨fun hfree => hfree a.id a hid he, hrun⟩
  · have hverify : scheme.verify (Password.Scheme.freshText occasion.salt tag) r.password = .ok true := by
      rw [Password.Scheme.verify_freshText occasion.salt (Password.Scheme.length_of_output? htag), htag]
      simp
    exact .inr ⟨hs.holder?_eq_none_iff.1 hfree, _, hverify, hrun⟩

lemma Access.Policy.signUp_public : standard.allowed? "Auth.SignUp" = none := by decide

namespace Api

/-! ## Demands -/

/-- Something that a registration has to satisfy, with the message of its failure. -/
structure Demand where
  holds : Prop
  message : String

/-- A text with a character that is not blank. -/
def HasText (s : String) : Prop := ∃ c ∈ s.toList, Text.isBlank c = false

/-- **What a registration has to satisfy,** in order. -/
def demands (r : Registration) : List Demand :=
  [⟨Email.isValid (normalEmail r.profile.email) = true, "email format is invalid"⟩,
    ⟨HasText r.password, "password is required"⟩,
    ⟨r.password.utf8ByteSize < 72, "password is too long"⟩,
    ⟨HasText r.profile.phoneNumber, "phone number is required"⟩,
    ⟨HasText r.profile.name, "name is required"⟩,
    ⟨HasText r.profile.surname, "surname is required"⟩]

/-- All demands on a registration are satisfied. -/
def IsAcceptable (r : Registration) : Prop := ∀ d ∈ demands r, d.holds

lemma isAcceptable_iff {r : Registration} : IsAcceptable r ↔
    Email.isValid (normalEmail r.profile.email) = true ∧ HasText r.password ∧ r.password.utf8ByteSize < 72 ∧
      HasText r.profile.phoneNumber ∧ HasText r.profile.name ∧ HasText r.profile.surname := by
  simp [IsAcceptable, demands]

instance : DecidablePred HasText := fun s => List.decidableBEx (Text.isBlank · = false) s.toList

instance : DecidablePred IsAcceptable := fun _ => decidable_of_iff' _ isAcceptable_iff

/-- A message is that of the first demand that a registration does not satisfy. -/
def FailsFirst (r : Registration) (message : String) : Prop :=
  ∃ front d behind, demands r = front ++ d :: behind ∧ (∀ e ∈ front, e.holds) ∧ ¬ d.holds ∧ d.message = message

/-- A check passes where the demand is satisfied, and refuses with the message of the demand where it is not. -/
def Demand.IsCheckedBy (d : Demand) (check : Except Fault Unit) : Prop :=
  (d.holds ∧ check = .ok ()) ∨ (¬ d.holds ∧ check = .error (.validation d.message))

lemma isCheckedBy_checkEmail (email : String) :
    Demand.IsCheckedBy ⟨Email.isValid email = true, "email format is invalid"⟩ (checkEmail email) := by
  unfold checkEmail
  by_cases h : Email.isValid email = true
  · exact .inl ⟨h, if_pos h⟩
  · exact .inr ⟨h, if_neg h⟩

lemma isBlankText_iff {s : String} : Text.isBlankText s = true ↔ ¬ HasText s := by
  unfold Text.isBlankText HasText
  simp

lemma isCheckedBy_required {text what message : String} (hm : what ++ " is required" = message) :
    Demand.IsCheckedBy ⟨HasText text, message⟩ (required text what) := by
  unfold required
  by_cases h : Text.isBlankText text = true
  · exact .inr ⟨isBlankText_iff.1 h, by rw [if_pos h, hm]⟩
  · exact .inl ⟨not_not.1 fun hno => h (isBlankText_iff.2 hno), if_neg h⟩

lemma isCheckedBy_checkLength (password : String) :
    Demand.IsCheckedBy ⟨password.utf8ByteSize < 72, "password is too long"⟩ (Password.checkLength password) := by
  unfold Password.checkLength
  by_cases h : Password.maxBytes ≤ password.utf8ByteSize
  · exact .inr ⟨Nat.not_lt.2 h, if_pos h⟩
  · exact .inl ⟨Nat.not_le.1 h, if_neg h⟩

def checkAll : List (Except Fault Unit) → Except Fault Unit
  | [] => .ok ()
  | check :: checks => check >>= fun _ => checkAll checks

/-- **Checks in order** pass where all demands are satisfied, and refuse with the message of the first that is not. -/
lemma checkAll_cases {ds : List Demand} {checks : List (Except Fault Unit)}
    (h : List.Forall₂ Demand.IsCheckedBy ds checks) :
    ((∀ d ∈ ds, d.holds) ∧ checkAll checks = .ok ()) ∨
      ∃ front d behind, ds = front ++ d :: behind ∧ (∀ e ∈ front, e.holds) ∧ ¬ d.holds ∧
        checkAll checks = .error (.validation d.message) := by
  induction h with
  | nil => exact .inl ⟨by simp, rfl⟩
  | @cons d check ds checks hcheck _ ih =>
    rcases hcheck with ⟨hd, rfl⟩ | ⟨hd, rfl⟩
    · rcases ih with ⟨hall, hok⟩ | ⟨front, e, behind, rfl, hfront, he, herror⟩
      · exact .inl ⟨List.forall_mem_cons.2 ⟨hd, hall⟩, hok⟩
      · exact .inr ⟨d :: front, e, behind, rfl, List.forall_mem_cons.2 ⟨hd, hfront⟩, he, herror⟩
    · exact .inr ⟨[], d, ds, rfl, by simp, hd, rfl⟩

def registrationChecks (r : Registration) : List (Except Fault Unit) :=
  [checkEmail (normalEmail r.profile.email), required r.password "password", Password.checkLength r.password,
    required r.profile.phoneNumber "phone number", required r.profile.name "name",
    required r.profile.surname "surname"]

lemma checkRegistration_eq (r : Registration) : checkRegistration r =
    checkAll (registrationChecks r) >>= fun _ => pure ⟨normalProfile r.profile, r.password⟩ := by
  simp only [registrationChecks, checkAll, bind_assoc]
  rfl

/-- **A registration** is tidied if it satisfies all demands, and otherwise refused by the first one that it does not
satisfy. -/
theorem checkRegistration_cases (r : Registration) :
    (IsAcceptable r ∧ checkRegistration r = .ok ⟨normalProfile r.profile, r.password⟩) ∨
      (¬ IsAcceptable r ∧ ∃ message, FailsFirst r message ∧ checkRegistration r = .error (.validation message)) := by
  have hchecks : List.Forall₂ Demand.IsCheckedBy (demands r) (registrationChecks r) :=
    .cons (isCheckedBy_checkEmail _) <| .cons (isCheckedBy_required rfl) <| .cons (isCheckedBy_checkLength _) <|
      .cons (isCheckedBy_required rfl) <| .cons (isCheckedBy_required rfl) <| .cons (isCheckedBy_required rfl) .nil
  rw [checkRegistration_eq]
  rcases checkAll_cases hchecks with ⟨hall, hok⟩ | ⟨front, d, behind, hsplit, hfront, hd, herror⟩
  · rw [hok]
    exact .inl ⟨hall, rfl⟩
  · rw [herror]
    refine .inr ⟨fun hall => hd (hall d ?_), d.message, ⟨front, d, behind, hsplit, hfront, hd, rfl⟩, rfl⟩
    rw [hsplit]
    exact List.mem_append_right _ List.mem_cons_self

/-! ## Requests -/

variable {ρ : Type} {app : Application} {occasion : Occasion} {request : Request} {r : Registration}

/-- The request is one to sign up: it comes by the method of the route, is announced as JSON, and its body is an object
that is a form. A registration is what the form tells, with empty texts for what it leaves out. -/
structure SignsUp (request : Request) (r : Registration) : Prop where
  method : request.method = "POST"
  route : Route.ofPath? (pathOf request.target) = some .signUp
  json : Http.announcesJson request.headers = true
  body : IsSignUpForm request.body r

lemma SignsUp.passage (h : SignsUp request r) (hpublic : app.policy.allowed? "Auth.SignUp" = none) (now : Moment) :
    Api.passage app now request.method request.target request.headers = .handled .signUp none := by
  have hopen : ∀ operation, Route.signUp.operation? = some operation → app.policy.allowed? operation = none := by
    rintro _ ⟨⟩
    exact hpublic
  have hpost : Route.signUp.methods.contains request.method = true := by
    rw [h.method]
    decide
  exact passage_of_admission (admission_of_public h.route hopen now request.headers) h.route hpost

lemma SignsUp.readBody (h : SignsUp request r) :
    Api.readBody readSignUp request =
      if maxBodyBytes < request.body.length then .error .tooLarge else .ok r := by
  obtain ⟨rest, hread⟩ := h.body.readSignUp
  have hjson : ¬ (!Http.announcesJson request.headers) = true := by simp [h.json]
  unfold Api.readBody
  rw [if_neg hjson, Json.readFront, hread]
  rfl

lemma respond_of_large (h : SignsUp request r) (hpublic : app.policy.allowed? "Auth.SignUp" = none)
    (hlarge : maxBodyBytes < request.body.length) : respond app occasion request = pure (refusalAnswer .tooLarge) := by
  have hbody : readBody readSignUp request = .error .tooLarge := by rw [h.readBody, if_pos hlarge]
  rw [respond_eq_passage, h.passage hpublic]
  simp only [handle, withBody, hbody]
  rfl

section Small

variable (h : SignsUp request r) (hpublic : app.policy.allowed? "Auth.SignUp" = none)
  (hsmall : request.body.length ≤ maxBodyBytes)
include h hpublic hsmall

lemma respond_of_unacceptable {fault : Fault} (hc : checkRegistration r = .error fault) :
    respond app occasion request = pure (faultAnswer fault) := by
  have hbody : readBody readSignUp request = .ok r := by rw [h.readBody, if_neg (Nat.not_lt.2 hsmall)]
  rw [respond_eq_passage, h.passage hpublic]
  simp only [handle, withBody, hbody, signUpAction, perform_ofExcept_bind, hc]
  rfl

lemma respond_of_checked {tidied : Registration} (hc : checkRegistration r = .ok tidied) :
    respond app occasion request = perform (Service.signUp app.scheme occasion tidied) fun id =>
      jsonAnswer [("user_id", Json.writeInt id)] := by
  have hbody : readBody readSignUp request = .ok r := by rw [h.readBody, if_neg (Nat.not_lt.2 hsmall)]
  exact respond_of_asks (h.passage hpublic occasion.now) (.signUp hbody hc)

end Small

/-- **The four ends of a request to sign up:** its body is too large, it fails a check, somebody holds its address, or
an account is added. -/
theorem respond_signsUp_cases (client : Relations.Client ρ) (h : SignsUp request r)
    (hpublic : app.policy.allowed? "Auth.SignUp" = none)
    (hhash : ∀ plain : String, plain.utf8ByteSize < 72 → ∃ text, app.scheme.hash occasion.salt plain = .ok text)
    {s : Store} (hs : s.WellFormed) (p : ρ) :
    let result := (respond app occasion request).run (inMemory client) (s, p)
    let email := normalEmail r.profile.email
    (maxBodyBytes < request.body.length ∧
      result = (answer 413 (.text "Failed to buffer the request body: length limit exceeded"), (s, p))) ∨
    request.body.length ≤ maxBodyBytes ∧
      ((¬ IsAcceptable r ∧ ∃ message, FailsFirst r message ∧ result = (answer 400 (.text message), (s, p))) ∨
      (IsAcceptable r ∧ ¬ s.IsFree email ∧ result = (answer 409 (.text "user already exists"), (s, p))) ∨
      (IsAcceptable r ∧ s.IsFree email ∧ ∃ hash, app.scheme.verify hash r.password = .ok true ∧
        result = (jsonAnswer [("user_id", Json.writeInt (s.lastId + 1))],
          ((s.add ⟨normalProfile r.profile, hash, occasion.now⟩).2, p)))) := by
  intro result email
  rcases Nat.lt_or_ge maxBodyBytes request.body.length with hlarge | hsmall
  · refine .inl ⟨hlarge, ?_⟩
    show (respond app occasion request).run (inMemory client) (s, p) = _
    rw [respond_of_large h hpublic hlarge]
    rfl
  · refine .inr ⟨hsmall, ?_⟩
    rcases checkRegistration_cases r with ⟨hok, hcheck⟩ | ⟨hno, message, hfirst, hcheck⟩
    · have hlength : r.password.utf8ByteSize < 72 := (isAcceptable_iff.1 hok).2.2.1
      have hresult : result = (perform (Service.signUp app.scheme occasion ⟨normalProfile r.profile, r.password⟩)
          fun id => jsonAnswer [("user_id", Json.writeInt id)]).run (inMemory client) (s, p) :=
        congrArg (fun program => program.run (inMemory client) (s, p)) (respond_of_checked h hpublic hsmall hcheck)
      have hsign := Service.signUp_of_hash client (r := ⟨normalProfile r.profile, r.password⟩)
        (hhash r.password hlength) hs p
      rw [run_perform] at hresult
      rcases hsign with ⟨hheld, hrun⟩ | ⟨hfree, hash, hverify, hrun⟩
      · rw [hrun] at hresult
        exact .inr (.inl ⟨hok, hheld, hresult⟩)
      · rw [hrun] at hresult
        exact .inr (.inr ⟨hok, hfree, hash, hverify, hresult⟩)
    · refine .inl ⟨hno, message, hfirst, ?_⟩
      show (respond app occasion request).run (inMemory client) (s, p) = _
      rw [respond_of_unacceptable h hpublic hsmall hcheck]
      rfl

/-- **Who may sign up,** on any store that a sequence of calls leaves. A form in a body of at most two megabytes is
accepted exactly if the address, tidied, has the shape of one, the password has a character that is not blank and fewer
than 72 bytes, phone number, name and surname have characters that are not blank, and no account holds the tidied
address. Then the answer tells the next id, and exactly one account is added: under that id, for a plain user in no
family, with the tidied address, the trimmed phone number, name and surname, and a hash that the password passes as it
was sent. Otherwise nothing changes, and the answer is 400 with the message of the first demand that is not satisfied,
or 409 if all are and only the address is taken. A larger body is refused with 413, and nothing changes. The scheme has
to hash the passwords that are not too long, as Argon2 does (`Password.Scheme.exists_hash_argon2`). -/
theorem signUp_exact {ρ : Type} (client : Relations.Client ρ) (peer : ρ) (calls : List Store.Call) {app : Application}
    {occasion : Occasion} {request : Request} {r : Registration} (hrequest : SignsUp request r)
    (hpublic : app.policy.allowed? "Auth.SignUp" = none)
    (hhash : ∀ plain : String, plain.utf8ByteSize < 72 → ∃ text, app.scheme.hash occasion.salt plain = .ok text) :
    let s := Store.empty.serveAll calls
    let email := normalEmail r.profile.email
    let result := (respond app occasion request).run (inMemory client) (s, peer)
    (request.body.length ≤ maxBodyBytes →
      (result.1.status = 200 ↔ IsAcceptable r ∧ s.IsFree email) ∧
      (result.1.status = 200 → ∃ hash, app.scheme.verify hash r.password = .ok true ∧
        let id : Int := s.lastId + 1
        let profile : Profile := ⟨email, Text.trim r.profile.phoneNumber, Text.trim r.profile.name,
          Text.trim r.profile.surname⟩
        let added : Account := ⟨id, profile, hash, occasion.now, .user, []⟩
        result = (jsonAnswer [("user_id", Json.writeInt id)], (⟨s.lastId + 1, s.accounts ++ [(id, added)]⟩, peer))) ∧
      (result.1.status ≠ 200 →
        (∃ message, FailsFirst r message ∧ result = (answer 400 (.text message), (s, peer))) ∨
        (IsAcceptable r ∧ ¬ s.IsFree email ∧ result = (answer 409 (.text "user already exists"), (s, peer))))) ∧
    (maxBodyBytes < request.body.length →
      result = (answer 413 (.text "Failed to buffer the request body: length limit exceeded"), (s, peer))) := by
  intro s email result
  have hs : s.WellFormed := Store.wellFormed_empty.serveAll calls
  rcases respond_signsUp_cases client hrequest hpublic hhash hs peer with
    ⟨hlarge, hresult⟩ | ⟨hsmall, hcases⟩
  · exact ⟨fun hsmall => absurd hlarge (Nat.not_lt.2 hsmall), fun _ => hresult⟩
  · refine ⟨fun _ => ?_, fun hlarge => absurd hlarge (Nat.not_lt.2 hsmall)⟩
    rcases hcases with ⟨hno, message, hfirst, hresult⟩ | ⟨hok, hheld, hresult⟩ | ⟨hok, hfree, hash, hverify, hresult⟩
    · have hstatus : result.1.status ≠ 200 := by
        rw [show result = _ from hresult]
        exact (by decide : (400 : Nat) ≠ 200)
      refine ⟨⟨fun h => absurd h hstatus, fun h => absurd h.1 hno⟩, fun h => absurd h hstatus, fun _ => ?_⟩
      exact .inl ⟨message, hfirst, hresult⟩
    · have hstatus : result.1.status ≠ 200 := by
        rw [show result = _ from hresult]
        exact (by decide : (409 : Nat) ≠ 200)
      refine ⟨⟨fun h => absurd h hstatus, fun h => absurd h.2 hheld⟩, fun h => absurd h hstatus, fun _ => ?_⟩
      exact .inr ⟨hok, hheld, hresult⟩
    · have hstatus : result.1.status = 200 := by
        rw [show result = _ from hresult]
        rfl
      exact ⟨⟨fun _ => ⟨hok, hfree⟩, fun _ => hstatus⟩, fun _ => ⟨hash, hverify, hresult⟩,
        fun h => absurd hstatus h⟩

/-- Somebody signs up on an empty store, with blanks and capitals in the form and a member that nobody asks for: the
account is added, with everything but the password tidied. -/
theorem signUp_exact_tidied :
    let settings : Settings := ⟨none, ⟨"secret", 60⟩, "pepper", "http://127.0.0.1:8081", 5, 10, none⟩
    let app := Startup.applicationOf settings Password.argon2
    let occasion : Occasion := ⟨Moment.utc 0, Vector.replicate 16 7⟩
    let body : Bytes := utf8 ("\x7b\"email\":\" A@X.com\",\"password\":\" q \",\"phone_number\":\"1\"," ++
      "\"name\":\"a \",\"age\":[7],\"surname\":\"b\"\x7d")
    let request : Request := ⟨"POST", "/Auth/SignUp", [("content-type", utf8 "application/json")], body⟩
    let r : Registration := ⟨⟨" A@X.com", "1", "a ", "b"⟩, " q "⟩
    let result := (respond app occasion request).run (inMemory Startup.noClient) (Store.empty, ())
    SignsUp request r ∧ ∃ hash, app.scheme.verify hash " q " = .ok true ∧
      result.2.1.accounts = [(1, ⟨1, ⟨"a@x.com", "1", "a", "b"⟩, hash, Moment.utc 0, .user, []⟩)] := by
  intro settings app occasion body request r result
  have hbody : IsSignUpForm request.body r :=
    isSignUpForm_of_readSignUp (by decide +kernel) (by decide +kernel) (by decide +kernel)
  have hrequest : SignsUp request r := ⟨rfl, by decide +kernel, by decide +kernel, hbody⟩
  have hlength : request.body.length ≤ maxBodyBytes := by decide +kernel
  have hpepper : settings.pepper.utf8ByteSize + Password.maxBytes ≤ 0x100000000 := by decide +kernel
  have hacceptable : IsAcceptable r := by decide +kernel
  have hfree : Store.empty.IsFree (normalEmail r.profile.email) := by
    rintro id a ⟨⟩
  have hhash : ∀ plain : String, plain.utf8ByteSize < 72 → ∃ text, app.scheme.hash occasion.salt plain = .ok text :=
    fun plain hplain => Password.Scheme.exists_hash_argon2 hpepper occasion.salt hplain
  have hexact := (signUp_exact Startup.noClient () [] hrequest Access.Policy.signUp_public hhash).1 hlength
  obtain ⟨hash, hverify, hresult⟩ := hexact.2.1 (hexact.1.2 ⟨hacceptable, hfree⟩)
  have hprofile : normalProfile r.profile = ⟨"a@x.com", "1", "a", "b"⟩ := by decide +kernel
  have hresult : result = (jsonAnswer [("user_id", Json.writeInt 1)],
      (⟨1, [(1, ⟨1, normalProfile r.profile, hash, Moment.utc 0, .user, []⟩)]⟩, ())) := hresult
  clear_value result
  rw [hresult, hprofile]
  exact ⟨hrequest, hash, hverify, rfl⟩

/-- The size of a body is limited: a form that satisfies all demands, behind two megabytes of blanks, is refused by an
empty store. -/
theorem large_signUp_refused :
    let settings : Settings := ⟨none, ⟨"secret", 60⟩, "pepper", "http://127.0.0.1:8081", 5, 10, none⟩
    let app := Startup.applicationOf settings Password.argon2
    let occasion : Occasion := ⟨Moment.utc 0, Vector.replicate 16 7⟩
    let request : Request := ⟨"POST", "/Auth/SignUp", [("content-type", utf8 "application/json")],
      List.replicate maxBodyBytes 32 ++ utf8
        "\x7b\"email\":\"a@x.com\",\"password\":\"q\",\"phone_number\":\"1\",\"name\":\"a\",\"surname\":\"b\"\x7d"⟩
    let r : Registration := ⟨⟨"a@x.com", "1", "a", "b"⟩, "q"⟩
    SignsUp request r ∧ IsAcceptable r ∧ Store.empty.IsFree (normalEmail r.profile.email) ∧
      (respond app occasion request).run (inMemory Startup.noClient) (Store.empty, ()) =
        (answer 413 (.text "Failed to buffer the request body: length limit exceeded"), (Store.empty, ())) := by
  have hform : IsSignUpForm
      (utf8 "\x7b\"email\":\"a@x.com\",\"password\":\"q\",\"phone_number\":\"1\",\"name\":\"a\",\"surname\":\"b\"\x7d")
      ⟨⟨"a@x.com", "1", "a", "b"⟩, "q"⟩ :=
    isSignUpForm_of_readSignUp (by decide +kernel) (by decide +kernel) (by decide +kernel)
  intro settings app occasion request r
  have hblanks : ∀ b ∈ List.replicate maxBodyBytes (32 : UInt8), Json.isSpace b = true := by
    intro b hb
    rw [List.eq_of_mem_replicate hb]
    rfl
  have hrequest : SignsUp request r := ⟨rfl, by decide +kernel, by decide +kernel, hform.behind_blanks hblanks⟩
  have hlarge : maxBodyBytes < request.body.length := by
    show maxBodyBytes < (List.replicate maxBodyBytes (32 : UInt8) ++ utf8 _).length
    rw [List.length_append, List.length_replicate, length_utf8]
    exact Nat.lt_add_of_pos_right (by decide +kernel)
  have hacceptable : IsAcceptable r := by decide +kernel
  have hfree : Store.empty.IsFree (normalEmail r.profile.email) := by
    rintro id a ⟨⟩
  have hrespond : respond app occasion request = pure (refusalAnswer .tooLarge) :=
    respond_of_large hrequest Access.Policy.signUp_public hlarge
  refine ⟨hrequest, hacceptable, hfree, ?_⟩
  rw [hrespond]
  rfl

end Api

end Gatehouse
