import Gatehouse.Proofs.Service.Deletion
import Gatehouse.Proofs.Service.Identity
import Gatehouse.Proofs.Service.Operation
import Gatehouse.Proofs.Store.Frame
import Gatehouse.Proofs.Token.Expiry
import Gatehouse.Proofs.Token.RoundTrip

/-!
# Signing in behind a run

* `Event.write?`, `Trace.lastWrite?` — the passwords that a run gives to accounts, and the last one of an account;
* `Store.Readable` — every stored hash can be read; every operation keeps this;
* `Trace.Credentials` — every account has the hash of the password that was written last for it, and what was
  deleted stays away; every operation keeps this;
* `signIn_behind_run` — who gets a token behind a run, and what the token says.
-/

namespace Gatehouse

open Password (Scheme)
open Password.Scheme (freshText)

/-! ## Hashes that can be read -/

/-- The hash of every account can be read. -/
def Store.Readable (s : Store) : Prop := ∀ id a, s.account? id = some a → ∃ hash, Phc.parse? a.passwordHash = some hash

lemma Store.Readable.exists_verify {s : Store} {id : Int} {a : Account} (h : s.Readable) (ha : s.account? id = some a)
    (scheme : Scheme) (password : String) : ∃ known, scheme.verify a.passwordHash password = .ok known := by
  obtain ⟨hash, hparse⟩ := h id a ha
  exact ⟨scheme.isTagOf hash password, by rw [Scheme.verify, hparse]⟩

/-! ## Passwords and deletions of a run -/

/-- A password that was given to an account, and the salt of the hash that was made from it. -/
structure PasswordWrite where
  salt : Password.Salt
  password : String

namespace Event

/-- The password that an event gave to the account of `id`: by creating the account or by changing its password. -/
def write? (id : Int) : Event → Option PasswordWrite
  | ⟨.signUp occasion r, _, .ok new⟩ => if new = id then some ⟨occasion.salt, r.password⟩ else none
  | ⟨.ensureAdmin occasion _ password, before, .ok found⟩ =>
    if found = id ∧ before.account? id = none then some ⟨occasion.salt, password⟩ else none
  | ⟨.changePassword salt i _ new, _, .ok _⟩ => if i = id then some ⟨salt, new⟩ else none
  | _ => none

def Deletes (id : Int) : Event → Prop
  | ⟨.deleteRecord i, _, .ok _⟩ => i = id
  | ⟨.deleteEverywhere i, _, .ok _⟩ => i = id
  | _ => False

end Event

variable {ρ : Type} {scheme : Scheme} {authority : Token.Authority} {client : Relations.Client ρ} {t : Trace ρ}

/-- The password that was written last for the account of `id`. -/
def Trace.lastWrite? (t : Trace ρ) (id : Int) : Option PasswordWrite := t.history.findSome? (·.write? id)

def Trace.Deleted (t : Trace ρ) (id : Int) : Prop := ∃ e ∈ t.history, e.Deletes id

/-! ## One operation -/

def Operation.WritesNoPassword : Operation → Prop
  | signUp .. | ensureAdmin .. | changePassword .. => False
  | _ => True

lemma Operation.May.writesNoPassword {o : Operation} {c : Store.Call} (hc : o.May (.store c))
    (ho : o.WritesNoPassword) : c.WritesNoPassword := by
  cases o <;> cases c <;> trivial

lemma Event.write?_of_writesNoPassword {o : Operation} (ho : o.WritesNoPassword) (s : Store)
    (outcome : Except Fault o.Answer) (id : Int) : Event.write? id ⟨o, s, outcome⟩ = none := by
  cases o <;> first | rfl | exact ho.elim

lemma Event.write?_error (o : Operation) (s : Store) (fault : Fault) (id : Int) :
    Event.write? id ⟨o, s, .error fault⟩ = none := by
  cases o <;> rfl

namespace Trace

lemma keepsIds_perform (t : Trace ρ) (o : Operation) :
    t.store.KeepsIds (t.perform scheme authority client o).store :=
  Program.run_keepsIds _ client t.store t.peer

/-- The account has the hash of the password that the event gave it; if the event gave it none, it was in the store
`s` with the hash that it has. -/
def HasHash (scheme : Scheme) (s : Store) (e : Event) (id : Int) (b : Account) : Prop :=
  (∃ w tag, e.write? id = some w ∧ scheme.output? w.salt w.password = some tag ∧
    b.passwordHash = freshText w.salt tag) ∨
  (e.write? id = none ∧ ∃ a, s.account? id = some a ∧ a.passwordHash = b.passwordHash)

section Perform

variable {id : Int} {b : Account}

lemma hasHash_of_keeps {s u : Store} {e : Event} (hs : s.KeepsPasswords u) (he : e.write? id = none)
    (hb : u.account? id = some b) : HasHash scheme s e id b :=
  .inr ⟨he, (hs.2 id b hb).resolve_right And.right⟩

lemma hasHash_signUp {s : Store} (h : s.WellFormed) {occasion : Occasion} {r : Registration} {tag : Bytes}
    (ho : scheme.output? occasion.salt r.password = some tag)
    (hb : (s.add ⟨r.profile, freshText occasion.salt tag, occasion.now⟩).2.account? id = some b) :
    HasHash scheme s ⟨.signUp occasion r, s, .ok ((s.lastId : Int) + 1)⟩ id b := by
  by_cases hid : (s.lastId : Int) + 1 = id
  · subst hid
    rw [h.account?_add_self] at hb
    cases hb
    exact .inl ⟨⟨occasion.salt, r.password⟩, tag, if_pos rfl, ho, rfl⟩
  · rw [Store.account?_add, if_neg (Ne.symm hid), Option.or_none] at hb
    exact .inr ⟨if_neg hid, b, hb, rfl⟩

lemma hasHash_changePassword {s : Store} {salt : Password.Salt} {i : Int} {old new : String} {a : Account} {tag : Bytes}
    (ha : s.account? i = some a) (ho : scheme.output? salt new = some tag)
    (hb : (s.put i { a with passwordHash := freshText salt tag }).account? id = some b) :
    HasHash scheme s ⟨.changePassword salt i old new, s, .ok ()⟩ id b := by
  by_cases hid : i = id
  · subst hid
    rw [Store.account?_put_self ha] at hb
    cases hb
    exact .inl ⟨⟨salt, new⟩, tag, if_pos rfl, ho, rfl⟩
  · rw [Store.account?_put_of_ne (Ne.symm hid)] at hb
    exact .inr ⟨if_neg hid, b, hb, rfl⟩

lemma hasHash_newAdmin {s : Store} (h : s.WellFormed) {occasion : Occasion} {email password : String} {tag : Bytes}
    {n : NewAccount} (hn : n.passwordHash = freshText occasion.salt tag)
    (ho : scheme.output? occasion.salt password = some tag)
    (hb : ((s.add n).2.put (s.lastId + 1) { n.withId (s.lastId + 1) with role := .admin }).account? id = some b) :
    HasHash scheme s ⟨.ensureAdmin occasion email password, s, .ok ((s.lastId : Int) + 1)⟩ id b := by
  by_cases hid : (s.lastId : Int) + 1 = id
  · subst hid
    rw [Store.account?_put_self (h.account?_add_self n)] at hb
    cases hb
    exact .inl ⟨⟨occasion.salt, password⟩, tag, if_pos ⟨rfl, h.account?_eq_none_of_lt (by omega)⟩, ho, hn⟩
  · rw [Store.account?_put_of_ne (Ne.symm hid), Store.account?_add, if_neg (Ne.symm hid), Option.or_none] at hb
    exact .inr ⟨if_neg fun hc => hid hc.1, b, hb, rfl⟩

lemma hasHash_promoted {s : Store} {occasion : Occasion} {email password : String} {a : Account}
    (ha : s.account? a.id = some a) (hb : (s.put a.id { a with role := .admin }).account? id = some b) :
    HasHash scheme s ⟨.ensureAdmin occasion email password, s, .ok a.id⟩ id b := by
  have hkeeps : s.KeepsPasswords (s.put a.id { a with role := .admin }) := .put ha rfl
  refine hasHash_of_keeps hkeeps (if_neg ?_) hb
  rintro ⟨rfl, hn⟩
  rw [ha] at hn
  cases hn

lemma hasHash_refused {o : Operation} {fault : Fault}
    (hrun : (o.action scheme authority).runWith (Program.inMemory client) (t.store, t.peer) =
      (.error fault, (t.store, t.peer)))
    (hb : (t.perform scheme authority client o).store.account? id = some b) :
    HasHash scheme t.store (t.event scheme authority client o) id b := by
  rw [store_perform hrun] at hb
  rw [event_eq hrun]
  exact hasHash_of_keeps (.refl _) (Event.write?_error o _ fault id) hb

lemma hasHash_of_writesNoPassword {o : Operation} (ho : o.WritesNoPassword)
    (hb : (t.perform scheme authority client o).store.account? id = some b) :
    HasHash scheme t.store (t.event scheme authority client o) id b := by
  have hkeeps : t.store.KeepsPasswords (t.perform scheme authority client o).store :=
    Program.run_preserves Store.Keeps.refl Store.Keeps.trans
      (fun c hc s => Store.keepsPasswords_serve (hc.writesNoPassword ho) s) client o.makes t.store t.peer
  exact hasHash_of_keeps hkeeps (Event.write?_of_writesNoPassword ho _ _ id) hb

/-- **What one operation does to hashes.** An account has the hash of the password that the operation gave it; if
the operation gave it none, it was there before and has the hash that it had. -/
theorem hasHash_perform (h : t.store.WellFormed) (o : Operation)
    (hb : (t.perform scheme authority client o).store.account? id = some b) :
    HasHash scheme t.store (t.event scheme authority client o) id b := by
  cases o with
  | signUp occasion r =>
    rcases Service.signUp_cases scheme occasion r t.store t.peer with
      ⟨-, detail, hrun⟩ | ⟨a, -, hrun⟩ | ⟨tag, ho, -, hrun⟩
    · exact hasHash_refused hrun hb
    · exact hasHash_refused hrun hb
    · rw [store_perform hrun] at hb
      rw [event_eq hrun]
      exact hasHash_signUp h ho hb
  | ensureAdmin occasion email password =>
    rcases Service.ensureAdmin_cases scheme occasion email password h t.peer with
      ⟨fault, hrun⟩ | ⟨tag, n, ho, -, rfl, hrun⟩ | ⟨a, ha, -, hrun⟩
    · exact hasHash_refused hrun hb
    · rw [store_perform hrun] at hb
      rw [event_eq hrun]
      exact hasHash_newAdmin h rfl ho hb
    · rw [store_perform hrun] at hb
      rw [event_eq hrun]
      exact hasHash_promoted (h.holder?_eq_some_iff.1 ha).1 hb
  | changePassword salt i old new =>
    rcases Service.changePassword_cases scheme salt i old new t.store t.peer with
      ⟨fault, hrun⟩ | ⟨a, tag, ha, -, ho, hrun⟩
    · exact hasHash_refused hrun hb
    · rw [store_perform hrun] at hb
      rw [event_eq hrun]
      exact hasHash_changePassword ha ho hb
  | signIn | getProfile | isAdmin | updateProfile | addFamilyLink | removeFamilyLink | deleteRecord
  | deleteEverywhere =>
    exact hasHash_of_writesNoPassword trivial hb

end Perform

/-- **An operation keeps all hashes readable:** it leaves a hash as it was, or writes a fresh one. -/
theorem readable_perform (h : t.store.WellFormed) (hread : t.store.Readable) (o : Operation) :
    (t.perform scheme authority client o).store.Readable := by
  intro id b hb
  rcases hasHash_perform h o hb with ⟨w, tag, -, ho, hhash⟩ | ⟨-, a, ha, hhash⟩
  · rw [hhash]
    exact ⟨_, Password.parse?_freshText w.salt (Scheme.length_of_output? ho)⟩
  · rw [← hhash]
    exact hread id a ha

/-- An account that an operation deletes was there, and is gone behind it. -/
lemma account?_of_deletes {o : Operation} {id : Int} (h : (t.event scheme authority client o).Deletes id) :
    (∃ a, t.store.account? id = some a) ∧ (t.perform scheme authority client o).store.account? id = none := by
  cases o with
  | deleteRecord i =>
    rcases hrun : ((Operation.deleteRecord i).action scheme authority).runWith (Program.inMemory client)
      (t.store, t.peer) with ⟨fault | u, s, r⟩
    · rw [event_eq hrun] at h
      exact h.elim
    · rw [event_eq hrun] at h
      rw [store_perform hrun, ← show i = id from h]
      exact Deletion.account?_of_deleteRecord hrun
  | deleteEverywhere i =>
    rcases hrun : ((Operation.deleteEverywhere i).action scheme authority).runWith (Program.inMemory client)
      (t.store, t.peer) with ⟨fault | u, s, r⟩
    · rw [event_eq hrun] at h
      exact h.elim
    · rw [event_eq hrun] at h
      rw [store_perform hrun, ← show i = id from h]
      exact Deletion.account?_of_deleteEverywhere hrun
  | _ => exact h.elim

/-! ## Whole runs -/

lemma lastWrite?_perform (t : Trace ρ) (o : Operation) (id : Int) :
    (t.perform scheme authority client o).lastWrite? id =
      ((t.event scheme authority client o).write? id).or (t.lastWrite? id) := by
  show (t.event scheme authority client o :: t.history).findSome? (·.write? id) = _
  rw [List.findSome?_cons]
  cases (t.event scheme authority client o).write? id <;> rfl

/-- The store of a run is well-formed, every account has the hash of the password that was written last for it, and
no account that was deleted is there. -/
structure Credentials (scheme : Scheme) (t : Trace ρ) : Prop where
  wellFormed : t.store.WellFormed
  password : ∀ id a, t.store.account? id = some a → ∃ w tag, t.lastWrite? id = some w ∧
    scheme.output? w.salt w.password = some tag ∧ a.passwordHash = freshText w.salt tag
  deleted : ∀ id, t.Deleted id → id ≤ t.store.lastId ∧ t.store.account? id = none

lemma credentials_start (peer : ρ) : (start peer).Credentials scheme where
  wellFormed := Store.wellFormed_empty
  password := by intro id a ha; cases ha
  deleted := by rintro id ⟨e, he, -⟩; cases he

/-- **Every operation keeps the credentials of all accounts in order.** -/
theorem Credentials.perform (h : t.Credentials scheme) (o : Operation) :
    (t.perform scheme authority client o).Credentials scheme where
  wellFormed := perform_wellFormed h.wellFormed o
  password := by
    intro id b hb
    rw [lastWrite?_perform]
    rcases hasHash_perform h.wellFormed o hb with ⟨w, tag, hw, ho, hhash⟩ | ⟨hw, a, ha, hhash⟩
    · exact ⟨w, tag, by rw [hw]; rfl, ho, hhash⟩
    · obtain ⟨w, tag, hlast, ho, hold⟩ := h.password id a ha
      exact ⟨w, tag, by rw [hw, hlast]; rfl, ho, hhash.symm.trans hold⟩
  deleted := by
    rintro id ⟨e, he, hd⟩
    have hkeeps : t.store.KeepsIds (t.perform scheme authority client o).store := keepsIds_perform t o
    rcases List.mem_cons.1 he with rfl | he
    · obtain ⟨⟨a, ha⟩, hn⟩ := account?_of_deletes hd
      have := h.wellFormed.id_le _ (Store.mem_of_account? ha)
      exact ⟨Int.le_trans this (Int.ofNat_le.2 hkeeps.1), hn⟩
    · obtain ⟨hid, hn⟩ := h.deleted id ⟨e, he, hd⟩
      exact ⟨Int.le_trans hid (Int.ofNat_le.2 hkeeps.1), hkeeps.2 id hid hn⟩

theorem credentials_run (peer : ρ) (ops : List Operation) :
    (run scheme authority client peer ops).Credentials scheme :=
  run_induction (credentials_start peer) (fun _ o h => h.perform o) ops

end Trace

/-! ## Who gets a token -/

/-- The output that the hash of an account holds. -/
def Account.storedOutput? (a : Account) : Option Bytes := (Phc.parse? a.passwordHash).bind Phc.output

/-- The account of `id` holds an email address, and a password has the output that is stored for the account under
the salt of the password that was written last for it. -/
def Trace.Admits (scheme : Scheme) (t : Trace ρ) (email password : String) (id : Int) (a : Account) : Prop :=
  t.store.account? id = some a ∧ a.profile.email = email ∧ ∃ w tag, t.lastWrite? id = some w ∧
    a.storedOutput? = some tag ∧ scheme.output? w.salt password = some tag

lemma storedOutput?_of_freshText {a : Account} {salt : Password.Salt} {tag : Bytes} (htag : tag.length = 32)
    (h : a.passwordHash = freshText salt tag) : a.storedOutput? = some tag := by
  rw [Account.storedOutput?, h, Password.parse?_freshText salt htag]
  rfl

namespace Trace

variable {email password : String} {id : Int} {a : Account}

/-- The check of a password against the hash of an account is the check against what was written last for it. -/
lemma Credentials.admits_iff (h : t.Credentials scheme) (ha : t.store.account? id = some a)
    (he : a.profile.email = email) :
    t.Admits scheme email password id a ↔ scheme.verify a.passwordHash password = .ok true := by
  obtain ⟨w, tag, hw, ho, hhash⟩ := h.password id a ha
  have htag : tag.length = 32 := Scheme.length_of_output? ho
  rw [hhash, Scheme.verify_freshText w.salt htag, Except.ok.injEq, beq_iff_eq]
  constructor
  · rintro ⟨-, -, w', tag', hw', hs, ho'⟩
    rw [hw] at hw'
    rw [storedOutput?_of_freshText htag hhash] at hs
    cases hw'
    cases hs
    exact ho'
  · exact fun hp => ⟨ha, he, w, tag, hw, storedOutput?_of_freshText htag hhash, hp⟩

lemma Credentials.admits_last (h : t.Credentials scheme) (ha : t.store.account? id = some a)
    (he : a.profile.email = email) :
    ∃ w, t.lastWrite? id = some w ∧ t.Admits scheme email w.password id a := by
  obtain ⟨w, tag, hw, ho, hhash⟩ := h.password id a ha
  exact ⟨w, hw, ha, he, w, tag, hw, storedOutput?_of_freshText (Scheme.length_of_output? ho) hhash, ho⟩

/-- **Who gets a token behind a run.** -/
lemma Credentials.signIn_eq_ok_iff (h : t.Credentials scheme) (now : Moment) (email password token : String) :
    ((Service.signIn scheme authority now email password).runWith (Program.inMemory client) (t.store, t.peer)).1 =
        .ok token ↔
      ∃ id a, t.Admits scheme email password id a ∧ authority.issue now a = .ok token := by
  obtain ⟨result, hrun, hresult⟩ := @Service.signIn_run ρ client scheme authority now email password t.store t.peer
  rw [hrun, hresult]
  constructor
  · rintro ⟨a, ha, hv, hi⟩
    obtain ⟨ha, he⟩ := h.wellFormed.holder?_eq_some_iff.1 ha
    exact ⟨a.id, a, (h.admits_iff ha he).2 hv, hi⟩
  · rintro ⟨id, a, hadm, hi⟩
    have hid : t.store.account? a.id = some a := by
      rw [h.wellFormed.account_id_eq hadm.1]
      exact hadm.1
    exact ⟨a, h.wellFormed.holder?_eq_some_iff.2 ⟨hid, hadm.2.1⟩, (h.admits_iff hadm.1 hadm.2.1).1 hadm, hi⟩

/-- A token is given to whoever is admitted, unless it would expire outside the calendar. -/
lemma Credentials.exists_token_iff (h : t.Credentials scheme) (now : Moment) (email password : String) :
    (∃ token, ((Service.signIn scheme authority now email password).runWith (Program.inMemory client)
        (t.store, t.peer)).1 = .ok token) ↔
      (∃ id a, t.Admits scheme email password id a) ∧ ∃ expiry, Token.expiry? now authority.lifetime = some expiry := by
  constructor
  · rintro ⟨token, ht⟩
    obtain ⟨id, a, hadm, hissue⟩ := (h.signIn_eq_ok_iff now email password token).1 ht
    obtain ⟨expiry, he, -⟩ := Token.verify_issue hissue
    exact ⟨⟨id, a, hadm⟩, expiry, he⟩
  · rintro ⟨⟨id, a, hadm⟩, expiry, he⟩
    exact ⟨_, (h.signIn_eq_ok_iff now email password _).2 ⟨id, a, hadm, Token.issue_of_expiry? he⟩⟩

lemma Credentials.verify_token (h : t.Credentials scheme) {now : Moment} {token : String}
    (ht : ((Service.signIn scheme authority now email password).runWith (Program.inMemory client)
      (t.store, t.peer)).1 = .ok token) :
    ∃ id a expiry, t.Admits scheme email password id a ∧ Token.expiry? now authority.lifetime = some expiry ∧
      let claims : Token.Claims := ⟨String.ofList (Text.decimal id), email, a.role, expiry⟩
      (Text.IsWord id → claims.accountId = .ok id) ∧
      ∀ later, authority.verify later token =
        if (expiry : Int) < later.seconds then .error .invalidToken else .ok claims := by
  obtain ⟨id, a, hadm, hissue⟩ := (h.signIn_eq_ok_iff now email password token).1 ht
  obtain ⟨expiry, he, hverify⟩ := Token.verify_issue hissue
  have hid : a.id = id := h.wellFormed.account_id_eq hadm.1
  have hclaims : Token.Authority.claimsFor a expiry = ⟨String.ofList (Text.decimal id), email, a.role, expiry⟩ := by
    rw [Token.Authority.claimsFor, hid, hadm.2.1]
  rw [hclaims] at hverify
  refine ⟨id, a, expiry, hadm, he, fun hw => ?_, hverify⟩
  rw [← hclaims, ← hid]
  exact Token.accountId_claimsFor (hid ▸ hw)

end Trace

/-- **Signing in behind any run of operations on the empty store.** A token is given exactly to the holder of an
email address whose password has the output stored under the salt of the password written last for the account,
unless the token would expire outside the calendar, which it does not at any time in service. Every account admits
the password that was written last for it, and an account that was deleted is none. A token stands, until it
expires, for the id, the present email address and the present role of the account. -/
theorem signIn_behind_run (settings : TokenSettings) (scheme : Scheme) (client : Relations.Client ρ) (peer : ρ)
    (ops : List Operation) (now : Moment) (email password : String) :
    let authority : Token.Authority := ⟨utf8 settings.secret, settings.lifetime⟩
    let t := Trace.run scheme authority client peer ops
    let result :=
      ((Service.signIn scheme authority now email password).runWith (Program.inMemory client) (t.store, t.peer)).1
    ((∃ token, result = .ok token) ↔
      (∃ id a, t.Admits scheme email password id a) ∧ ∃ expiry, Token.expiry? now settings.lifetime = some expiry) ∧
    (now.InService → ((∃ token, result = .ok token) ↔ ∃ id a, t.Admits scheme email password id a)) ∧
    (∀ id a, t.store.account? id = some a →
      ∃ w, t.lastWrite? id = some w ∧ t.Admits scheme a.profile.email w.password id a) ∧
    (∀ id, t.Deleted id → t.store.account? id = none) ∧
    ∀ token, result = .ok token → ∃ id a expiry, t.Admits scheme email password id a ∧
      Token.expiry? now settings.lifetime = some expiry ∧
      (now.InService → expiry = (now.seconds + settings.lifetime).toNat) ∧
      let claims : Token.Claims := ⟨String.ofList (Text.decimal id), email, a.role, expiry⟩
      (Text.IsWord id → claims.accountId = .ok id) ∧
      ∀ later, authority.verify later token =
        if (expiry : Int) < later.seconds then .error .invalidToken else .ok claims := by
  intro authority t result
  have h : t.Credentials scheme := Trace.credentials_run peer ops
  have hexact : (∃ token, result = .ok token) ↔ (∃ id a, t.Admits scheme email password id a) ∧
      ∃ expiry, Token.expiry? now settings.lifetime = some expiry := h.exists_token_iff now email password
  have hexpiry : now.InService →
      Token.expiry? now settings.lifetime = some (now.seconds + settings.lifetime).toNat :=
    fun hnow => Token.expiry?_eq hnow settings.lifetime_bounds.2
  refine ⟨hexact, fun hnow => ?_, fun id a ha => h.admits_last ha rfl, fun id hd => (h.deleted id hd).2, ?_⟩
  · rw [hexact]
    exact and_iff_left ⟨_, hexpiry hnow⟩
  · intro token ht
    obtain ⟨id, a, expiry, hadm, he, hclaims⟩ := h.verify_token ht
    exact ⟨id, a, expiry, hadm, he, fun hnow => Option.some.inj (he.symm.trans (hexpiry hnow)), hclaims⟩

end Gatehouse
