import Gatehouse.Proofs.Password
import Gatehouse.Proofs.Program.Run
import Gatehouse.Proofs.Store.Invariant
import Gatehouse.Service.Identity
import Gatehouse.Service.Profile

/-!
# What signing up, signing in and changing a password do

One lemma for each operation lists the ways in which it ends over a store in memory, and what it leaves.

* `signUp_cases` — a registration;
* `adminId`, `promote`, `ensureAdmin_eq` — the two halves of making sure of an administrator, and `adminId_cases`,
  `ensureAdmin_cases` what becomes of the first one and of both;
* `signIn_run` — signing in leaves the store as it is;
* `changePassword_cases` — a change of a password is refused, or replaces the hash.
-/

namespace Gatehouse

def Account.promoted (a : Account) : Account := { a with role := .admin }

namespace Service

open Password.Scheme (freshText)
open Program (inMemory)

variable {ρ : Type} {client : Relations.Client ρ} (scheme : Password.Scheme) (occasion : Occasion)

/-! ## Signing up -/

section SignUp

variable {scheme occasion} {r : Registration} (s : Store) (p : ρ)

lemma signUp_of_none (ho : scheme.output? occasion.salt r.password = none) :
    (signUp scheme occasion r).runWith (inMemory client) (s, p) =
      (.error (.internal "the password is too long to be hashed"), (s, p)) := by
  rw [signUp, Password.Scheme.hash_of_none ho]
  exact Action.runWith_bind_error (Action.runWith_ofExcept _ _) _

lemma signUp_of_some {tag : Bytes} (ho : scheme.output? occasion.salt r.password = some tag) :
    (signUp scheme occasion r).runWith (inMemory client) (s, p) =
      let served := s.serve (.create ⟨r.profile, freshText occasion.salt tag, occasion.now⟩)
      (served.1, (served.2, p)) := by
  rw [signUp, Password.Scheme.hash_of_some ho]
  exact Action.runWith_bind_ok (Action.runWith_ofExcept _ _) _

end SignUp

/-- A registration has no hash, finds its email address taken, or adds an account. -/
theorem signUp_cases (r : Registration) (s : Store) (p : ρ) :
    (scheme.output? occasion.salt r.password = none ∧ ∃ detail,
      (signUp scheme occasion r).runWith (inMemory client) (s, p) = (.error (.internal detail), (s, p))) ∨
    (∃ a, s.holder? r.profile.email = some a ∧
      (signUp scheme occasion r).runWith (inMemory client) (s, p) = (.error .accountExists, (s, p))) ∨
    (∃ tag, scheme.output? occasion.salt r.password = some tag ∧ s.holder? r.profile.email = none ∧
      (signUp scheme occasion r).runWith (inMemory client) (s, p) =
        (.ok (s.lastId + 1), ((s.add ⟨r.profile, freshText occasion.salt tag, occasion.now⟩).2, p))) := by
  cases ho : scheme.output? occasion.salt r.password with
  | none => exact .inl ⟨rfl, _, signUp_of_none s p ho⟩
  | some tag =>
    rw [signUp_of_some s p ho, Store.serve]
    cases ha : s.holder? r.profile.email with
    | some a => exact .inr (.inl ⟨a, rfl, rfl⟩)
    | none => exact .inr (.inr ⟨tag, rfl, rfl, rfl⟩)

/-! ## Administrators -/

/-- What the check of a password says of the account that is to be an administrator's. -/
def confirmation (a : Account) : Except Fault Bool → Except Fault Int
  | .ok true => .ok a.id
  | .ok false => .error .wrongPassword
  | .error fault => .error fault

lemma confirm_of_holder {email : String} {s : Store} {a : Account} (ha : s.holder? email = some a) (password : String)
    (p : ρ) :
    (confirm scheme email password).runWith (inMemory client) (s, p) =
      (confirmation a (scheme.verify a.passwordHash password), (s, p)) := by
  have hfind : (Action.store (.findByEmail email)).runWith (inMemory client) (s, p) = (.ok (some a), (s, p)) := by
    rw [Action.runWith_store, Store.serve, ha]
  rw [confirm, Action.runWith_bind_ok hfind]
  dsimp only
  cases scheme.verify a.passwordHash password with
  | error fault => rfl
  | ok known => cases known <;> rfl

/-- The one half of making sure of an administrator: whose account it is. -/
def adminId (email password : String) : Action Int :=
  tryCatch (signUp scheme occasion (adminRegistration email password)) fun fault =>
    if fault = .accountExists then confirm scheme email password else throw fault

/-- The other half: the account is promoted. -/
def promote (id : Int) : Action Int := Action.store (.setRole id .admin) >>= fun _ => pure id

lemma ensureAdmin_eq (email password : String) :
    ensureAdmin scheme occasion email password = adminId scheme occasion email password >>= promote := by
  unfold ensureAdmin adminId promote
  refine congrArg (· >>= _) (congrArg (tryCatch _) (funext fun fault => ?_))
  cases fault <;> rfl

lemma promote_run {s : Store} {id : Int} {a : Account} (ha : s.account? id = some a) (p : ρ) :
    (promote id).runWith (inMemory client) (s, p) = (.ok id, (s.put id a.promoted, p)) := by
  have hset : (Action.store (.setRole id .admin)).runWith (inMemory client) (s, p) =
      (.ok (), (s.put id a.promoted, p)) := by
    rw [Action.runWith_store, Store.serve, Store.change, ha]
    rfl
  rw [promote, Action.runWith_bind_ok hset]
  rfl

/-- The administrator who is not registered yet, with the hash of a password that came out. -/
def newAdmin (occasion : Occasion) (email : String) (tag : Bytes) : NewAccount :=
  ⟨(adminRegistration email "").profile, freshText occasion.salt tag, occasion.now⟩

section Admin

variable {scheme occasion} {email password : String} {s : Store} {a : Account} {tag : Bytes} (p : ρ)

lemma adminId_unhashed (ho : scheme.output? occasion.salt password = none) (s : Store) :
    (adminId scheme occasion email password).runWith (inMemory client) (s, p) =
      (.error (.internal "the password is too long to be hashed"), (s, p)) := by
  rw [adminId, Action.runWith_tryCatch, signUp_of_none s p ho]
  rfl

lemma adminId_held (ho : scheme.output? occasion.salt password = some tag) (ha : s.holder? email = some a) :
    (adminId scheme occasion email password).runWith (inMemory client) (s, p) =
      (confirmation a (scheme.verify a.passwordHash password), (s, p)) := by
  have htaken : (signUp scheme occasion (adminRegistration email password)).runWith (inMemory client) (s, p) =
      (.error .accountExists, (s, p)) := by
    rw [signUp_of_some s p (r := adminRegistration email password) ho, Store.serve]
    simp only [adminRegistration, ha]
  rw [adminId, Action.runWith_tryCatch, htaken]
  exact confirm_of_holder scheme ha password p

lemma adminId_new (ho : scheme.output? occasion.salt password = some tag) (hn : s.holder? email = none) :
    (adminId scheme occasion email password).runWith (inMemory client) (s, p) =
      (.ok (s.lastId + 1), ((s.add (newAdmin occasion email tag)).2, p)) := by
  have hadd : (signUp scheme occasion (adminRegistration email password)).runWith (inMemory client) (s, p) =
      (.ok (s.lastId + 1), ((s.add (newAdmin occasion email tag)).2, p)) := by
    rw [signUp_of_some s p (r := adminRegistration email password) ho, Store.serve]
    simp only [adminRegistration, hn]
    rfl
  rw [adminId, Action.runWith_tryCatch, hadd]

lemma ensureAdmin_unhashed (ho : scheme.output? occasion.salt password = none) (s : Store) :
    (ensureAdmin scheme occasion email password).runWith (inMemory client) (s, p) =
      (.error (.internal "the password is too long to be hashed"), (s, p)) := by
  rw [ensureAdmin_eq, Action.runWith_bind_error (adminId_unhashed p ho s)]

lemma ensureAdmin_refused (ho : scheme.output? occasion.salt password = some tag) (ha : s.holder? email = some a)
    {fault : Fault} (hv : confirmation a (scheme.verify a.passwordHash password) = .error fault) :
    (ensureAdmin scheme occasion email password).runWith (inMemory client) (s, p) = (.error fault, (s, p)) := by
  rw [ensureAdmin_eq, Action.runWith_bind_error ((adminId_held p ho ha).trans (by rw [hv]))]

lemma ensureAdmin_known (h : s.WellFormed) (ho : scheme.output? occasion.salt password = some tag)
    (ha : s.holder? email = some a) (hv : scheme.verify a.passwordHash password = .ok true) :
    (ensureAdmin scheme occasion email password).runWith (inMemory client) (s, p) =
      (.ok a.id, (s.put a.id a.promoted, p)) := by
  have hid : (adminId scheme occasion email password).runWith (inMemory client) (s, p) = (.ok a.id, (s, p)) := by
    rw [adminId_held p ho ha, hv]
    rfl
  rw [ensureAdmin_eq, Action.runWith_bind_ok hid]
  exact promote_run (h.holder?_eq_some_iff.1 ha).1 p

lemma ensureAdmin_new (h : s.WellFormed) (ho : scheme.output? occasion.salt password = some tag)
    (hn : s.holder? email = none) :
    (ensureAdmin scheme occasion email password).runWith (inMemory client) (s, p) =
      (.ok (s.lastId + 1), ((s.add (newAdmin occasion email tag)).2.put (s.lastId + 1)
        ((newAdmin occasion email tag).withId (s.lastId + 1)).promoted, p)) := by
  rw [ensureAdmin_eq, Action.runWith_bind_ok (adminId_new p ho hn)]
  exact promote_run (h.account?_add_self (newAdmin occasion email tag)) p

end Admin

/-- Whose account it is cannot be found out, is found out without a change, or is a new account. -/
theorem adminId_cases (client : Relations.Client ρ) (email password : String) (s : Store) (p : ρ) :
    (∃ fault, (adminId scheme occasion email password).runWith (inMemory client) (s, p) = (.error fault, (s, p))) ∨
    (∃ id, (adminId scheme occasion email password).runWith (inMemory client) (s, p) = (.ok id, (s, p))) ∨
    (∃ tag, scheme.output? occasion.salt password = some tag ∧ s.holder? email = none ∧
      (adminId scheme occasion email password).runWith (inMemory client) (s, p) =
        (.ok (s.lastId + 1), ((s.add (newAdmin occasion email tag)).2, p))) := by
  cases ho : scheme.output? occasion.salt password with
  | none => exact .inl ⟨_, adminId_unhashed p ho s⟩
  | some tag =>
    cases ha : s.holder? email with
    | none => exact .inr (.inr ⟨tag, rfl, rfl, adminId_new p ho ha⟩)
    | some a =>
      rw [adminId_held p ho ha]
      cases confirmation a (scheme.verify a.passwordHash password) with
      | error fault => exact .inl ⟨fault, rfl⟩
      | ok id => exact .inr (.inl ⟨id, rfl⟩)

/-- An administrator is refused, is a new account, or is the account that holds the email address and has the
password; in the last two cases its role is set. -/
theorem ensureAdmin_cases (email password : String) {s : Store} (h : s.WellFormed) (p : ρ) :
    (∃ fault, (ensureAdmin scheme occasion email password).runWith (inMemory client) (s, p) =
      (.error fault, (s, p))) ∨
    (∃ tag added, scheme.output? occasion.salt password = some tag ∧ s.holder? email = none ∧
      added = NewAccount.mk (adminRegistration email password).profile (freshText occasion.salt tag) occasion.now ∧
      (ensureAdmin scheme occasion email password).runWith (inMemory client) (s, p) =
        (.ok (s.lastId + 1),
          ((s.add added).2.put (s.lastId + 1) { added.withId (s.lastId + 1) with role := .admin }, p))) ∨
    (∃ a, s.holder? email = some a ∧ scheme.verify a.passwordHash password = .ok true ∧
      (ensureAdmin scheme occasion email password).runWith (inMemory client) (s, p) =
        (.ok a.id, (s.put a.id { a with role := .admin }, p))) := by
  cases ho : scheme.output? occasion.salt password with
  | none => exact .inl ⟨_, ensureAdmin_unhashed p ho s⟩
  | some tag =>
    cases ha : s.holder? email with
    | none => exact .inr (.inl ⟨tag, newAdmin occasion email tag, rfl, rfl, rfl, ensureAdmin_new p h ho ha⟩)
    | some a =>
      cases hv : scheme.verify a.passwordHash password with
      | error fault => exact .inl ⟨fault, ensureAdmin_refused p ho ha (by rw [hv]; rfl)⟩
      | ok known =>
        cases known with
        | false => exact .inl ⟨.wrongPassword, ensureAdmin_refused p ho ha (by rw [hv]; rfl)⟩
        | true => exact .inr (.inr ⟨a, rfl, hv, ensureAdmin_known p h ho ha hv⟩)

/-! ## Signing in -/

/-- Signing in leaves the store as it is, and gives the token that is issued to the holder of the email address if
the password is the holder's. -/
theorem signIn_run (authority : Token.Authority) (now : Moment) (email password : String) (s : Store) (p : ρ) :
    ∃ result, (signIn scheme authority now email password).runWith (inMemory client) (s, p) = (result, (s, p)) ∧
      ∀ token, result = .ok token ↔ ∃ a, s.holder? email = some a ∧ scheme.verify a.passwordHash password = .ok true ∧
        authority.issue now a = .ok token := by
  have hfind : (Action.store (.findByEmail email)).runWith (inMemory client) (s, p) =
      (.ok (s.holder? email), (s, p)) := rfl
  rw [signIn, Action.runWith_bind_ok hfind]
  cases ha : s.holder? email with
  | none => exact ⟨_, rfl, by simp⟩
  | some a =>
    dsimp only
    cases hv : scheme.verify a.passwordHash password with
    | error fault => exact ⟨_, rfl, by simp [hv]⟩
    | ok known =>
      cases known with
      | false => exact ⟨_, rfl, by simp [hv]⟩
      | true => exact ⟨_, rfl, by simp [hv]⟩

/-! ## Changing a password -/

/-- A change of a password is refused and leaves the store as it is, or it was made by somebody who has the old
password, and replaces the hash by one of the new password. -/
theorem changePassword_cases (salt : Password.Salt) (id : Int) (old new : String)
    (s : Store) (p : ρ) :
    (∃ fault, (changePassword scheme salt id old new).runWith (inMemory client) (s, p) = (.error fault, (s, p))) ∨
    (∃ a tag, s.account? id = some a ∧ scheme.verify a.passwordHash old = .ok true ∧
      scheme.output? salt new = some tag ∧
      (changePassword scheme salt id old new).runWith (inMemory client) (s, p) =
        (.ok (), (s.put id { a with passwordHash := freshText salt tag }, p))) := by
  cases ha : s.account? id with
  | none => exact .inl ⟨_, Action.runWith_bind_error (Action.runWith_account_of_none ha p) _⟩
  | some a =>
    rw [changePassword, Action.runWith_bind_ok (Action.runWith_account_of_some ha p)]
    cases hv : scheme.verify a.passwordHash old with
    | error fault => exact .inl ⟨fault, rfl⟩
    | ok known =>
      cases known with
      | false => exact .inl ⟨.wrongPassword, rfl⟩
      | true =>
        rw [Action.runWith_bind_ok (Action.runWith_ofExcept _ _), if_pos rfl]
        cases ho : scheme.output? salt new with
        | none =>
          rw [Password.Scheme.hash_of_none ho]
          exact .inl ⟨_, rfl⟩
        | some tag =>
          refine .inr ⟨a, tag, rfl, hv, rfl, ?_⟩
          rw [Password.Scheme.hash_of_some ho, Action.runWith_bind_ok (Action.runWith_ofExcept _ _),
            Action.runWith_store, Store.serve, Store.change, ha]

end Service

end Gatehouse
