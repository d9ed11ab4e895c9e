import Gatehouse.Proofs.Program.Interruption
import Gatehouse.Proofs.Service.Identity
import Gatehouse.Proofs.Service.Operation
import Gatehouse.Proofs.Store.Views

/-!
# Operations that are given up

* `Operation.writesAtMost` — every operation but one changes the store once at most;
* `Service.ensureAdmin_left` — the one that may change it twice leaves, wherever it is given up, the store as it was, as
  it is with a new account that is a plain user yet, or as it is in the end;
* `Account.outline`, `Service.ensureAdmin_again` — on each of these stores the operation comes to the same when it is
  called again, but for the hash and the time of a new account;
* `Operation.given_up` — both together, for every store that a sequence of calls leaves.
-/

namespace Gatehouse

open Program (inMemory)

/-- What is seen of an account beside the hash of its password and the time of its registration. -/
def Account.outline (a : Account) : Int × Profile × Role × List Int := (a.id, a.profile, a.role, a.familyIds)

/-! ## One change -/

section Writes

open Gatehouse.Action (WritesAtMost writesAtMost_account writesAtMost_of_reads writesAtMost_ofExcept writesAtMost_pure
  writesAtMost_relations writesAtMost_store writesAtMost_throw)

lemma Deletion.writesAtMost_stage {stage : Stage} {id : Int} (hs : stage ≠ .deleteRecord) :
    (stage.run id).WritesAtMost 0 := by
  cases stage with
  | leaveFamily f =>
    refine (writesAtMost_relations _).zero_bind fun reply => ?_
    cases reply with
    | ok _ => exact writesAtMost_pure ()
    | error failure =>
      dsimp only
      split
      · exact writesAtMost_pure ()
      · exact writesAtMost_throw _
  | deleteInvites => exact (writesAtMost_relations _).zero_bind fun reply => by cases reply <;> trivial
  | deleteRecord => exact absurd rfl hs

lemma Deletion.writesAtMost_plan (id : Int) (familyIds : List Int) : (runAll id (plan familyIds)).WritesAtMost 1 := by
  induction familyIds with
  | nil =>
    have hrecord : (runAll id [.deleteRecord]).WritesAtMost 1 :=
      (writesAtMost_store _).bind_zero fun _ => writesAtMost_pure ()
    exact (writesAtMost_stage (by decide)).zero_bind fun _ => hrecord
  | cons f familyIds ih => exact (writesAtMost_stage (by simp)).zero_bind fun _ => ih

namespace Service

variable (scheme : Password.Scheme) (email password : String)

lemma writesAtMost_signUp (occasion : Occasion) (r : Registration) : (signUp scheme occasion r).WritesAtMost 1 :=
  (writesAtMost_ofExcept _).zero_bind fun _ => writesAtMost_store _

lemma writesAtMost_confirm : (confirm scheme email password).WritesAtMost 0 := by
  refine (writesAtMost_of_reads (by trivial)).zero_bind fun found => ?_
  cases found with
  | none => exact writesAtMost_throw _
  | some a =>
    refine (writesAtMost_ofExcept _).zero_bind fun known => ?_
    cases known with
    | false => exact writesAtMost_throw _
    | true => exact writesAtMost_pure _

end Service

/-- **Every operation but one** makes one change at most. -/
theorem Operation.writesAtMost (scheme : Password.Scheme) (authority : Token.Authority) {o : Operation}
    (ho : ∀ occasion email password, o ≠ .ensureAdmin occasion email password) :
    (o.action scheme authority).WritesAtMost 1 := by
  cases o with
  | ensureAdmin occasion email password => exact absurd rfl (ho occasion email password)
  | signUp occasion r => exact Service.writesAtMost_signUp scheme occasion r
  | signIn now email password =>
    refine (writesAtMost_of_reads (by trivial)).zero_bind fun found => ?_
    cases found with
    | none => exact writesAtMost_throw _
    | some a =>
      refine (writesAtMost_ofExcept _).zero_bind fun known => ?_
      cases known with
      | false => exact writesAtMost_throw _
      | true => exact writesAtMost_ofExcept _
  | getProfile id | isAdmin id =>
    exact (writesAtMost_account id).zero_bind fun a => writesAtMost_pure _
  | updateProfile id patch => exact (writesAtMost_account id).zero_bind fun a => writesAtMost_store _
  | changePassword salt id old new =>
    refine (writesAtMost_account id).zero_bind fun a => (writesAtMost_ofExcept _).zero_bind fun known => ?_
    cases known with
    | false => exact writesAtMost_throw _
    | true => exact (writesAtMost_ofExcept _).zero_bind fun text => writesAtMost_store _
  | addFamilyLink | removeFamilyLink | deleteRecord => exact writesAtMost_store _
  | deleteEverywhere id =>
    refine ((writesAtMost_account id).zero_bind fun a => writesAtMost_pure _).zero_bind fun a => ?_
    exact Deletion.writesAtMost_plan id a.familyIds

end Writes

/-! ## Two changes -/

namespace Service

open Gatehouse.Action (WritesAtMost writesAtMost_of_reads writesAtMost_pure writesAtMost_store writesAtMost_throw)

variable {ρ : Type} {client : Relations.Client ρ} (scheme : Password.Scheme) (occasion : Occasion)
  (email password : String)

lemma writesAtMost_adminId : (adminId scheme occasion email password).WritesAtMost 1 := by
  refine (writesAtMost_signUp scheme occasion (adminRegistration email password)).tryCatch (n := 0) fun fault => ?_
  split
  · exact writesAtMost_confirm scheme email password
  · exact writesAtMost_throw fault

lemma writesAtMost_promote (id : Int) : (promote id).WritesAtMost 1 :=
  (writesAtMost_store _).bind_zero fun _ => writesAtMost_pure id

lemma writesAtMost_ensureAdmin : (ensureAdmin scheme occasion email password).WritesAtMost 2 := by
  rw [ensureAdmin_eq]
  exact (writesAtMost_adminId scheme occasion email password).bind writesAtMost_promote

lemma not_writesAtMost_one_ensureAdmin {tag : Bytes} (ho : scheme.output? occasion.salt password = some tag) :
    ¬ (ensureAdmin scheme occasion email password).WritesAtMost 1 := by
  intro h
  have hsignUp : signUp scheme occasion (adminRegistration email password) =
      Action.store (.create (newAdmin occasion email tag)) := by
    have hhash : scheme.hash occasion.salt (adminRegistration email password).password = .ok _ :=
      Password.Scheme.hash_of_some ho
    rw [signUp, hhash]
    rfl
  unfold ensureAdmin at h
  rw [hsignUp] at h
  have hrole : (Call.store (.setRole 1 .admin)).writes ≤ 1 - 1 := (h.2 (.ok 1)).1
  exact absurd hrole (by decide)

/-- **Wherever it is given up,** making sure of an administrator leaves the store as it was, with a new account that is
a plain user yet, or as it is in the end. -/
theorem ensureAdmin_left (s : Store) (r : ρ) (count : Nat) :
    let left := ((ensureAdmin scheme occasion email password).runFor (inMemory client) count (s, r)).1
    left = s ∨
      (∃ tag, scheme.output? occasion.salt password = some tag ∧ s.holder? email = none ∧
        left = (s.add (newAdmin occasion email tag)).2) ∨
      left = ((ensureAdmin scheme occasion email password).runWith (inMemory client) (s, r)).2.1 := by
  rw [ensureAdmin_eq]
  intro left
  rcases Action.runFor_bind_cases (writesAtMost_adminId scheme occasion email password) writesAtMost_promote client s r
    count with h | h | h
  · exact .inl h
  · rcases adminId_cases scheme occasion client email password s r with
      ⟨fault, hrun⟩ | ⟨id, hrun⟩ | ⟨tag, ho, hn, hrun⟩ <;> rw [hrun] at h
    · exact .inl h
    · exact .inl h
    · exact .inr (.inl ⟨tag, ho, hn, h⟩)
  · exact .inr (.inr h)

end Service

/-! ## Calling it again -/

namespace Service

open Password.Scheme (freshText)

variable {ρ : Type} {client : Relations.Client ρ} {scheme : Password.Scheme} {email password : String}
  {first again other : Occasion} {s : Store}

/-- Two calls come to the same: the same result, the same ids that are given out and the same accounts, but for hashes
and times. -/
structure SameEnd (x y : Except Fault Int × (Store × ρ)) : Prop where
  result : x.1 = y.1
  lastId : x.2.1.lastId = y.2.1.lastId
  accounts : x.2.1.AgreeBy Account.outline y.2.1

lemma SameEnd.refl (result : Except Fault Int) (s : Store) (r r' : ρ) : SameEnd (result, (s, r)) (result, (s, r')) :=
  ⟨rfl, rfl, .refl _ s⟩

lemma confirmation_eq_ok {a : Account} {v : Except Fault Bool} {id : Int} (h : confirmation a v = .ok id) :
    v = .ok true := by
  rcases v with fault | _ | _
  · cases h
  · cases h
  · rfl

/-- New administrators look alike, whatever the salts and times. -/
lemma agreeBy_newAdmin (s : Store) (occasion occasion' : Occasion) (email : String) (tag tag' : Bytes) :
    ((s.add (newAdmin occasion email tag)).2.put (s.lastId + 1)
        ((newAdmin occasion email tag).withId (s.lastId + 1)).promoted).AgreeBy Account.outline
      ((s.add (newAdmin occasion' email tag')).2.put (s.lastId + 1)
        ((newAdmin occasion' email tag').withId (s.lastId + 1)).promoted) := by
  have hadd : (s.add (newAdmin occasion email tag)).2.AgreeBy Account.outline
      (s.add (newAdmin occasion' email tag')).2 := Store.AgreeBy.add (.refl _ s) rfl fun id => rfl
  exact hadd.put (by rfl) _

/-- A password can be hashed under all salts or under none. -/
def HashesAlike (scheme : Password.Scheme) (password : String) : Prop :=
  ∀ salt salt', (scheme.output? salt password).isSome = (scheme.output? salt' password).isSome

lemma hashesAlike_argon2 (pepper password : String) : HashesAlike ⟨pepper, Password.argon2⟩ password := by
  intro salt salt'
  unfold Password.Scheme.output? Password.argon2
  rw [Digest.Argon2.isSome_tag?, Digest.Argon2.isSome_tag?]

lemma HashesAlike.exists_output (ho : HashesAlike scheme password) {salt : Password.Salt} {tag : Bytes}
    (h : scheme.output? salt password = some tag) (salt' : Password.Salt) :
    ∃ tag', scheme.output? salt' password = some tag' :=
  Option.isSome_iff_exists.1 (by rw [ho salt' salt, h]; rfl)

lemma HashesAlike.eq_none (ho : HashesAlike scheme password) {salt : Password.Salt}
    (h : scheme.output? salt password = none) (salt' : Password.Salt) : scheme.output? salt' password = none :=
  Option.isSome_eq_false_iff.1 (by rw [ho salt' salt, h]; rfl) |> Option.isNone_iff_eq_none.1

lemma sameEnd_of_hashesAlike (h : s.WellFormed) (ho : HashesAlike scheme password) (r r' : ρ) :
    SameEnd ((ensureAdmin scheme again email password).runWith (inMemory client) (s, r))
      ((ensureAdmin scheme other email password).runWith (inMemory client) (s, r')) := by
  cases hagain : scheme.output? again.salt password with
  | none =>
    have hother := ho.eq_none hagain other.salt
    rw [ensureAdmin_unhashed r hagain, ensureAdmin_unhashed r' hother]
    exact .refl _ s r r'
  | some tag =>
    obtain ⟨tag', hother⟩ := ho.exists_output hagain other.salt
    cases ha : s.holder? email with
    | none =>
      rw [ensureAdmin_new r h hagain ha, ensureAdmin_new r' h hother ha]
      exact ⟨rfl, rfl, agreeBy_newAdmin s again other email tag tag'⟩
    | some a =>
      cases hv : confirmation a (scheme.verify a.passwordHash password) with
      | error fault =>
        rw [ensureAdmin_refused r hagain ha hv, ensureAdmin_refused r' hother ha hv]
        exact .refl _ s r r'
      | ok id =>
        have hknown := confirmation_eq_ok hv
        rw [ensureAdmin_known r h hagain ha hknown, ensureAdmin_known r' h hother ha hknown]
        exact .refl _ _ r r'

lemma verify_newAdmin (email : String) {tag : Bytes} (ho : scheme.output? first.salt password = some tag) :
    scheme.verify (newAdmin first email tag).passwordHash password = .ok true := by
  show scheme.verify (freshText first.salt tag) password = .ok true
  rw [Password.Scheme.verify_freshText first.salt (Password.Scheme.length_of_output? ho), ho]
  simp

/-- Where the holder of the email address has the password already, nothing but the role is set. -/
lemma sameEnd_of_holder {u v : Store} {a : Account} {id : Int} (hu : u.WellFormed)
    (ho : ∃ tag, scheme.output? again.salt password = some tag) (ha : u.account? id = some a)
    (he : a.profile.email = email) (hv : scheme.verify a.passwordHash password = .ok true) (hlast : u.lastId = v.lastId)
    (hagree : (u.put id a.promoted).AgreeBy Account.outline v) (r r' : ρ) :
    SameEnd ((ensureAdmin scheme again email password).runWith (inMemory client) (u, r)) (.ok id, (v, r')) := by
  obtain ⟨tag, hagain⟩ := ho
  have hid : a.id = id := hu.account_id_eq ha
  subst hid
  rw [ensureAdmin_known r hu hagain (hu.holder?_eq_some_iff.2 ⟨ha, he⟩) hv]
  exact ⟨rfl, hlast, hagree⟩

/-- The call is made again behind one that has come to its end. -/
lemma sameEnd_behind (h : s.WellFormed) (ho : HashesAlike scheme password) (r r' r'' : ρ) :
    let left := ((ensureAdmin scheme first email password).runWith (inMemory client) (s, r)).2.1
    SameEnd ((ensureAdmin scheme again email password).runWith (inMemory client) (left, r'))
      ((ensureAdmin scheme other email password).runWith (inMemory client) (s, r'')) := by
  intro left
  have hleft : left.WellFormed := Program.run_wellFormed _ client h r
  cases hfirst : scheme.output? first.salt password with
  | none =>
    have hstore : left = s := congrArg (·.2.1) (ensureAdmin_unhashed r hfirst s)
    rw [hstore]
    exact sameEnd_of_hashesAlike h ho r' r''
  | some tag =>
    obtain ⟨tag', hother⟩ := ho.exists_output hfirst other.salt
    cases ha : s.holder? email with
    | none =>
      have hstore : left = (s.add (newAdmin first email tag)).2.put (s.lastId + 1)
          ((newAdmin first email tag).withId (s.lastId + 1)).promoted :=
        congrArg (·.2.1) (ensureAdmin_new r h hfirst ha)
      have hadmin := Store.account?_put_self (h.account?_add_self (newAdmin first email tag))
        (b := ((newAdmin first email tag).withId (s.lastId + 1)).promoted)
      have hagree := (agreeBy_newAdmin s first other email tag tag').put_left hadmin (by rfl)
      rw [hstore] at hleft ⊢
      rw [ensureAdmin_new r'' h hother ha]
      have hverify := verify_newAdmin email hfirst
      exact sameEnd_of_holder hleft (ho.exists_output hfirst _) hadmin rfl hverify (by rfl) hagree r' r''
    | some a =>
      cases hv : confirmation a (scheme.verify a.passwordHash password) with
      | error fault =>
        have hstore : left = s := congrArg (·.2.1) (ensureAdmin_refused r hfirst ha hv)
        rw [hstore]
        exact sameEnd_of_hashesAlike h ho r' r''
      | ok id =>
        have hknown := confirmation_eq_ok hv
        have hheld := h.holder?_eq_some_iff.1 ha
        have hstore : left = s.put a.id a.promoted := congrArg (·.2.1) (ensureAdmin_known r h hfirst ha hknown)
        have hadmin := Store.account?_put_self hheld.1 (b := a.promoted)
        rw [hstore] at hleft ⊢
        rw [ensureAdmin_known r'' h hother ha hknown]
        have hagree := Store.AgreeBy.put_left (.refl Account.outline _) hadmin (b := a.promoted.promoted) (by rfl)
        exact sameEnd_of_holder hleft (ho.exists_output hfirst _) hadmin hheld.2 hknown (by rfl) hagree r' r''

/-- **Wherever it is given up,** making sure of an administrator comes to the same when it is called again, as if it had
been called once. -/
theorem ensureAdmin_again (h : s.WellFormed) (ho : HashesAlike scheme password) (r r' r'' : ρ) (count : Nat) :
    let left := ((ensureAdmin scheme first email password).runFor (inMemory client) count (s, r)).1
    SameEnd ((ensureAdmin scheme again email password).runWith (inMemory client) (left, r'))
      ((ensureAdmin scheme other email password).runWith (inMemory client) (s, r'')) := by
  intro left
  rcases ensureAdmin_left scheme first email password s r count with hleft | ⟨tag, hfirst, hn, hleft⟩ | hleft
  · rw [show left = s from hleft]
    exact sameEnd_of_hashesAlike h ho r' r''
  · obtain ⟨tag', hother⟩ := ho.exists_output hfirst other.salt
    have hadded := h.account?_add_self (newAdmin first email tag)
    have hagree := agreeBy_newAdmin s first other email tag tag'
    have hu : (s.add (newAdmin first email tag)).2.WellFormed := h.add hn
    rw [show left = _ from hleft, ensureAdmin_new r'' h hother hn]
    have hverify := verify_newAdmin email hfirst
    exact sameEnd_of_holder hu (ho.exists_output hfirst _) hadded rfl hverify (by rfl) hagree r' r''
  · rw [show left = _ from hleft]
    exact sameEnd_behind h ho r r' r''

end Service

/-- **Operations that are given up,** on any store that a sequence of calls leaves. An operation other than that which
makes sure of an administrator makes one change at most; given up behind any number of its calls on the store and on the
relationship service, it leaves the store as it was before, or as it is when the operation has come to its end. Making
sure of an administrator makes two changes, wherever the password can be hashed. But wherever it is given up, a second
call with the same email address and password comes to the same as one call that is not given up: the same result, and
the same ids, profiles, roles and families of all accounts. -/
theorem Operation.given_up {ρ : Type} (authority : Token.Authority) (pepper : String) (client : Relations.Client ρ)
    (calls : List Store.Call) (r : ρ) :
    let scheme : Password.Scheme := ⟨pepper, Password.argon2⟩
    let s := Store.empty.serveAll calls
    (∀ o : Operation, (∀ occasion email password, o ≠ .ensureAdmin occasion email password) →
      (o.action scheme authority).WritesAtMost 1 ∧
      ∀ count,
        let left := ((o.action scheme authority).runFor (inMemory client) count (s, r)).1
        left = s ∨ left = ((o.action scheme authority).runWith (inMemory client) (s, r)).2.1) ∧
    ∀ email password,
      (∀ occasion, (Service.ensureAdmin scheme occasion email password).WritesAtMost 2 ∧
        ∀ tag, scheme.output? occasion.salt password = some tag →
          ¬ (Service.ensureAdmin scheme occasion email password).WritesAtMost 1) ∧
      ∀ first again other count r' r'',
        let left := ((Service.ensureAdmin scheme first email password).runFor (inMemory client) count (s, r)).1
        Service.SameEnd ((Service.ensureAdmin scheme again email password).runWith (inMemory client) (left, r'))
          ((Service.ensureAdmin scheme other email password).runWith (inMemory client) (s, r'')) := by
  intro scheme s
  have hs : s.WellFormed := Store.wellFormed_empty.serveAll calls
  refine ⟨fun o ho => ?_, fun email password => ⟨fun occasion => ?_, fun first again other count r' r'' => ?_⟩⟩
  · have hone := o.writesAtMost scheme authority ho
    exact ⟨hone, fun count => Program.WritesAtMost.runFor_cases client s r hone count⟩
  · exact ⟨Service.writesAtMost_ensureAdmin scheme occasion email password,
      fun tag htag => Service.not_writesAtMost_one_ensureAdmin scheme occasion email password htag⟩
  · exact Service.ensureAdmin_again hs (Service.hashesAlike_argon2 pepper password) r r' r'' count

end Gatehouse
