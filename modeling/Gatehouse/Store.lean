import Gatehouse.Account
import Gatehouse.Fault

/-!
# The account store

Accounts in memory, under ids that are counted up and never used twice. Every call is one step.

* `Store.Call` lists the calls and `Call.Answer` what each of them gives.
* `Store.serve` is the effect of a call on a store in memory.
* `Store.unreachable` answers for a store that cannot be reached.
* `Store.WellFormed` is what every sequence of calls on the empty store keeps.
-/

namespace Gatehouse

/-- Accounts by id, in the order in which they were created, and the last id that was given out. -/
structure Store where
  lastId : Nat
  accounts : List (Int × Account)
  deriving DecidableEq

namespace Store

def empty : Store := ⟨0, []⟩

inductive Call
  | create (account : NewAccount)
  | findByEmail (email : String)
  | findById (id : Int)
  | setProfile (id : Int) (profile : Profile)
  | setPasswordHash (id : Int) (hash : String)
  | linkFamily (id familyId : Int)
  | unlinkFamily (id familyId : Int)
  | setRole (id : Int) (role : Role)
  | delete (id : Int)
  deriving DecidableEq

/-- What a call gives when it succeeds: the new id, the account found, or nothing. -/
abbrev Call.Answer : Call → Type
  | create _ => Int
  | findByEmail _ | findById _ => Option Account
  | setProfile .. | setPasswordHash .. | linkFamily .. | unlinkFamily .. | setRole .. | delete _ => Unit

abbrev Call.Reply (c : Call) : Type := Except Fault c.Answer

/-! ### Looking up -/

def account? (s : Store) (id : Int) : Option Account := s.accounts.lookup id

def holder? (s : Store) (email : String) : Option Account :=
  (s.accounts.find? fun entry => entry.2.profile.email == email).map Prod.snd

/-- Whether an account other than that of `id` holds an email address. -/
def heldByOther (s : Store) (id : Int) (email : String) : Bool :=
  s.accounts.any fun entry => entry.2.id != id && entry.2.profile.email == email

/-! ### Changing -/

def put (s : Store) (id : Int) (account : Account) : Store :=
  { s with accounts := s.accounts.map fun entry => if entry.1 == id then (id, account) else entry }

def erase (s : Store) (id : Int) : Store :=
  { s with accounts := s.accounts.filter fun entry => entry.1 != id }

/-- Adds an account under the next id. -/
def add (s : Store) (account : NewAccount) : Int × Store :=
  let id : Int := s.lastId + 1
  (id, ⟨s.lastId + 1, s.accounts ++ [(id, account.withId id)]⟩)

/-- Changes the account under an id, which has to exist; the change may refuse. -/
def change (s : Store) (id : Int) (f : Account → Except Fault Account) : Except Fault Unit × Store :=
  match s.account? id with
  | none => (.error .accountNotFound, s)
  | some account =>
    match f account with
    | .ok changed => (.ok (), s.put id changed)
    | .error fault => (.error fault, s)

/-- Links a family that is not linked yet. -/
def linked (familyId : Int) (a : Account) : Except Fault Account :=
  if a.familyIds.contains familyId then .error .alreadyLinked
  else .ok { a with familyIds := a.familyIds ++ [familyId] }

/-- Unlinks a family that is linked. -/
def unlinked (familyId : Int) (a : Account) : Except Fault Account :=
  if a.familyIds.contains familyId then .ok { a with familyIds := a.familyIds.erase familyId }
  else .error .notLinked

/-- The effect of a call. A call that is refused leaves the store as it was. -/
def serve (s : Store) : (c : Call) → c.Reply × Store
  | .create account =>
    match s.holder? account.profile.email with
    | some _ => (.error .accountExists, s)
    | none =>
      let (id, s) := s.add account
      (.ok id, s)
  | .findByEmail email => (.ok (s.holder? email), s)
  | .findById id => (.ok (s.account? id), s)
  | .setProfile id profile =>
    if s.heldByOther id profile.email then (.error .accountExists, s)
    else s.change id fun a => .ok { a with profile := profile }
  | .setPasswordHash id hash => s.change id fun a => .ok { a with passwordHash := hash }
  | .linkFamily id familyId => s.change id (linked familyId)
  | .unlinkFamily id familyId => s.change id (unlinked familyId)
  | .setRole id role => s.change id fun a => .ok { a with role := role }
  | .delete id =>
    match s.account? id with
    | some _ => (.ok (), s.erase id)
    | none => (.error .accountNotFound, s)

/-! ### A store out of reach -/

/-- What a call was about to do, for the report of its failure. -/
def Call.purpose : Call → String
  | create _ => "begin tx"
  | findByEmail _ => "find user by email"
  | findById _ => "find user by id"
  | setProfile .. => "update profile"
  | setPasswordHash .. => "update password hash"
  | linkFamily .. => "add family id"
  | unlinkFamily .. => "remove family id"
  | setRole .. => "set role"
  | delete _ => "delete user"

/-- The reply of a store that cannot be reached. -/
def unreachable (c : Call) : c.Reply := .error (.internal c.purpose)

/-! ### Well-formed stores -/

/-- Every account is kept under its own id, ids and email addresses are not shared, every id was given
out, and no account is linked to a family twice. -/
structure WellFormed (s : Store) : Prop where
  id_eq : ∀ entry ∈ s.accounts, entry.2.id = entry.1
  id_pos : ∀ entry ∈ s.accounts, 1 ≤ entry.1
  id_le : ∀ entry ∈ s.accounts, entry.1 ≤ s.lastId
  nodup_ids : (s.accounts.map Prod.fst).Nodup
  nodup_emails : (s.accounts.map fun entry => entry.2.profile.email).Nodup
  nodup_families : ∀ entry ∈ s.accounts, entry.2.familyIds.Nodup

theorem wellFormed_empty : empty.WellFormed := by
  constructor <;> simp [empty]

end Store

end Gatehouse
