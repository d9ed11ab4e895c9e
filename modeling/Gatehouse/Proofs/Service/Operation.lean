import Gatehouse.Proofs.Program.Calls
import Gatehouse.Service.Deletion
import Gatehouse.Service.Identity

/-!
# Operations and runs

* `Operation` — the operations of the service with their arguments, and `Operation.action` what they do;
* `Operation.May`, `Operation.makes` — the calls that each operation may make;
* `Trace` — the state of a run with the history of its operations, and `Trace.run` all operations one after another.
-/

namespace Gatehouse

/-- An operation of the service with its arguments, and with the time and the salt that it is given. -/
inductive Operation
  | signUp (occasion : Occasion) (registration : Registration)
  | signIn (now : Moment) (email password : String)
  | ensureAdmin (occasion : Occasion) (email password : String)
  | getProfile (id : Int)
  | isAdmin (id : Int)
  | updateProfile (id : Int) (patch : Profile)
  | changePassword (salt : Password.Salt) (id : Int) (old new : String)
  | addFamilyLink (id familyId : Int)
  | removeFamilyLink (id familyId : Int)
  | deleteRecord (id : Int)
  | deleteEverywhere (id : Int)

namespace Operation

abbrev Answer : Operation → Type
  | signUp .. | ensureAdmin .. => Int
  | signIn .. => String
  | getProfile _ => Account
  | isAdmin _ => Bool
  | updateProfile .. | changePassword .. | addFamilyLink .. | removeFamilyLink .. | deleteRecord _
  | deleteEverywhere _ => Unit

/-- What an operation does, under a way to keep passwords and an authority for tokens. -/
def action (scheme : Password.Scheme) (authority : Token.Authority) : (o : Operation) → Action o.Answer
  | signUp occasion registration => Service.signUp scheme occasion registration
  | signIn now email password => Service.signIn scheme authority now email password
  | ensureAdmin occasion email password => Service.ensureAdmin scheme occasion email password
  | getProfile id => Service.getProfile id
  | isAdmin id => Service.isAdmin id
  | updateProfile id patch => Service.updateProfile id patch
  | changePassword salt id old new => Service.changePassword scheme salt id old new
  | addFamilyLink id familyId => Service.addFamilyLink id familyId
  | removeFamilyLink id familyId => Service.removeFamilyLink id familyId
  | deleteRecord id => Service.deleteRecord id
  | deleteEverywhere id => Service.deleteEverywhere id

/-! ## Calls -/

/-- The calls that an operation may make. -/
def May : Operation → Call → Prop
  | signUp _ r, .store (.create n) => n.profile = r.profile
  | signIn _ email _, .store (.findByEmail e) => e = email
  | ensureAdmin _ email password, .store (.create n) => n.profile = (Service.adminRegistration email password).profile
  | ensureAdmin _ email _, .store (.findByEmail e) => e = email
  | ensureAdmin .., .store (.setRole _ role) => role = .admin
  | getProfile id, .store (.findById i) => i = id
  | isAdmin id, .store (.findById i) => i = id
  | updateProfile id _, .store (.findById i) => i = id
  | updateProfile id _, .store (.setProfile i _) => i = id
  | changePassword _ id _ _, .store (.findById i) => i = id
  | changePassword _ id _ _, .store (.setPasswordHash i _) => i = id
  | addFamilyLink id familyId, .store (.linkFamily i f) => i = id ∧ f = familyId
  | removeFamilyLink id familyId, .store (.unlinkFamily i f) => i = id ∧ f = familyId
  | deleteRecord id, .store (.delete i) => i = id
  | deleteEverywhere id, .store (.findById i) => i = id
  | deleteEverywhere id, .store (.delete i) => i = id
  | deleteEverywhere id, .relations (.removeMember i _) => i = id
  | deleteEverywhere id, .relations (.deleteInvites i) => i = id
  | _, _ => False

open Gatehouse.Action

section Makes

variable {P : Call → Prop} {scheme : Password.Scheme} {authority : Token.Authority}

lemma makes_deletion {id : Int} (hdelete : P (.store (.delete id))) (hinvites : P (.relations (.deleteInvites id)))
    (hfamily : ∀ f, P (.relations (.removeMember id f))) (stages : List Deletion.Stage) :
    (Deletion.runAll id stages).Makes P := by
  induction stages with
  | nil => exact makes_pure ()
  | cons stage stages ih =>
    refine Makes.bind ?_ fun _ => ih
    cases stage with
    | leaveFamily f =>
      refine (makes_relations (hfamily f)).bind fun reply => ?_
      cases reply with
      | ok _ => exact makes_pure ()
      | error failure =>
        dsimp only
        split
        · exact makes_pure ()
        · exact makes_throw _
    | deleteInvites => exact (makes_relations hinvites).bind fun reply => by cases reply <;> trivial
    | deleteRecord => exact makes_store hdelete

lemma makes_ensureAdmin {occasion : Occasion} {email password : String}
    (hcreate : ∀ n, n.profile = (Service.adminRegistration email password).profile → P (.store (.create n)))
    (hfind : P (.store (.findByEmail email))) (hrole : ∀ id, P (.store (.setRole id .admin))) :
    (Service.ensureAdmin scheme occasion email password).Makes P := by
  have hconfirm : (Service.confirm scheme email password).Makes P := by
    refine (makes_store hfind).bind fun found => ?_
    cases found with
    | none => exact makes_throw _
    | some a =>
      refine (makes_ofExcept _).bind fun known => ?_
      cases known with
      | false => exact makes_throw _
      | true => exact makes_pure _
  refine Makes.bind (Makes.tryCatch ?_ fun fault => ?_) fun id => (makes_store (hrole id)).bind fun _ => makes_pure id
  · exact (makes_ofExcept _).bind fun text => makes_store (hcreate _ rfl)
  · cases fault with
    | accountExists => exact hconfirm
    | _ => exact makes_throw _

/-- **An operation makes no other calls than it may.** -/
theorem makes (o : Operation) : (o.action scheme authority).Makes o.May := by
  cases o with
  | signUp occasion r => exact (makes_ofExcept _).bind fun text => makes_store (by rfl)
  | signIn now email password =>
    refine (makes_store (by rfl)).bind fun found => ?_
    cases found with
    | none => exact makes_throw _
    | some a =>
      refine (makes_ofExcept _).bind fun known => ?_
      cases known with
      | false => exact makes_throw _
      | true => exact makes_ofExcept _
  | ensureAdmin occasion email password => exact makes_ensureAdmin (fun n hn => hn) rfl (fun _ => rfl)
  | getProfile id => exact (makes_account id (by rfl)).bind fun a => makes_pure _
  | isAdmin id => exact (makes_account id (by rfl)).bind fun a => makes_pure _
  | updateProfile id patch => exact (makes_account id (by rfl)).bind fun a => makes_store (by rfl)
  | changePassword salt id old new =>
    refine (makes_account id (by rfl)).bind fun a => (makes_ofExcept _).bind fun known => ?_
    cases known with
    | false => exact makes_throw _
    | true => exact (makes_ofExcept _).bind fun text => makes_store (by rfl)
  | addFamilyLink id f => exact makes_store ⟨rfl, rfl⟩
  | removeFamilyLink id f => exact makes_store ⟨rfl, rfl⟩
  | deleteRecord id => exact makes_store (by rfl)
  | deleteEverywhere id =>
    refine Makes.bind ((makes_account id (by rfl)).bind fun a => makes_pure _) fun a => ?_
    exact makes_deletion (P := May (deleteEverywhere id)) rfl rfl (fun _ => rfl) _

end Makes

end Operation

/-! ## Runs -/

/-- What happened in one operation of a run: what was called, the store that it found, and how it ended. -/
structure Event where
  operation : Operation
  before : Store
  outcome : Except Fault operation.Answer

/-- The state of a run: the store, the state of the relationship service, and what happened, the latest event
first. -/
structure Trace (ρ : Type) where
  store : Store
  peer : ρ
  history : List Event

namespace Trace

variable {ρ : Type} (scheme : Password.Scheme) (authority : Token.Authority) (client : Relations.Client ρ)

def start (peer : ρ) : Trace ρ := ⟨.empty, peer, []⟩

def event (t : Trace ρ) (o : Operation) : Event :=
  ⟨o, t.store, ((o.action scheme authority).runWith (Program.inMemory client) (t.store, t.peer)).1⟩

def perform (t : Trace ρ) (o : Operation) : Trace ρ :=
  let run := (o.action scheme authority).runWith (Program.inMemory client) (t.store, t.peer)
  ⟨run.2.1, run.2.2, t.event scheme authority client o :: t.history⟩

/-- The run of operations one after another on the empty store. -/
def run (peer : ρ) (ops : List Operation) : Trace ρ := ops.foldl (perform scheme authority client) (start peer)

variable {scheme authority client}

section Perform

variable {t : Trace ρ} {o : Operation} {outcome : Except Fault o.Answer} {s : Store} {r : ρ}
  (h : (o.action scheme authority).runWith (Program.inMemory client) (t.store, t.peer) = (outcome, (s, r)))
include h

lemma event_eq : t.event scheme authority client o = ⟨o, t.store, outcome⟩ := by
  unfold event
  rw [h]

lemma store_perform : (t.perform scheme authority client o).store = s := by
  unfold perform
  rw [h]

end Perform

/-- **What holds at the start and is kept by every operation holds behind every run.** -/
theorem run_induction {I : Trace ρ → Prop} {peer : ρ} (hstart : I (start peer))
    (hstep : ∀ t o, I t → I (t.perform scheme authority client o)) (ops : List Operation) :
    I (run scheme authority client peer ops) := by
  have hfold : ∀ t, I t → I (ops.foldl (perform scheme authority client) t) := by
    induction ops with
    | nil => exact fun _ ht => ht
    | cons o ops ih => exact fun t ht => ih _ (hstep t o ht)
  exact hfold _ hstart

lemma perform_wellFormed {t : Trace ρ} (h : t.store.WellFormed) (o : Operation) :
    (t.perform scheme authority client o).store.WellFormed :=
  Program.run_wellFormed _ client h t.peer

end Trace

end Gatehouse
