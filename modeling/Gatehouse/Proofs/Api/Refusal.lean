import Gatehouse.Proofs.Api.Errand
import Gatehouse.Proofs.Service.Deletion
import Gatehouse.Proofs.Service.Identity

/-!
# What is refused changes nothing

* `Action.AllOrNothing` — an action that ends in a fault leaves the store as it was, which is so for one call, and for
  one behind any number of readings and requests to the relationship service;
* `Operation.allOrNothing` — every operation of the service is of this kind;
* `Api.respond_refused` — so that a request whose answer has another status than 200 leaves the store as it was.
-/

namespace Gatehouse

open Http (Request Response)

/-! ## Actions -/

namespace Action

open Program (inMemory)

variable {α β ρ : Type}

/-- An action that changes nothing in the store. It may ask the relationship service for anything. -/
def ReadsOnly (a : Action α) : Prop :=
  a.Makes fun
    | .store c => c.Reads
    | .relations _ => True

/-- An action that leaves the store in memory as it was when it ends in a fault, whatever the relationship service
is. -/
def AllOrNothing (a : Action α) : Prop :=
  ∀ (ρ : Type) (client : Relations.Client ρ) (s : Store) (r : ρ) (fault : Fault),
    (a.runWith (inMemory client) (s, r)).1 = .error fault → (a.runWith (inMemory client) (s, r)).2.1 = s

lemma ReadsOnly.store_eq {a : Action α} (ha : a.ReadsOnly) (client : Relations.Client ρ) (s : Store) (r : ρ) :
    (a.runWith (inMemory client) (s, r)).2.1 = s :=
  Program.run_preserves (R := fun s u => u = s) (fun _ => rfl) (fun h h' => h'.trans h)
    (fun _ hc s => Store.serve_of_reads hc s) client ha s r

lemma ReadsOnly.allOrNothing {a : Action α} (ha : a.ReadsOnly) : a.AllOrNothing :=
  fun _ client s r _ _ => ha.store_eq client s r

lemma allOrNothing_store (c : Store.Call) : (store c).AllOrNothing :=
  fun _ _ _ _ _ h => Store.serve_eq_error h

lemma ReadsOnly.bind_allOrNothing {a : Action α} (ha : a.ReadsOnly) {f : α → Action β}
    (hf : ∀ x, (f x).AllOrNothing) : (a >>= f).AllOrNothing := by
  intro ρ client s r fault h
  have hstore := ha.store_eq client s r
  rcases hrun : a.runWith (inMemory client) (s, r) with ⟨fault' | x, u, r'⟩
  · rw [hrun] at hstore
    rw [runWith_bind_error hrun]
    exact hstore
  · rw [hrun] at hstore
    cases hstore
    rw [runWith_bind_ok hrun] at h ⊢
    exact hf x ρ client u r' fault h

lemma AllOrNothing.map {a : Action α} (ha : a.AllOrNothing) (f : α → β) :
    (a >>= fun x => pure (f x)).AllOrNothing := by
  intro ρ client s r fault h
  rcases hrun : a.runWith (inMemory client) (s, r) with ⟨fault' | x, w⟩
  · rw [runWith_bind_error hrun]
    have := ha ρ client s r fault' (congrArg Prod.fst hrun)
    rwa [hrun] at this
  · rw [runWith_bind_ok hrun] at h
    cases h

end Action

/-! ## Operations -/

namespace Deletion

lemma readsOnly_stage {stage : Stage} {id : Int} {c : Relations.Call} (hc : stage.request? id = some c) :
    (stage.run id).ReadsOnly := by
  rw [run_eq hc]
  exact (Action.makes_relations (by trivial)).bind fun reply => Action.makes_ofExcept _

/-- The record goes last, so that a plan that is given up has changed nothing. -/
lemma allOrNothing_runAll_plan (id : Int) (familyIds : List Int) : (runAll id (plan familyIds)).AllOrNothing := by
  induction familyIds with
  | nil =>
    have hrecord : (runAll id [.deleteRecord]).AllOrNothing := (Action.allOrNothing_store _).map fun _ => ()
    have hinvites : (Stage.deleteInvites.run id).ReadsOnly := readsOnly_stage rfl
    exact hinvites.bind_allOrNothing fun _ => hrecord
  | cons f familyIds ih =>
    have hleave : ((Stage.leaveFamily f).run id).ReadsOnly := readsOnly_stage rfl
    exact hleave.bind_allOrNothing fun _ => ih

end Deletion

namespace Operation

open Gatehouse.Action (AllOrNothing ReadsOnly allOrNothing_store makes_account makes_ofExcept makes_pure makes_store
  makes_throw)

variable {scheme : Password.Scheme} {authority : Token.Authority}

/-- Behind an account that was added the promotion cannot fail, and in front of it nothing has changed. -/
lemma allOrNothing_ensureAdmin (occasion : Occasion) (email password : String) :
    (Service.ensureAdmin scheme occasion email password).AllOrNothing := by
  intro ρ client s r fault h
  rw [Service.ensureAdmin_eq] at h ⊢
  rcases Service.adminId_cases scheme occasion client email password s r with
    ⟨fault', hrun⟩ | ⟨id, hrun⟩ | ⟨tag, -, -, hrun⟩
  · rw [Action.runWith_bind_error hrun]
  · rw [Action.runWith_bind_ok hrun] at h ⊢
    exact (allOrNothing_store _).map (fun _ => id) ρ client s r fault h
  · obtain ⟨a, ha⟩ : ∃ a, (s.add (Service.newAdmin occasion email tag)).2.account? (s.lastId + 1) = some a := by
      rw [Store.account?_add, if_pos rfl]
      cases s.account? (s.lastId + 1) <;> exact ⟨_, rfl⟩
    rw [Action.runWith_bind_ok hrun, Service.promote_run ha r] at h
    cases h

lemma readsOnly_getProfile (id : Int) : (Service.getProfile id).ReadsOnly :=
  (makes_account id (by trivial)).bind fun _ => makes_pure _

/-- **Every operation does all or nothing:** when it ends in a fault, the store is as it was. -/
theorem allOrNothing (o : Operation) : (o.action scheme authority).AllOrNothing := by
  have hread : ∀ id, (Action.account id).ReadsOnly := fun id => makes_account id (by trivial)
  cases o with
  | signUp occasion r => exact ReadsOnly.bind_allOrNothing (makes_ofExcept _) fun text => allOrNothing_store _
  | signIn now email password =>
    refine ReadsOnly.allOrNothing ((makes_store (by trivial)).bind fun found => ?_)
    cases found with
    | none => exact makes_throw _
    | some a =>
      refine (makes_ofExcept _).bind fun known => ?_
      cases known with
      | false => exact makes_throw _
      | true => exact makes_ofExcept _
  | ensureAdmin occasion email password => exact allOrNothing_ensureAdmin occasion email password
  | getProfile id => exact (readsOnly_getProfile id).allOrNothing
  | isAdmin id => exact (hread id).bind_allOrNothing fun a => ReadsOnly.allOrNothing (makes_pure _)
  | updateProfile id patch => exact (hread id).bind_allOrNothing fun a => allOrNothing_store _
  | changePassword salt id old new =>
    refine (hread id).bind_allOrNothing fun a => ReadsOnly.bind_allOrNothing (makes_ofExcept _) fun known => ?_
    cases known with
    | false => exact ReadsOnly.allOrNothing (makes_throw _)
    | true => exact ReadsOnly.bind_allOrNothing (makes_ofExcept _) fun text => allOrNothing_store _
  | addFamilyLink id f => exact allOrNothing_store _
  | removeFamilyLink id f => exact allOrNothing_store _
  | deleteRecord id => exact allOrNothing_store _
  | deleteEverywhere id =>
    exact (readsOnly_getProfile id).bind_allOrNothing fun a => Deletion.allOrNothing_runAll_plan id a.familyIds

end Operation

/-! ## Requests -/

namespace Api

lemma status_faultAnswer (fault : Fault) : (faultAnswer fault).status ≠ 200 := by
  cases fault <;> simp [faultAnswer, answer, Fault.status]

lemma status_write (o : Operation) (a : o.Answer) : (o.write a).status = 200 ∨ ∃ id, o = .getProfile id := by
  cases o with
  | getProfile id => exact .inr ⟨id, rfl⟩
  | _ => exact .inl rfl

/-- **A request that is refused or fails changes nothing.** If the answer to a request has another status than 200, the
store is as it was: its accounts and the last id that was given out. It has one wherever the operation ends in a fault
that the request asks for, be it a registration that is refused or a deletion that is given up behind some requests to
the relationship service; and whoever changes a password without knowing the old one is refused. -/
theorem respond_refused {ρ : Type} (app : Application) (occasion : Occasion) (request : Request)
    (client : Relations.Client ρ) (s : Store) (r : ρ) :
    let run := (respond app occasion request).run (Program.inMemory client) (s, r)
    (run.1.status ≠ 200 → run.2.1 = s) ∧
    ∀ route verified o,
      passage app occasion.now request.method request.target request.headers = .handled route verified →
      Asks app occasion verified request route o →
      (∀ fault, ((o.action app.scheme app.authority).runWith (Program.inMemory client) (s, r)).1 = .error fault →
        run.1 = faultAnswer fault ∧ run.1.status ≠ 200 ∧ run.2.1 = s) ∧
      ∀ salt id old new a, o = .changePassword salt id old new → s.account? id = some a →
        app.scheme.verify a.passwordHash old = .ok false → run = (faultAnswer .wrongPassword, (s, r)) := by
  intro run
  constructor
  · intro hstatus
    rcases respond_cases app occasion request with ⟨response, h, -⟩ | ⟨route, verified, o, -, -, h⟩
    · simp only [run, h, Program.run_pure]
    · rcases hrun : (o.action app.scheme app.authority).runWith (Program.inMemory client) (s, r) with ⟨fault | a, u, r'⟩
      · have hstore := o.allOrNothing ρ client s r fault (congrArg Prod.fst hrun)
        simp only [run, h, run_perform, hrun] at hstore ⊢
        exact hstore
      · simp only [run, h, run_perform, hrun] at hstatus ⊢
        -- of the successes only the showing of a profile may have another status, and it changes nothing
        obtain ⟨id, rfl⟩ := (status_write o a).resolve_left hstatus
        have hstore : ((Service.getProfile id).runWith (Program.inMemory client) (s, r)).2.1 = s :=
          (Operation.readsOnly_getProfile id).store_eq client s r
        exact (congrArg (·.2.1) hrun).symm.trans hstore
  · intro route verified o hp hasks
    have h := respond_of_asks hp hasks
    constructor
    · intro fault herror
      have hstore := o.allOrNothing ρ client s r fault herror
      simp only [run, h, run_perform, herror]
      exact ⟨trivial, status_faultAnswer fault, hstore⟩
    · rintro salt id old new a rfl ha hwrong
      have hrun : (Service.changePassword app.scheme salt id old new).runWith (Program.inMemory client) (s, r) =
          (.error .wrongPassword, (s, r)) := by
        rw [Service.changePassword, Action.runWith_bind_ok (Action.runWith_account_of_some ha r), hwrong]
        rfl
      simp only [run, h, run_perform, Operation.action, hrun]

/-- Somebody signs up with an email address that is taken, written in another way: the answer is 409, no account is
added and no id is used up. -/
theorem respond_refused_taken :
    let stretching : Password.Stretching := ⟨fun p _ _ => some (List.replicate p.tagLength 0), by simp⟩
    let app : Application := ⟨⟨utf8 "secret", 60⟩, .standard, ⟨"", stretching⟩⟩
    let occasion : Occasion := ⟨Moment.utc 0, Vector.replicate 16 0⟩
    let account : Account := ⟨1, ⟨"a@x.com", "1", "a", "b"⟩, "h", Moment.utc 0, .user, []⟩
    let s : Store := ⟨1, [(1, account)]⟩
    let body := "\x7b\"email\":\" A@x.com\",\"password\":\"p\",\"phone_number\":\"1\",\"name\":\"c\"," ++
      "\"surname\":\"d\"\x7d"
    let request : Request := ⟨"POST", "/Auth/SignUp", [("content-type", utf8 "application/json")], utf8 body⟩
    let run := (respond app occasion request).run (Program.inMemory Startup.noClient) (s, ())
    run.1.status = 409 ∧ run.2.1 = s := by
  intro stretching app occasion account s body request run
  have hstatus : run.1.status = 409 := by decide +kernel
  have hstore := (respond_refused app occasion request Startup.noClient s ()).1
  -- the run has a name of its own from here on, so that it is not computed again
  generalize hrun : (respond app occasion request).run (Program.inMemory Startup.noClient) (s, ()) = answered at hstore
  rw [show run = answered from hrun] at hstatus ⊢
  exact ⟨hstatus, hstore (by omega)⟩

end Api

end Gatehouse
