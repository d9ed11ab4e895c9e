import Gatehouse.Proofs.Program.Run
import Gatehouse.Proofs.Store.Lookup
import Gatehouse.Service.Deletion

/-!
# What a deletion does

* `Ends`, `Survives` — which replies of the relationship service end a deletion and which do not;
* `Pursued` — a list of requests is pursued one by one, up to the first whose reply ends it;
* `runAll_plan` — a run of the stages pursues the requests of the plan, and removes the record behind them;
* `deleteEverywhere_run` — the calls, the outcome and the store of one deletion.
-/

namespace Gatehouse

/-- A relationship service that keeps the calls made so far and answers by them, the present call the last. -/
def Relations.recording (answer : List Call → Reply) : Client (List Call) :=
  fun call past => (answer (past ++ [call]), past ++ [call])

namespace Deletion

open Relations (Reply recording)

/-! ## Replies -/

/-- The reply to a request ends a deletion: to a family's request only one that tells of trouble on the other
side, to that for the invitations any failure. -/
def Ends : Relations.Call → Reply → Prop
  | .removeMember .., reply => ∃ detail, reply = .error (.unavailable detail)
  | .deleteInvites _, reply => ∃ failure, reply = .error failure

/-- A deletion goes on behind the reply to a request. -/
def Survives : Relations.Call → Reply → Prop
  | .removeMember .., reply => reply = .ok () ∨ ∃ status message, reply = .error (.rejected status message)
  | .deleteInvites _, reply => reply = .ok ()

lemma not_ends_iff_survives (c : Relations.Call) (reply : Reply) : ¬ Ends c reply ↔ Survives c reply := by
  rcases c with ⟨_, _⟩ | _ <;> rcases reply with (_ | _) | _ <;> simp [Ends, Survives]

/-- What a deletion asks of the relationship service, in order. -/
def requests (id : Int) (familyIds : List Int) : List Relations.Call :=
  familyIds.map (Relations.Call.removeMember id) ++ [.deleteInvites id]

/-! ## Pursuing requests -/

/-- Behind the calls `past` the requests `todo` are pursued as far as `made`; all of them have been survived if
`through` holds, and otherwise the reply to the last has ended it. -/
inductive Pursued (answer : List Relations.Call → Reply) :
    (past todo made : List Relations.Call) → (through : Bool) → Prop
  | nil (past : List Relations.Call) : Pursued answer past [] [] true
  | ends {past todo : List Relations.Call} {c : Relations.Call} (h : Ends c (answer (past ++ [c]))) :
      Pursued answer past (c :: todo) [c] false
  | cons {past todo made : List Relations.Call} {through : Bool} {c : Relations.Call}
      (h : Survives c (answer (past ++ [c]))) (ht : Pursued answer (past ++ [c]) todo made through) :
      Pursued answer past (c :: todo) (c :: made) through

section Pursued

variable {answer : List Relations.Call → Reply} {past todo made : List Relations.Call} {through : Bool}

lemma Pursued.isPrefix (h : Pursued answer past todo made through) : made <+: todo := by
  induction h with
  | nil past => exact List.prefix_rfl
  | ends h => exact List.cons_prefix_cons.2 ⟨rfl, List.nil_prefix⟩
  | cons h ht ih => exact List.cons_prefix_cons.2 ⟨rfl, ih⟩

lemma Pursued.eq_of_through (h : Pursued answer past todo made true) : made = todo := by
  generalize hb : true = b at h
  induction h with
  | nil past => rfl
  | ends h => cases hb
  | cons h ht ih => rw [ih hb]

lemma Pursued.survives (h : Pursued answer past todo made through) {front : List Relations.Call} {c : Relations.Call}
    (hp : front ++ [c] <+: made) (hl : through = true ∨ front ++ [c] ≠ made) :
    Survives c (answer (past ++ (front ++ [c]))) := by
  induction h generalizing front with
  | nil past => simp at hp
  | @ends past todo d h =>
    -- the only call that was made is the one that ended the pursuit
    rcases front with _ | ⟨x, front⟩
    · simp only [List.nil_append, List.cons_prefix_cons] at hp
      simp [hp.1] at hl
    · have := hp.length_le
      simp at this
  | @cons past todo made through d h ht ih =>
    rcases front with _ | ⟨x, front⟩
    · simp only [List.nil_append, List.cons_prefix_cons] at hp
      rw [hp.1]
      exact h
    · simp only [List.cons_append, List.cons_prefix_cons] at hp
      obtain ⟨rfl, hp⟩ := hp
      have := ih hp (hl.imp_right fun hne he => hne (by rw [List.cons_append, he]))
      rwa [List.append_assoc] at this

lemma Pursued.exists_ends (h : Pursued answer past todo made false) :
    ∃ front c, made = front ++ [c] ∧ Ends c (answer (past ++ made)) := by
  generalize hb : false = b at h
  induction h with
  | nil past => cases hb
  | @ends past todo c h => exact ⟨[], c, rfl, h⟩
  | @cons past todo made through d h ht ih =>
    obtain ⟨front, c, rfl, he⟩ := ih hb
    exact ⟨d :: front, c, rfl, by simpa using he⟩

/-- A pursuit goes through exactly if all requests are survived. -/
lemma Pursued.through_iff (h : Pursued answer past todo made through) :
    through = true ↔ ∀ front c, front ++ [c] <+: todo → Survives c (answer (past ++ (front ++ [c]))) := by
  constructor
  · rintro rfl front c hp
    obtain rfl := h.eq_of_through
    exact h.survives hp (.inl rfl)
  · intro hs
    cases through with
    | true => rfl
    | false =>
      obtain ⟨front, c, rfl, he⟩ := h.exists_ends
      exact absurd he ((not_ends_iff_survives _ _).2 (hs front c h.isPrefix))

end Pursued

/-! ## Running the stages -/

/-- What a stage makes of a reply. -/
def Stage.settle (stage : Stage) : Reply → Except Fault Unit
  | .ok _ => .ok ()
  | .error failure =>
    if stage.tolerance.admits failure then .ok () else .error (.internal failure.message)

lemma run_eq {stage : Stage} {id : Int} {c : Relations.Call} (hc : stage.request? id = some c) :
    stage.run id = Action.relations c >>= fun reply => Action.ofExcept (stage.settle reply) := by
  unfold Stage.run
  simp only [hc]
  refine congrArg (Action.relations c >>= ·) (funext fun reply => ?_)
  cases reply with
  | ok _ => rfl
  | error failure =>
    dsimp only [Stage.settle]
    split <;> rfl

/-- A stage succeeds behind exactly the replies that a deletion survives. -/
lemma settle_eq_ok_iff {stage : Stage} {id : Int} {c : Relations.Call} {reply : Reply}
    (hc : stage.request? id = some c) : stage.settle reply = .ok () ↔ Survives c reply := by
  cases stage with
  | leaveFamily f =>
    cases hc
    rcases reply with (detail | ⟨status, message⟩) | u <;>
      simp [Stage.settle, Stage.tolerance, Tolerance.admits, Relations.Failure.isUnavailable, Survives]
  | deleteInvites =>
    cases hc
    rcases reply with failure | u <;> simp [Stage.settle, Stage.tolerance, Tolerance.admits, Survives]
  | deleteRecord => cases hc

section Run

variable {s : Store} {id : Int} (answer : List Relations.Call → Reply) (past : List Relations.Call)

lemma run_stage_eq (s : Store) {stage : Stage} {c : Relations.Call} (hc : stage.request? id = some c) :
    (stage.run id).runWith (Program.inMemory (recording answer)) (s, past) =
      (stage.settle (answer (past ++ [c])), (s, past ++ [c])) := by
  rw [run_eq hc, Action.runWith_bind_ok (Action.runWith_relations _ _ _), Action.runWith_ofExcept]
  rfl

/-- A stage that asks for something goes on if it survives the reply, and fails if the reply ends it. -/
lemma run_stage (s : Store) {stage : Stage} {c : Relations.Call} (hc : stage.request? id = some c) :
    (Survives c (answer (past ++ [c])) ∧
      (stage.run id).runWith (Program.inMemory (recording answer)) (s, past) = (.ok (), (s, past ++ [c]))) ∨
    (Ends c (answer (past ++ [c])) ∧ ∃ detail,
      (stage.run id).runWith (Program.inMemory (recording answer)) (s, past) =
        (.error (.internal detail), (s, past ++ [c]))) := by
  rw [run_stage_eq answer past s hc]
  cases stage with
  | leaveFamily f =>
    cases hc
    rcases answer _ with (detail | ⟨status, message⟩) | u
    · exact .inr ⟨⟨detail, rfl⟩, _, rfl⟩
    · exact .inl ⟨.inr ⟨status, message, rfl⟩, rfl⟩
    · exact .inl ⟨.inl rfl, rfl⟩
  | deleteInvites =>
    cases hc
    rcases answer _ with failure | u
    · exact .inr ⟨⟨failure, rfl⟩, _, rfl⟩
    · exact .inl ⟨rfl, rfl⟩
  | deleteRecord => cases hc

lemma run_deleteRecord {a : Account} (ha : s.account? id = some a) :
    (Stage.deleteRecord.run id).runWith (Program.inMemory (recording answer)) (s, past) =
      (.ok (), (s.erase id, past)) := by
  show (Action.store (.delete id)).runWith _ _ = _
  rw [Action.runWith_store, Store.serve, ha]

/-- **The run of a plan.** The requests are pursued in order; if that goes through the record is removed, and if
not the store is left as it was and the fault is an internal one. -/
theorem runAll_plan {a : Account} (ha : s.account? id = some a) (familyIds : List Int) :
    ∃ made through, Pursued answer past (requests id familyIds) made through ∧
      ∃ result, (runAll id (plan familyIds)).runWith (Program.inMemory (recording answer)) (s, past) =
          (result, (if through then s.erase id else s, past ++ made)) ∧
        (through = true → result = .ok ()) ∧ (through = false → ∃ detail, result = .error (.internal detail)) := by
  induction familyIds generalizing past with
  | nil =>
    show ∃ made through, Pursued answer past [.deleteInvites id] made through ∧
      ∃ result, (Stage.deleteInvites.run id >>= fun _ => Stage.deleteRecord.run id >>= fun _ => pure ()).runWith _ _ =
        _ ∧ _
    rcases run_stage answer past s (show Stage.deleteInvites.request? id = some _ from rfl) with
      ⟨hs, hrun⟩ | ⟨he, detail, hrun⟩
    · refine ⟨_, true, .cons hs (.nil _), .ok (), ?_, fun _ => rfl, by simp⟩
      rw [Action.runWith_bind_ok hrun, Action.runWith_bind_ok (run_deleteRecord answer _ ha)]
      rfl
    · refine ⟨_, false, .ends he, _, ?_, by simp, fun _ => ⟨detail, rfl⟩⟩
      rw [Action.runWith_bind_error hrun]
      rfl
  | cons f familyIds ih =>
    show ∃ made through, Pursued answer past (.removeMember id f :: requests id familyIds) made through ∧
      ∃ result, ((Stage.leaveFamily f).run id >>= fun _ => runAll id (plan familyIds)).runWith _ _ = _ ∧ _
    rcases run_stage answer past s (show (Stage.leaveFamily f).request? id = some _ from rfl) with
      ⟨hs, hrun⟩ | ⟨he, detail, hrun⟩
    · obtain ⟨made, through, hp, result, hrest, hok, herr⟩ := ih (past ++ [.removeMember id f])
      refine ⟨_, through, .cons hs hp, result, ?_, hok, herr⟩
      rw [Action.runWith_bind_ok hrun, hrest]
      simp
    · refine ⟨_, false, .ends he, _, ?_, by simp, fun _ => ⟨detail, rfl⟩⟩
      rw [Action.runWith_bind_error hrun]
      rfl

end Run

/-! ## A deletion that succeeds -/

section Success

variable {ρ : Type} {client : Relations.Client ρ} {s u : Store} {p q : ρ} {id : Int}

lemma account?_of_deleteRecord
    (h : (Stage.deleteRecord.run id).runWith (Program.inMemory client) (s, p) = (.ok (), (u, q))) :
    (∃ a, s.account? id = some a) ∧ u.account? id = none := by
  have hserve : ((s.serve (.delete id)).1, ((s.serve (.delete id)).2, p)) = (.ok (), (u, q)) := h
  cases ha : s.account? id with
  | none => simp [Store.serve, ha] at hserve
  | some a =>
    simp only [Store.serve, ha, Prod.mk.injEq, true_and] at hserve
    rw [← hserve.1, Store.account?_erase, if_pos rfl]
    exact ⟨⟨a, rfl⟩, rfl⟩

lemma account?_of_runAll {front : List Stage}
    (h : (runAll id (front ++ [.deleteRecord])).runWith (Program.inMemory client) (s, p) = (.ok (), (u, q))) :
    u.account? id = none := by
  induction front generalizing s p with
  | nil =>
    rcases hrun : (Stage.deleteRecord.run id).runWith (Program.inMemory client) (s, p) with ⟨fault | ⟨⟩, v, r⟩
    · exact absurd ((Action.runWith_bind_error hrun _).symm.trans h) (by simp)
    · cases (Action.runWith_bind_ok hrun _).symm.trans h
      exact (account?_of_deleteRecord hrun).2
  | cons stage front ih =>
    rcases hrun : (stage.run id).runWith (Program.inMemory client) (s, p) with ⟨fault | ⟨⟩, v, r⟩
    · exact absurd ((Action.runWith_bind_error hrun _).symm.trans h) (by simp)
    · exact ih ((Action.runWith_bind_ok hrun _).symm.trans h)

lemma deleteEverywhere_of_some {a : Account} (ha : s.account? id = some a) (p : ρ) :
    (Service.deleteEverywhere id).runWith (Program.inMemory client) (s, p) =
      (runAll id (plan a.familyIds)).runWith (Program.inMemory client) (s, p) := by
  have hprofile : (Service.getProfile id).runWith (Program.inMemory client) (s, p) =
      (.ok { a with passwordHash := "" }, (s, p)) :=
    Action.runWith_bind_ok (Action.runWith_account_of_some ha p) _
  exact Action.runWith_bind_ok hprofile _

/-- **A deletion that succeeds** found the record of the account and leaves none, whatever the relationship service
is. -/
theorem account?_of_deleteEverywhere
    (h : (Service.deleteEverywhere id).runWith (Program.inMemory client) (s, p) = (.ok (), (u, q))) :
    (∃ a, s.account? id = some a) ∧ u.account? id = none := by
  cases ha : s.account? id with
  | none =>
    have hrun : (Service.deleteEverywhere id).runWith (Program.inMemory client) (s, p) =
        (.error .accountNotFound, (s, p)) :=
      Action.runWith_bind_error (Action.runWith_bind_error (Action.runWith_account_of_none ha p) _) _
    exact absurd (hrun.symm.trans h) (by simp)
  | some a =>
    have hplan := (deleteEverywhere_of_some ha p).symm.trans h
    have hsplit : plan a.familyIds = (a.familyIds.map Stage.leaveFamily ++ [.deleteInvites]) ++ [.deleteRecord] := by
      simp [plan]
    rw [hsplit] at hplan
    exact ⟨⟨a, rfl⟩, account?_of_runAll hplan⟩

end Success

/-! ## A whole deletion -/

/-- **One deletion, on any store and with any relationship service.** Without an account it asks nothing. With one
it makes its requests in order, up to the first whose reply ends it; it succeeds exactly if none does, and then
the record is gone and nothing else has changed; on every fault, an internal one, the store is as before. -/
theorem deleteEverywhere_run (answer : List Relations.Call → Reply) (s : Store) (id : Int) :
    let run := (Service.deleteEverywhere id).runWith (Program.inMemory (recording answer)) (s, [])
    let result := run.1
    let store := run.2.1
    let calls := run.2.2
    (s.account? id = none → result = .error .accountNotFound ∧ calls = [] ∧ store = s) ∧
    ∀ a, s.account? id = some a →
      (calls <+: requests id a.familyIds ∧
        (∀ front c, front ++ [c] <+: calls → front ++ [c] ≠ calls → Survives c (answer (front ++ [c]))) ∧
        (result = .ok () ∧ calls = requests id a.familyIds ∨
          ∃ front c, calls = front ++ [c] ∧ Ends c (answer calls))) ∧
      (result = .ok () ↔
        ∀ front c, front ++ [c] <+: requests id a.familyIds → Survives c (answer (front ++ [c]))) ∧
      (result = .ok () → store.account? id = none ∧ (∀ j ≠ id, store.account? j = s.account? j) ∧
        store.lastId = s.lastId) ∧
      ∀ fault, result = .error fault → store = s ∧ ∃ detail, fault = .internal detail := by
  intro run result store calls
  constructor
  · intro ha
    have hrun : run = (.error .accountNotFound, (s, [])) := by
      refine Action.runWith_bind_error ?_ _
      exact Action.runWith_bind_error (Action.runWith_account_of_none ha _) _
    exact ⟨congrArg Prod.fst hrun, congrArg (·.2.2) hrun, congrArg (·.2.1) hrun⟩
  · intro a ha
    obtain ⟨made, through, hp, r, hplan, hok, herr⟩ := runAll_plan answer [] ha a.familyIds
    have hrun : run = (r, (if through then s.erase id else s, made)) := by
      have hprofile : (Service.getProfile id).runWith (Program.inMemory (recording answer)) (s, []) =
          (.ok { a with passwordHash := "" }, (s, [])) :=
        Action.runWith_bind_ok (Action.runWith_account_of_some ha _) _
      exact (Action.runWith_bind_ok hprofile _).trans hplan
    have hresult : result = r := congrArg Prod.fst hrun
    have hcalls : calls = made := congrArg (·.2.2) hrun
    have hstore : store = if through then s.erase id else s := congrArg (·.2.1) hrun
    rw [hresult, hcalls, hstore]
    have hthrough : r = .ok () ↔ through = true := by
      cases through with
      | true => simp [hok rfl]
      | false => obtain ⟨detail, rfl⟩ := herr rfl; simp
    refine ⟨⟨hp.isPrefix, fun front c hf hne => hp.survives hf (.inr hne), ?_⟩, ?_, ?_, ?_⟩
    · cases through with
      | true => exact .inl ⟨hok rfl, hp.eq_of_through⟩
      | false => exact .inr hp.exists_ends
    · rw [hthrough, hp.through_iff]
      rfl
    · intro h
      rw [hthrough.1 h, if_pos rfl]
      exact ⟨by simp [Store.account?_erase], fun j hj => by simp [Store.account?_erase, hj], rfl⟩
    · rintro fault rfl
      cases through with
      | true => cases hok rfl
      | false =>
        obtain ⟨detail, h⟩ := herr rfl
        cases h
        exact ⟨rfl, detail, rfl⟩

end Deletion

end Gatehouse
