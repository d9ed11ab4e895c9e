import Gatehouse.Proofs.Program.Behaviour
import Gatehouse.Proofs.Service.Deletion
import Mathlib.Data.Set.Basic

/-!
# Deletions that are tried again

* `Relations.Registry` — what the relationship service keeps, and `Registry.Answers` how it answers: as it should, or
  in trouble, where it may have done what was asked or not;
* `runs_plan`, `runs_deleteEverywhere` — a deletion over such a service is stopped, given up or carried out, and only
  in the last case anything has changed here;
* `retries_converge` — after any number of deletions that were stopped or given up the account is as it was, the first
  one that succeeds leaves no trace of it, and one that meets no trouble succeeds.
-/

namespace Gatehouse

/-! ## The relationship service -/

namespace Relations

/-- What the relationship service keeps: who belongs to which family, and who has invitations. -/
structure Registry where
  members : Set (Int × Int)
  invited : Set Int

namespace Registry

/-- The registry when a request has been carried out. -/
def carryOut (g : Registry) : Call → Registry
  | .removeMember u f => { g with members := { m ∈ g.members | m ≠ (u, f) } }
  | .deleteInvites u => { g with invited := { i ∈ g.invited | i ≠ u } }

/-- How the service answers. A request may always be answered by trouble, before or after it was carried out. -/
inductive Answers : Call → Registry → Reply → Registry → Prop
  | removed {g : Registry} {u f : Int} (h : (u, f) ∈ g.members) :
      Answers (.removeMember u f) g (.ok ()) (g.carryOut (.removeMember u f))
  | noMember {g : Registry} {u f : Int} (h : (u, f) ∉ g.members) (status : Nat) (message : String) :
      Answers (.removeMember u f) g (.error (.rejected status message)) g
  | withdrawn (g : Registry) (u : Int) : Answers (.deleteInvites u) g (.ok ()) (g.carryOut (.deleteInvites u))
  | lost (c : Call) (g : Registry) (detail : String) : Answers c g (.error (.unavailable detail)) g
  | unconfirmed (c : Call) (g : Registry) (detail : String) :
      Answers c g (.error (.unavailable detail)) (g.carryOut c)

/-- Nothing is left of what a request asks to be forgotten. -/
def Forgot (g : Registry) : Call → Prop
  | .removeMember u f => (u, f) ∉ g.members
  | .deleteInvites u => u ∉ g.invited

/-- One registry holds no more than another. -/
def Within (g h : Registry) : Prop := h.members ⊆ g.members ∧ h.invited ⊆ g.invited

variable {c : Call} {g g' : Registry} {reply : Reply}

lemma Within.refl (g : Registry) : g.Within g := ⟨subset_rfl, subset_rfl⟩

lemma Within.trans {h i : Registry} (hg : g.Within h) (hi : h.Within i) : g.Within i :=
  ⟨hi.1.trans hg.1, hi.2.trans hg.2⟩

lemma carryOut_within (g : Registry) (c : Call) : g.Within (g.carryOut c) := by
  cases c with
  | removeMember u f => exact ⟨fun _ hm => hm.1, subset_rfl⟩
  | deleteInvites u => exact ⟨subset_rfl, fun _ hm => hm.1⟩

lemma forgot_carryOut (g : Registry) (c : Call) : (g.carryOut c).Forgot c := by
  cases c <;> simp [carryOut, Forgot]

lemma Forgot.of_within (h : g.Forgot c) (hg : g.Within g') : g'.Forgot c := by
  cases c with
  | removeMember u f => exact fun hm => h (hg.1 hm)
  | deleteInvites u => exact fun hm => h (hg.2 hm)

lemma Answers.within (h : Answers c g reply g') : g.Within g' := by
  cases h with
  | removed h => exact carryOut_within g _
  | noMember h status message => exact .refl g
  | withdrawn g u => exact carryOut_within g _
  | lost c g detail => exact .refl g
  | unconfirmed c g detail => exact carryOut_within g _

/-- Unless it tells of trouble, an answer is one that a deletion survives, and nothing is left of what was to be
forgotten. -/
lemma Answers.cases (h : Answers c g reply g') :
    (∃ detail, reply = .error (.unavailable detail)) ∨ Deletion.Survives c reply ∧ g'.Forgot c := by
  cases h with
  | removed h => exact .inr ⟨.inl rfl, forgot_carryOut g _⟩
  | noMember h status message => exact .inr ⟨.inr ⟨status, message, rfl⟩, h⟩
  | withdrawn g u => exact .inr ⟨rfl, forgot_carryOut g _⟩
  | lost c g detail => exact .inl ⟨detail, rfl⟩
  | unconfirmed c g detail => exact .inl ⟨detail, rfl⟩

lemma exists_answer (c : Call) (g : Registry) :
    ∃ reply g', Answers c g reply g' ∧ ∀ detail, reply ≠ .error (.unavailable detail) := by
  cases c with
  | removeMember u f =>
    by_cases hm : (u, f) ∈ g.members
    · exact ⟨_, _, .removed hm, by simp⟩
    · exact ⟨_, _, .noMember hm 404 "no member", by simp⟩
  | deleteInvites u => exact ⟨_, _, .withdrawn g u, by simp⟩

end Registry

/-- No exchange tells of trouble. -/
def Calm (log : List Exchange) : Prop := ∀ e ∈ log, ∀ detail, e.2 ≠ .error (.unavailable detail)

end Relations

namespace Deletion

open Relations (Registry Exchange Calm)
open Gatehouse.Action (Runs runs_bind_iff runs_relations_bind_iff runs_store_iff runs_pure_iff runs_ofExcept_iff)

/-! ## One deletion -/

variable {s u : Store} {g g' : Registry} {id : Int} {log : List Exchange} {outcome : Option (Except Fault Unit)}

/-- A stage that asks for something leaves the store alone. It is stopped, fails after an answer that tells of
trouble, or succeeds and nothing is left of what it asks to be forgotten. -/
lemma runs_stage {stage : Stage} {c : Relations.Call} (hc : stage.request? id = some c)
    (h : Runs Registry.Answers (stage.run id) (s, g) log outcome (u, g')) :
    u = s ∧ (outcome = none ∨ (∃ detail, outcome = some (.error (.internal detail)) ∧ ¬ Calm log) ∨
      outcome = some (.ok ()) ∧ g'.Forgot c) := by
  rw [run_eq hc, runs_relations_bind_iff] at h
  rcases h with ⟨-, rfl, hv⟩ | ⟨reply, q, log', ha, rfl, hsettle⟩
  · cases hv
    exact ⟨rfl, .inl rfl⟩
  · obtain ⟨rfl, rfl, hv⟩ := runs_ofExcept_iff.1 hsettle
    cases hv
    refine ⟨rfl, .inr ?_⟩
    rcases ha.cases with ⟨detail, rfl⟩ | ⟨hs, hforgot⟩
    · have htrouble : ¬ Calm [(c, .error (.unavailable detail))] := by simp [Calm]
      exact .inl ⟨Relations.Failure.message (.unavailable detail), by cases stage <;> rfl, htrouble⟩
    · exact .inr ⟨by rw [(settle_eq_ok_iff hc).2 hs], hforgot⟩

lemma runs_stage_then {stage : Stage} {stages : List Stage} {c : Relations.Call} (hc : stage.request? id = some c)
    (h : Runs Registry.Answers (runAll id (stage :: stages)) (s, g) log outcome (u, g')) :
    (outcome = none ∧ u = s) ∨ (∃ detail, outcome = some (.error (.internal detail)) ∧ u = s ∧ ¬ Calm log) ∨
    ∃ g₁ log₁ log₂, log = log₁ ++ log₂ ∧ g₁.Forgot c ∧
      Runs Registry.Answers (runAll id stages) (s, g₁) log₂ outcome (u, g') := by
  rcases runs_bind_iff.1 h with ⟨rfl, hs⟩ | ⟨fault, rfl, hs⟩ | ⟨⟨⟩, ⟨v, g₁⟩, log₁, log₂, rfl, hs, hrest⟩
  · exact .inl ⟨rfl, (runs_stage hc hs).1⟩
  · obtain ⟨rfl, ho | ⟨detail, ho, hcalm⟩ | ⟨ho, -⟩⟩ := runs_stage hc hs
    · cases ho
    · exact .inr (.inl ⟨detail, ho, rfl, hcalm⟩)
    · cases ho
  · obtain ⟨rfl, ho | ⟨detail, ho, -⟩ | ⟨-, hforgot⟩⟩ := runs_stage hc hs
    · cases ho
    · cases ho
    · exact .inr (.inr ⟨g₁, log₁, log₂, rfl, hforgot, hrest⟩)

lemma runs_deleteRecord {a : Account} (ha : s.account? id = some a)
    (h : Runs Registry.Answers (runAll id [.deleteRecord]) (s, g) log outcome (u, g')) :
    g' = g ∧ (outcome = none ∧ u = s ∨ outcome = some (.ok ()) ∧ u = s.erase id) := by
  have hserve : s.serve (.delete id) = (.ok (), s.erase id) := by
    rw [Store.serve, ha]
  rcases runs_bind_iff.1 h with ⟨rfl, hs⟩ | ⟨fault, rfl, hs⟩ | ⟨⟨⟩, v, log₁, log₂, rfl, hs, hrest⟩
  all_goals obtain ⟨-, ⟨ho, hv⟩ | ⟨ho, hv⟩⟩ := runs_store_iff.1 hs
  · cases hv
    exact ⟨rfl, .inl ⟨rfl, rfl⟩⟩
  · cases ho
  · cases ho
  · rw [hserve] at ho
    cases ho
  · cases ho
  · rw [hserve] at hv
    obtain ⟨-, rfl, hu⟩ := runs_pure_iff.1 hrest
    cases hu.trans hv
    exact ⟨rfl, .inr ⟨rfl, rfl⟩⟩

/-- What is forgotten when a deletion is carried out: the memberships in the families of the account, and its
invitations. -/
def Forgotten (id : Int) (familyIds : List Int) (g : Registry) : Prop :=
  (∀ f ∈ familyIds, (id, f) ∉ g.members) ∧ id ∉ g.invited

/-- **The stages of a deletion** are stopped, or fail after an answer that tells of trouble, and leave the store as it
was; or they are carried out, and then the record is gone and the relationship service has forgotten the account. -/
theorem runs_plan {a : Account} (ha : s.account? id = some a) {familyIds : List Int}
    (h : Runs Registry.Answers (runAll id (plan familyIds)) (s, g) log outcome (u, g')) :
    (outcome = none ∧ u = s) ∨ (∃ detail, outcome = some (.error (.internal detail)) ∧ u = s ∧ ¬ Calm log) ∨
      (outcome = some (.ok ()) ∧ u = s.erase id ∧ Forgotten id familyIds g') := by
  -- each stage but the last asks for something, and the registry that it leaves is where the next one starts
  induction familyIds generalizing g log with
  | nil =>
    rcases runs_stage_then (show Stage.deleteInvites.request? id = some _ from rfl) h with
      hstop | hfail | ⟨g₁, log₁, log₂, rfl, hforgot, hrest⟩
    · exact .inl hstop
    · exact .inr (.inl hfail)
    · obtain ⟨rfl, hstop | ⟨rfl, rfl⟩⟩ := runs_deleteRecord ha hrest
      · exact .inl hstop
      · exact .inr (.inr ⟨rfl, rfl, by simp, hforgot⟩)
  | cons f familyIds ih =>
    rcases runs_stage_then (show (Stage.leaveFamily f).request? id = some _ from rfl) h with
      hstop | hfail | ⟨g₁, log₁, log₂, rfl, hforgot, hrest⟩
    · exact .inl hstop
    · exact .inr (.inl hfail)
    · rcases ih hrest with hstop | ⟨detail, ho, hu, hcalm⟩ | ⟨ho, hu, hfamilies, hinvites⟩
      · exact .inl hstop
      · exact .inr (.inl ⟨detail, ho, hu, fun hc => hcalm fun e he => hc e (List.mem_append_right _ he)⟩)
      · -- the membership that was given up first does not come back in the later stages
        have hwithin : g₁.Within g' :=
          Program.Runs.peer Registry.Within.refl Registry.Within.trans Registry.Answers.within hrest
        have hf : (id, f) ∉ g'.members := hforgot.of_within hwithin
        exact .inr (.inr ⟨ho, hu, List.forall_mem_cons.2 ⟨hf, hfamilies⟩, hinvites⟩)

lemma runs_getProfile {found : Option (Except Fault Account)} {v : Store × Registry}
    (h : Runs Registry.Answers (Service.getProfile id) (s, g) log found v) :
    log = [] ∧ v = (s, g) ∧ (found = none ∨ found = some (.error .accountNotFound) ∧ s.account? id = none ∨
      ∃ a, found = some (.ok { a with passwordHash := "" }) ∧ s.account? id = some a) := by
  rcases runs_bind_iff.1 h with ⟨rfl, hs⟩ | ⟨fault, rfl, hs⟩ | ⟨a, w, log₁, log₂, rfl, hs, hrest⟩
  all_goals obtain ⟨rfl, rfl, ho | ⟨ho, hn⟩ | ⟨b, ho, hb⟩⟩ := hs.account
  all_goals cases ho
  · exact ⟨rfl, rfl, .inl rfl⟩
  · exact ⟨rfl, rfl, .inr (.inl ⟨rfl, hn⟩)⟩
  · obtain ⟨rfl, rfl, rfl⟩ := runs_pure_iff.1 hrest
    exact ⟨rfl, rfl, .inr (.inr ⟨a, rfl, hb⟩)⟩

/-- **A deletion over the registry.** Without an account it does nothing. With one it is stopped, or fails after an
answer that tells of trouble, and leaves the store as it was; or it is carried out. -/
theorem runs_deleteEverywhere
    (h : Runs Registry.Answers (Service.deleteEverywhere id) (s, g) log outcome (u, g')) :
    (outcome = none ∧ u = s) ∨ (outcome = some (.error .accountNotFound) ∧ s.account? id = none ∧ u = s) ∨
      ∃ a, s.account? id = some a ∧
        ((∃ detail, outcome = some (.error (.internal detail)) ∧ u = s ∧ ¬ Calm log) ∨
          (outcome = some (.ok ()) ∧ u = s.erase id ∧ Forgotten id a.familyIds g')) := by
  rcases runs_bind_iff.1 h with ⟨rfl, hp⟩ | ⟨fault, rfl, hp⟩ | ⟨a, v, log₁, log₂, rfl, hp, hplan⟩
  all_goals obtain ⟨rfl, hv, ho | ⟨ho, hn⟩ | ⟨b, ho, hb⟩⟩ := runs_getProfile hp
  all_goals cases ho
  · cases hv
    exact .inl ⟨rfl, rfl⟩
  · cases hv
    exact .inr (.inl ⟨rfl, hn, rfl⟩)
  · subst hv
    rcases runs_plan hb hplan with hstop | hfail | hdone
    · exact .inl hstop
    · exact .inr (.inr ⟨b, hb, .inl hfail⟩)
    · exact .inr (.inr ⟨b, hb, .inr hdone⟩)

lemma store_eq_of_ne_ok {w v : Store × Registry} (h : Runs Registry.Answers (Service.deleteEverywhere id) w log outcome v)
    (ho : outcome ≠ some (.ok ())) : v.1 = w.1 := by
  rcases runs_deleteEverywhere h with ⟨-, hu⟩ | ⟨-, -, hu⟩ | ⟨a, -, ⟨-, -, hu, -⟩ | ⟨hok, -⟩⟩
  · exact hu
  · exact hu
  · exact hu
  · exact absurd hok ho

/-- A deletion that succeeds found the account, and leaves no trace of it. -/
lemma exists_account_of_ok {w v : Store × Registry}
    (h : Runs Registry.Answers (Service.deleteEverywhere id) w log (some (.ok ())) v) :
    ∃ a, w.1.account? id = some a ∧ v.1 = w.1.erase id ∧ Forgotten id a.familyIds v.2 := by
  rcases runs_deleteEverywhere h with ⟨ho, -⟩ | ⟨ho, -⟩ | ⟨a, ha, ⟨_, ho, -⟩ | ⟨-, hu, hforgotten⟩⟩
  · cases ho
  · cases ho
  · cases ho
  · exact ⟨a, ha, hu, hforgotten⟩

/-- A deletion of an account that is there succeeds if it is not stopped and meets no trouble. -/
lemma eq_ok_of_calm {w v : Store × Registry} {a : Account} {result : Except Fault Unit}
    (h : Runs Registry.Answers (Service.deleteEverywhere id) w log (some result) v) (hcalm : Calm log)
    (ha : w.1.account? id = some a) : result = .ok () := by
  rcases runs_deleteEverywhere h with ⟨ho, -⟩ | ⟨-, hn, -⟩ | ⟨b, -, ⟨-, -, -, htrouble⟩ | ⟨ho, -⟩⟩
  · cases ho
  · rw [ha] at hn
    cases hn
  · exact absurd hcalm htrouble
  · exact Option.some.inj ho

/-! ## Many deletions -/

/-- Deletions of one account, one after another, with their outcomes. -/
inductive Retries (id : Int) : Store × Registry → List (Option (Except Fault Unit)) → Store × Registry → Prop
  | nil (w : Store × Registry) : Retries id w [] w
  | cons {w v u : Store × Registry} {log : List Exchange} {outcome : Option (Except Fault Unit)}
      {outcomes : List (Option (Except Fault Unit))}
      (h : Runs Registry.Answers (Service.deleteEverywhere id) w log outcome v) (ht : Retries id v outcomes u) :
      Retries id w (outcome :: outcomes) u

section Retries

variable {w v : Store × Registry} {outcomes : List (Option (Except Fault Unit))} (h : Retries id w outcomes v)
include h

lemma Retries.store_eq (ho : some (.ok ()) ∉ outcomes) : v.1 = w.1 := by
  induction h with
  | nil w => rfl
  | cons h ht ih =>
    rw [List.mem_cons, not_or] at ho
    exact (ih ho.2).trans (store_eq_of_ne_ok h (Ne.symm ho.1))

lemma Retries.account?_eq_none_of_eq_none (hn : w.1.account? id = none) : v.1.account? id = none := by
  induction h with
  | nil w => exact hn
  | cons h ht ih =>
    refine ih ?_
    rw [store_eq_of_ne_ok h, hn]
    rintro rfl
    obtain ⟨a, ha, -⟩ := exists_account_of_ok h
    rw [hn] at ha
    cases ha

lemma Retries.account?_eq_none (ho : some (.ok ()) ∈ outcomes) : v.1.account? id = none := by
  induction h with
  | nil w => cases ho
  | cons h ht ih =>
    rcases List.mem_cons.1 ho with rfl | ho
    · obtain ⟨a, -, hu, -⟩ := exists_account_of_ok h
      exact ht.account?_eq_none_of_eq_none (by rw [hu, Store.account?_erase, if_pos rfl])
    · exact ih ho

end Retries

lemma exists_calm_run {α : Type} (p : Program α) (w : Store × Registry) :
    ∃ log result v, Program.Runs Registry.Answers p w log (some result) v ∧ Calm log := by
  induction p generalizing w with
  | done a => exact ⟨[], a, w, .done a w, by simp [Calm]⟩
  | ask c next ih =>
    obtain ⟨s, g⟩ := w
    cases c with
    | store c =>
      obtain ⟨log, result, v, hr, hcalm⟩ := ih (s.serve c).1 ((s.serve c).2, g)
      exact ⟨log, result, v, .store hr, hcalm⟩
    | relations c =>
      obtain ⟨reply, g', ha, hreply⟩ := Registry.exists_answer c g
      obtain ⟨log, result, v, hr, hcalm⟩ := ih reply (s, g')
      exact ⟨_, result, v, .relations ha hr, List.forall_mem_cons.2 ⟨hreply, hcalm⟩⟩

/-- **A deletion may be tried again until it succeeds.** Consider any deletions of one account, each of them stopped in
front of any of its calls, given up, or carried out, over a relationship service that may be in trouble at any time and
may have done what it was asked nevertheless. Until one succeeds, the store is as at the start. Whichever run succeeds
next is the first one that does; it removes the record that was there at the start and nothing else, and no membership
of the account in the families of that record and no invitation is left. A run that is not stopped and meets no trouble
succeeds as long as the account is there, and there is always such a run. What the service does with a client that
answers so is one of these runs. -/
theorem retries_converge {start w : Store × Registry} {outcomes : List (Option (Except Fault Unit))}
    (h : Retries id start outcomes w) :
    (some (.ok ()) ∉ outcomes → w.1 = start.1) ∧
    (∀ log outcome v, Runs Registry.Answers (Service.deleteEverywhere id) w log outcome v →
      (outcome ≠ some (.ok ()) → v.1 = w.1) ∧
      (outcome = some (.ok ()) → some (.ok ()) ∉ outcomes ∧ ∃ a, start.1.account? id = some a ∧
        v.1 = start.1.erase id ∧ (∀ f ∈ a.familyIds, (id, f) ∉ v.2.members) ∧ id ∉ v.2.invited) ∧
      ∀ result a, outcome = some result → Calm log → w.1.account? id = some a → result = .ok ()) ∧
    (∃ log result v, Runs Registry.Answers (Service.deleteEverywhere id) w log (some result) v ∧ Calm log) ∧
    ∀ (σ : Type) (client : Relations.Client σ) (view : σ → Registry) (r : σ),
      client.Conforms Registry.Answers view → view r = w.2 →
      let run := (Service.deleteEverywhere id).runWith (Program.inMemory client) (w.1, r)
      ∃ log, Runs Registry.Answers (Service.deleteEverywhere id) w log (some run.1) (run.2.1, view run.2.2) := by
  refine ⟨h.store_eq, fun log outcome v hr => ⟨store_eq_of_ne_ok hr, ?_, ?_⟩, exists_calm_run _ w, ?_⟩
  · rintro rfl
    obtain ⟨a, ha, hu, hforgotten⟩ := exists_account_of_ok hr
    have hfirst : some (.ok ()) ∉ outcomes := by
      intro ho
      rw [h.account?_eq_none ho] at ha
      cases ha
    rw [h.store_eq hfirst] at ha hu
    exact ⟨hfirst, a, ha, hu, hforgotten⟩
  · rintro result a rfl hcalm ha
    exact eq_ok_of_calm hr hcalm ha
  · intro σ client view r hclient hview
    obtain ⟨s, g⟩ := w
    cases hview
    exact Program.runs_run hclient _ s r

/-- An account in two families with an invitation. In a first deletion the first request is carried out but not
confirmed, so that it is given up; a second one finds no member there, goes on and is stopped behind the next family.
The account is still as it was, and whichever run succeeds next leaves no trace of it. -/
theorem retries_converge_behind_trouble :
    let account : Account := ⟨1, ⟨"a@x.com", "1", "a", "b"⟩, "h", Moment.utc 0, .user, [3, 4]⟩
    let start : Store × Registry := (⟨1, [(1, account)]⟩, ⟨Set.univ, Set.univ⟩)
    let trouble := Relations.Failure.unavailable "timeout"
    let outcomes := [some (.error (.internal trouble.message)), none]
    ∃ w : Store × Registry, Retries 1 start outcomes w ∧ w.1 = start.1 ∧ (1, 3) ∉ w.2.members ∧
      ∀ log v, Runs Registry.Answers (Service.deleteEverywhere 1) w log (some (.ok ())) v →
        v.1.account? 1 = none ∧ (1, 3) ∉ v.2.members ∧ (1, 4) ∉ v.2.members ∧ 1 ∉ v.2.invited := by
  intro account start trouble outcomes
  let halfway := start.2.carryOut (.removeMember 1 3)
  let stopped := halfway.carryOut (.removeMember 1 4)
  have hmember : (1, 3) ∉ halfway.members := by simp [halfway, Registry.carryOut]
  have hother : (1, 4) ∈ halfway.members := by simp [halfway, start, Registry.carryOut]
  have hfirst : Runs Registry.Answers (Service.deleteEverywhere 1) start
      [(.removeMember 1 3, .error trouble)] (some (.error (.internal trouble.message))) (start.1, halfway) :=
    .store (.relations (.unconfirmed _ _ _) (.done _ _))
  have hsecond : Runs Registry.Answers (Service.deleteEverywhere 1) (start.1, halfway)
      [(.removeMember 1 3, .error (.rejected 404 "no member")), (.removeMember 1 4, .ok ())] none
      (start.1, stopped) :=
    .store (.relations (.noMember hmember _ _) (.relations (.removed hother) (.stopped _ _ _)))
  have hretries : Retries 1 start outcomes (start.1, stopped) := .cons hfirst (.cons hsecond (.nil _))
  obtain ⟨hsame, hnext, -⟩ := retries_converge hretries
  refine ⟨_, hretries, hsame (by simp [outcomes]), by simp [stopped, halfway, Registry.carryOut], fun log v hr => ?_⟩
  obtain ⟨-, a, ha, hu, hfamilies, hinvites⟩ := (hnext log _ v hr).2.1 rfl
  cases ha
  exact ⟨by rw [hu]; rfl, hfamilies 3 (by simp [account]), hfamilies 4 (by simp [account]), hinvites⟩

end Deletion

end Gatehouse
