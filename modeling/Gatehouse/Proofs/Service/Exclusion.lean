import Gatehouse.Proofs.Program.Pool
import Gatehouse.Proofs.Service.Coverage

/-!
# Deletions of one account that run together

* `Stands` — where a deletion stands; `Stands.of_store` and `Stands.of_relations` take it one step further;
* `Exclusive` — of the deletions of one account that run together, at most one has succeeded, and then the record is
  gone; every turn keeps this;
* `deleteEverywhere_exclusive` — so that the record goes in the last step of the one deletion that succeeds, and all
  others change nothing.
-/

namespace Gatehouse

namespace Store

variable {s : Store} {id : Int} {a : Account}

lemma exists_account?_serve {c : Call} (ha : s.account? id = some a) (hc : c ≠ .delete id) :
    ∃ b, (s.serve c).2.account? id = some b := by
  rcases account?_serve_cases ha c with h | ⟨b, -, h⟩ | ⟨h, -⟩
  · exact ⟨a, h⟩
  · exact ⟨b, h⟩
  · exact absurd h hc

lemma serve_delete_of_some (ha : s.account? id = some a) : s.serve (.delete id) = (.ok (), s.erase id) := by
  simp only [serve, ha]

lemma serve_delete_of_none (ha : s.account? id = none) : s.serve (.delete id) = (.error .accountNotFound, s) := by
  simp only [serve, ha]

lemma account?_erase_self (s : Store) (id : Int) : (s.erase id).account? id = none := by
  rw [account?_erase, if_pos rfl]

end Store

namespace Deletion

open Happening (Foreign Waiting exchanges)

variable {id : Int} {familyIds : List Int} {stage : Stage} {stages : List Stage}

/-! ## Where a deletion stands -/

lemma run_deleteEverywhere_eq (id : Int) :
    (Service.deleteEverywhere id).run = .ask (.store (.findById id)) fun
      | .ok (some a) => (runAll id (plan a.familyIds)).run
      | .ok none => .done (.error .accountNotFound)
      | .error fault => .done (.error fault) := by
  refine congrArg (Program.ask (.store (.findById id))) (funext fun reply => ?_)
  rcases reply with fault | _ | a <;> rfl

lemma run_runAll_cons {c : Relations.Call} (hc : stage.request? id = some c) (stages : List Stage) :
    (runAll id (stage :: stages)).run = .ask (.relations c) fun reply =>
      match stage.settle reply with
      | .ok _ => (runAll id stages).run
      | .error fault => .done (.error fault) := by
  rw [runAll, run_eq hc]
  refine congrArg (Program.ask (.relations c)) (funext fun reply => ?_)
  show (Action.ofExcept (stage.settle reply) >>= fun _ => runAll id stages).run = _
  cases stage.settle reply <;> rfl

lemma run_runAll_deleteRecord (id : Int) : (runAll id [.deleteRecord]).run = .ask (.store (.delete id)) .done := by
  refine congrArg (Program.ask (.store (.delete id))) (funext fun reply => ?_)
  rcases reply with fault | ⟨⟩ <;> rfl

/-- What is left of a plan: only the record, or a request in front of other stages. -/
lemma suffix_plan_cases (id : Int) (h : stages <:+ plan familyIds) (hne : stages ≠ []) :
    stages = [.deleteRecord] ∨ ∃ stage rest c, stages = stage :: rest ∧ stage.request? id = some c ∧
      rest <:+ plan familyIds ∧ rest ≠ [] := by
  induction familyIds with
  | nil =>
    rcases List.suffix_cons_iff.1 h with rfl | h
    · exact .inr ⟨_, _, _, rfl, rfl, List.suffix_cons _ _, List.cons_ne_nil _ _⟩
    · rcases List.suffix_cons_iff.1 h with rfl | h
      · exact .inl rfl
      · exact absurd (List.suffix_nil.1 h) hne
  | cons f familyIds ih =>
    have hplan : plan familyIds <:+ plan (f :: familyIds) := List.suffix_cons _ _
    rcases List.suffix_cons_iff.1 h with rfl | h
    · exact .inr ⟨_, _, _, rfl, rfl, hplan, List.append_ne_nil_of_right_ne_nil _ (List.cons_ne_nil _ _)⟩
    · refine (ih h).imp_right ?_
      rintro ⟨stage, rest, c, rfl, hc, hrest, hne⟩
      exact ⟨stage, rest, c, rfl, hc, hrest.trans hplan, hne⟩

/-- Where a deletion stands. -/
inductive Stands (id : Int) : Program (Except Fault Unit) → Prop
  /-- The account is still to be looked up. -/
  | reading : Stands id (Service.deleteEverywhere id).run
  /-- Some stages of a plan are left, the removal of the record the last of them. -/
  | stages (familyIds : List Int) (stages : List Stage) (h : stages <:+ plan familyIds) (hne : stages ≠ []) :
      Stands id (runAll id stages).run
  | succeeded : Stands id (.done (.ok ()))
  | notFound : Stands id (.done (.error .accountNotFound))
  | failed (detail : String) : Stands id (.done (.error (.internal detail)))

lemma run_runAll_ne_done (h : stages <:+ plan familyIds) (hne : stages ≠ []) (a : Except Fault Unit) :
    (runAll id stages).run ≠ .done a := by
  intro ha
  rcases suffix_plan_cases id h hne with rfl | ⟨stage, rest, c, rfl, hc, -, -⟩
  · rw [run_runAll_deleteRecord] at ha
    cases ha
  · rw [run_runAll_cons hc] at ha
    cases ha

lemma Stands.of_suffix (id : Int) (h : stages <:+ plan familyIds) (hne : stages ≠ []) :
    Stands id (runAll id stages).run ∧ (runAll id stages).run ≠ .done (.ok ()) :=
  ⟨.stages familyIds stages h hne, run_runAll_ne_done h hne _⟩

lemma Stands.of_plan (id : Int) (familyIds : List Int) :
    Stands id (runAll id (plan familyIds)).run ∧ (runAll id (plan familyIds)).run ≠ .done (.ok ()) :=
  Stands.of_suffix id (List.suffix_refl _) (List.append_ne_nil_of_right_ne_nil _ (List.cons_ne_nil _ _))

lemma settle_eq_error {reply : Relations.Reply} {fault : Fault} (h : stage.settle reply = .error fault) :
    ∃ detail, fault = .internal detail := by
  unfold Stage.settle at h
  split at h
  · cases h
  · split at h
    · cases h
    · cases h
      exact ⟨_, rfl⟩

/-- **A deletion in front of a call on the store** is to read the account, and has not succeeded behind that, or it is
to remove the record, and ends as that does. -/
theorem Stands.of_store {c : Store.Call} {next : c.Reply → Program (Except Fault Unit)}
    (h : Stands id (.ask (.store c) next)) (s : Store) :
    (c = .findById id ∧ Stands id (next (s.serve c).1) ∧ next (s.serve c).1 ≠ .done (.ok ())) ∨
      (c = .delete id ∧ next (s.serve c).1 = .done (s.serve (.delete id)).1) := by
  generalize hp : Program.ask (.store c) next = p at h
  cases h with
  | reading =>
    rw [run_deleteEverywhere_eq] at hp
    cases hp
    refine .inl ⟨rfl, ?_⟩
    simp only [Store.serve]
    cases s.account? id with
    | none => exact ⟨.notFound, by simp⟩
    | some a => exact Stands.of_plan id a.familyIds
  | stages familyIds stages hs hne =>
    rcases suffix_plan_cases id hs hne with rfl | ⟨stage, rest, d, rfl, hd, -, -⟩
    · rw [run_runAll_deleteRecord] at hp
      cases hp
      exact .inr ⟨rfl, rfl⟩
    · rw [run_runAll_cons hd] at hp
      cases hp
  | succeeded => cases hp
  | notFound => cases hp
  | failed detail => cases hp

/-- A deletion that asks something of the relationship service has other stages behind that, or is given up. -/
theorem Stands.of_relations {c : Relations.Call} {next : Relations.Reply → Program (Except Fault Unit)}
    (h : Stands id (.ask (.relations c) next)) (reply : Relations.Reply) :
    Stands id (next reply) ∧ next reply ≠ .done (.ok ()) := by
  generalize hp : Program.ask (.relations c) next = p at h
  cases h with
  | reading =>
    rw [run_deleteEverywhere_eq] at hp
    cases hp
  | stages familyIds stages hs hne =>
    rcases suffix_plan_cases id hs hne with rfl | ⟨stage, rest, d, rfl, hd, hrest, hne⟩
    · rw [run_runAll_deleteRecord] at hp
      cases hp
    · rw [run_runAll_cons hd] at hp
      cases hp
      dsimp only
      cases hsettle : stage.settle reply with
      | ok u => exact Stands.of_suffix id hrest hne
      | error fault =>
        obtain ⟨detail, rfl⟩ := settle_eq_error hsettle
        exact ⟨.failed detail, by simp⟩
  | succeeded => cases hp
  | notFound => cases hp
  | failed detail => cases hp

/-- A deletion that has ended has succeeded, has found no account, or was given up for an internal fault. -/
lemma Stands.of_done {result : Except Fault Unit} (h : Stands id (.done result)) :
    result = .ok () ∨ result = .error .accountNotFound ∨ ∃ detail, result = .error (.internal detail) := by
  generalize hp : Program.done result = p at h
  cases h with
  | reading =>
    rw [run_deleteEverywhere_eq] at hp
    cases hp
  | stages familyIds stages hs hne => exact absurd hp.symm (run_runAll_ne_done hs hne result)
  | succeeded => cases hp; exact .inl rfl
  | notFound => cases hp; exact .inr (.inl rfl)
  | failed detail => cases hp; exact .inr (.inr ⟨detail, rfl⟩)

/-! ## Deletions that run together -/

section Exclusive

variable {ι : Type} {P Q : Pool ι (Except Fault Unit)} {log front rest : List (Turn ι)} {t : Turn ι} {i : ι}

/-- Deletions of one account run together, and at most one of them has succeeded. Then the record is gone and its id
is not given out again. -/
structure Exclusive (id : Int) (P : Pool ι (Except Fault Unit)) : Prop where
  wellFormed : P.store.WellFormed
  stands : ∀ i, Stands id (P.runs i)
  gone : ∀ i, P.runs i = .done (.ok ()) → id ≤ P.store.lastId ∧ P.store.account? id = none
  unique : ∀ i j, P.runs i = .done (.ok ()) → P.runs j = .done (.ok ()) → i = j

lemma exclusive_start {s : Store} (hs : s.WellFormed) (id : Int) :
    Exclusive id (⟨s, fun _ : ι => (Service.deleteEverywhere id).run⟩ : Pool ι (Except Fault Unit)) where
  wellFormed := hs
  stands := fun _ => .reading
  gone := by
    intro i hi
    simp only [run_deleteEverywhere_eq] at hi
    cases hi
  unique := by
    intro i j hi
    simp only [run_deleteEverywhere_eq] at hi
    cases hi

lemma Exclusive.other (h : Exclusive id P) (c : Store.Call) : Exclusive id ⟨(P.store.serve c).2, P.runs⟩ where
  wellFormed := h.wellFormed.serve c
  stands := h.stands
  gone := by
    intro i hi
    obtain ⟨hid, hn⟩ := h.gone i hi
    have hkeeps := Store.keepsIds_serve c P.store
    exact ⟨Int.le_trans hid (Int.ofNat_le.2 hkeeps.1), hkeeps.2 id hid hn⟩
  unique := h.unique

variable [DecidableEq ι]

lemma Exclusive.goOn {p : Program (Except Fault Unit)} (h : Exclusive id P) (i : ι) (hp : Stands id p)
    (hne : p ≠ .done (.ok ())) : Exclusive id (P.advance i p P.store) := by
  have hother : ∀ j, (P.advance i p P.store).runs j = .done (.ok ()) → P.runs j = .done (.ok ()) := by
    intro j hj
    by_cases hij : j = i
    · subst hij
      rw [Pool.advance_runs_self] at hj
      exact absurd hj hne
    · rwa [Pool.advance_runs_of_ne hij] at hj
  refine ⟨h.wellFormed, fun j => ?_, fun j hj => h.gone j (hother j hj),
    fun j k hj hk => h.unique j k (hother j hj) (hother k hk)⟩
  by_cases hij : j = i
  · subst hij
    rwa [Pool.advance_runs_self]
  · rw [Pool.advance_runs_of_ne hij]
    exact h.stands j

/-- A deletion that removes the record keeps a pool exclusive: as long as the record is there, no other one has succeeded. -/
lemma Exclusive.succeed {a : Account} (h : Exclusive id P) (i : ι) (ha : P.store.account? id = some a) :
    Exclusive id (P.advance i (.done (.ok ())) (P.store.erase id)) := by
  have hself : ∀ j, (P.advance i (.done (.ok ())) (P.store.erase id)).runs j = .done (.ok ()) → j = i := by
    intro j hj
    by_contra hij
    rw [Pool.advance_runs_of_ne hij] at hj
    obtain ⟨-, hn⟩ := h.gone j hj
    rw [ha] at hn
    cases hn
  have hwf : (P.store.erase id).WellFormed := by
    have := h.wellFormed.serve (.delete id)
    rwa [Store.serve_delete_of_some ha] at this
  refine ⟨hwf, fun j => ?_, fun j _ => ⟨h.wellFormed.id_le _ (Store.mem_of_account? ha), ?_⟩,
    fun j k hj hk => (hself j hj).trans (hself k hk).symm⟩
  · by_cases hij : j = i
    · subst hij
      rw [Pool.advance_runs_self]
      exact .succeeded
    · rw [Pool.advance_runs_of_ne hij]
      exact h.stands j
  · exact Store.account?_erase_self _ _

/-- **Every turn keeps deletions of one account exclusive.** -/
theorem Exclusive.steps (h : Exclusive id P) (hsteps : Pool.Steps P log Q) : Exclusive id Q := by
  induction hsteps with
  | refl P => exact h
  | @call P Q i c next log hi _ ih =>
    refine ih ?_
    have hstands := h.stands i
    rw [hi] at hstands
    rcases hstands.of_store P.store with ⟨rfl, hnext, hne⟩ | ⟨rfl, hnext⟩
    · exact h.goOn i hnext hne
    · rw [hnext]
      cases ha : P.store.account? id with
      | none =>
        rw [Store.serve_delete_of_none ha]
        exact h.goOn i .notFound (by simp)
      | some a =>
        rw [Store.serve_delete_of_some ha]
        exact h.succeed i ha
  | @exchange P Q i c next log hi reply _ ih =>
    refine ih ?_
    have hstands := h.stands i
    rw [hi] at hstands
    obtain ⟨hnext, hne⟩ := hstands.of_relations reply
    exact h.goOn i hnext hne
  | other c _ ih => exact ih (h.other c)

/-! ## Calls of deletions -/

/-- **A deletion's call** reads the account, or it is the last one and removes the record; the deletion succeeds if the
record is there. -/
theorem Exclusive.call_cases {c : Store.Call} (h : Exclusive id P) (hsteps : Pool.Steps P (.call i c :: rest) Q) :
    c = .findById id ∨ c = .delete id ∧
      (P.store.account? id = none ∧ Q.runs i = .done (.error .accountNotFound) ∨
        (∃ a, P.store.account? id = some a) ∧ Q.runs i = .done (.ok ())) := by
  cases hsteps with
  | call hi hrest =>
    have hstands := h.stands i
    rw [hi] at hstands
    rcases hstands.of_store P.store with ⟨rfl, -⟩ | ⟨rfl, hnext⟩
    · exact .inl rfl
    · refine .inr ⟨rfl, ?_⟩
      have hend : Q.runs i = .done (P.store.serve (.delete id)).1 :=
        hrest.runs_of_done ((Pool.advance_runs_self ..).trans hnext)
      rw [hend]
      cases ha : P.store.account? id with
      | none => exact .inl ⟨rfl, by rw [Store.serve_delete_of_none ha]⟩
      | some a => exact .inr ⟨⟨a, rfl⟩, by rw [Store.serve_delete_of_some ha]⟩

lemma exclusive_cut {s : Store} (hs : s.WellFormed)
    (h : Pool.Steps ⟨s, fun _ : ι => (Service.deleteEverywhere id).run⟩ (front ++ rest) Q) :
    ∃ R, Exclusive id R ∧ R.store = s.through front ∧ Pool.Steps R rest Q := by
  obtain ⟨R, hfront, hrest⟩ := h.cut
  exact ⟨R, (exclusive_start hs id).steps hfront, hfront.store_eq, hrest⟩

/-- A deletion that succeeds is one on a store that it shares with the others. -/
lemma interleaved_of_steps {s : Store}
    (h : Pool.Steps ⟨s, fun _ : ι => (Service.deleteEverywhere id).run⟩ log Q) (hi : Q.runs i = .done (.ok ())) :
    (Service.deleteEverywhere id).Interleaved s (Turn.view i log) (.ok ()) := by
  have hreaches := h.reaches i
  rw [hi] at hreaches
  exact Program.interleaved_iff_reaches.2 hreaches

/-- **The record goes in the last step of a deletion that succeeds,** if nobody else removes it. -/
theorem exists_call_of_gone {s : Store} {a : Account} (hs : s.WellFormed)
    (h : Pool.Steps ⟨s, fun _ : ι => (Service.deleteEverywhere id).run⟩ (front ++ t :: rest) Q)
    (ht : t ≠ .other (.delete id)) (ha : (s.through front).account? id = some a)
    (hn : (s.through (front ++ [t])).account? id = none) :
    ∃ i, t = .call i (.delete id) ∧ Q.runs i = .done (.ok ()) := by
  rw [Store.through_append] at hn
  -- a turn that leaves no record there is a call that removes it
  have hcall : ∀ c, (Store.serve (s.through front) c).2.account? id = none → c = .delete id := by
    intro c hc
    by_contra hne
    obtain ⟨b, hb⟩ := Store.exists_account?_serve ha hne
    rw [hb] at hc
    cases hc
  cases t with
  | exchange i e =>
    rw [Store.through_exchange, Store.through_nil, ha] at hn
    cases hn
  | other c => exact absurd (congrArg Turn.other (hcall c hn)) ht
  | call i c =>
    cases hcall c hn
    obtain ⟨R, hR, hstore, hsteps⟩ := exclusive_cut hs h
    rw [← hstore] at ha
    rcases hR.call_cases hsteps with hread | ⟨-, ⟨hnone, -⟩ | ⟨-, hend⟩⟩
    · cases hread
    · rw [ha] at hnone
      cases hnone
    · exact ⟨i, rfl, hend⟩

theorem through_call_of_not_done {s : Store} {c : Store.Call} (hs : s.WellFormed)
    (h : Pool.Steps ⟨s, fun _ : ι => (Service.deleteEverywhere id).run⟩ (front ++ .call i c :: rest) Q)
    (hi : Q.runs i ≠ .done (.ok ())) : s.through (front ++ [.call i c]) = s.through front := by
  rw [Store.through_append, Store.through_call, Store.through_nil]
  obtain ⟨R, hR, hstore, hsteps⟩ := exclusive_cut hs h
  rw [← hstore]
  rcases hR.call_cases hsteps with rfl | ⟨rfl, ⟨hnone, -⟩ | ⟨-, hend⟩⟩
  · rfl
  · rw [Store.serve_delete_of_none hnone]
  · exact absurd hend hi

/-- **Deletions of one account that run together,** any number of them and in any order of their steps, on a store that
any calls have left. The relationship service gives any replies, and others make any calls but remove the record.

At most one deletion succeeds. It has read the account, has made the requests of its plan with replies that it
survives, and in its last step it has removed the record, which is gone for good. The record goes in no other way. A
deletion that does not succeed finds no account or is given up for an internal fault, and none of its calls changes the
store. -/
theorem deleteEverywhere_exclusive (calls : List Store.Call) (id : Int)
    (h : Pool.Steps ⟨Store.empty.serveAll calls, fun _ : ι => (Service.deleteEverywhere id).run⟩ log Q)
    (hothers : .other (.delete id) ∉ log) :
    let s := Store.empty.serveAll calls
    (∀ i j, Q.runs i = .done (.ok ()) → Q.runs j = .done (.ok ()) → i = j) ∧
    (∀ i, Q.runs i = .done (.ok ()) → ∃ before during rest a r,
      let atRemoval := s.through (before ++ .call i (.findById id) :: during)
      log = before ++ .call i (.findById id) :: during ++ .call i (.delete id) :: rest ∧
      (Foreign (Turn.view i before) ∧ Waiting (Turn.view i during) ∧ Foreign (Turn.view i rest)) ∧
      (s.through before).account? id = some a ∧
      (exchanges (Turn.view i during)).map Prod.fst = requests id a.familyIds ∧
      (∀ e ∈ exchanges (Turn.view i during), Survives e.1 e.2) ∧
      (atRemoval.account? id = some r ∧ (atRemoval.serve (.delete id)).2.account? id = none ∧
        Q.store.account? id = none)) ∧
    (∀ front t rest a, log = front ++ t :: rest → (s.through front).account? id = some a →
      (s.through (front ++ [t])).account? id = none → ∃ i, t = .call i (.delete id) ∧ Q.runs i = .done (.ok ())) ∧
    ∀ i, Q.runs i ≠ .done (.ok ()) →
      (∀ result, Q.runs i = .done result →
        result = .error .accountNotFound ∨ ∃ detail, result = .error (.internal detail)) ∧
      ∀ front c rest, log = front ++ .call i c :: rest → s.through (front ++ [.call i c]) = s.through front := by
  intro s
  have hs : s.WellFormed := Store.wellFormed_empty.serveAll calls
  have hQ : Exclusive id Q := (exclusive_start hs id).steps h
  refine ⟨hQ.unique, fun i hi => ?_, fun front t rest a hlog ha hn => ?_, fun i hi => ⟨fun result hend => ?_, ?_⟩⟩
  · obtain ⟨before, during, rest, a, hview, hbefore, hduring, hrest, ha, hasked, hsurvived, hserve⟩ :=
      deleteEverywhere_interleaved (interleaved_of_steps h hi)
    obtain ⟨front, behind, rfl, hfront, rfl⟩ := Turn.exists_call_of_view hview
    obtain ⟨front, between, rfl, rfl, rfl⟩ := Turn.exists_call_of_view hfront
    rw [Store.behind_view] at ha
    rw [Store.behind_view, Store.behind_view] at hserve
    have hremoval : s.through (front ++ .call i (.findById id) :: between) = (s.through front).through between := by
      rw [Store.through_append, Store.through_call]
      rfl
    cases hr : ((s.through front).through between).account? id with
    | none =>
      rw [Store.serve_delete_of_none hr] at hserve
      cases hserve
    | some r =>
      refine ⟨front, between, behind, a, r, by simp, ⟨hbefore, hduring, hrest⟩, ha, hasked, hsurvived, ?_⟩
      rw [hremoval, Store.serve_delete_of_some hr]
      exact ⟨hr, Store.account?_erase_self _ _, (hQ.gone i hi).2⟩
  · subst hlog
    exact exists_call_of_gone hs h (fun ht => hothers (by simp [ht])) ha hn
  · have hstands := hQ.stands i
    rw [hend] at hstands
    refine hstands.of_done.resolve_left ?_
    rintro rfl
    exact hi hend
  · rintro front c rest rfl
    exact through_call_of_not_done hs h hi

/-- Two deletions of an account run together. The one that asks last removes the record first, and the other one finds
none. In between a family is linked. -/
theorem deleteEverywhere_exclusive_two :
    let calls : List Store.Call := [.create ⟨⟨"a@x.com", "1", "a", "b"⟩, "h", Moment.utc 0⟩, .linkFamily 1 3]
    let log : List (Turn Bool) :=
      [.call true (.findById 1), .call false (.findById 1), .exchange true (.removeMember 1 3, .ok ()),
        .other (.linkFamily 1 4), .exchange false (.removeMember 1 3, .error (.rejected 404 "no member")),
        .exchange true (.deleteInvites 1, .ok ()), .exchange false (.deleteInvites 1, .ok ()),
        .call false (.delete 1), .call true (.delete 1)]
    ∃ Q : Pool Bool (Except Fault Unit),
      Pool.Steps ⟨Store.empty.serveAll calls, fun _ => (Service.deleteEverywhere 1).run⟩ log Q ∧
      .other (.delete 1) ∉ log ∧ Q.runs false = .done (.ok ()) ∧ Q.runs true = .done (.error .accountNotFound) ∧
      (∀ i j, Q.runs i = .done (.ok ()) → Q.runs j = .done (.ok ()) → i = j) ∧ Q.store.account? 1 = none := by
  intro calls log
  obtain ⟨Q, hreplay, hfalse, htrue⟩ : ∃ Q : Pool Bool (Except Fault Unit),
      Pool.replay ⟨Store.empty.serveAll calls, fun _ => (Service.deleteEverywhere 1).run⟩ log = some Q ∧
      Q.runs false = .done (.ok ()) ∧ Q.runs true = .done (.error .accountNotFound) := ⟨_, rfl, rfl, rfl⟩
  have hsteps := Pool.steps_iff_replay.2 hreplay
  have hothers : .other (.delete 1) ∉ log := by decide
  obtain ⟨hunique, hsucceeded, -⟩ := deleteEverywhere_exclusive calls 1 hsteps hothers
  obtain ⟨before, during, rest, a, r, -, -, -, -, -, -, -, hgone⟩ := hsucceeded false hfalse
  exact ⟨Q, hsteps, hothers, hfalse, htrue, hunique, hgone⟩

end Exclusive

end Deletion

end Gatehouse
