import Gatehouse.Proofs.Program.Interleaving
import Gatehouse.Proofs.Service.Deletion
import Gatehouse.Proofs.Store.Frame

/-!
# Which families a deletion covers

A deletion reads the record of the account once and asks the relationship service for the families that stand there.
Others may link and unlink families while it runs.

* `runAll_plan_interleaved` — a plan that runs to its end has made its requests in order, all survived, and then has
  removed the record;
* `mem_familyIds_behind` — a family is linked that was linked before, or that somebody has linked since;
* `deleteEverywhere_covers` — behind a deletion that succeeds, every family of the record that was removed was asked
  for, or was linked by somebody between the reading of the record and its removal;
* `link_behind_reading` — a family that is linked in between is indeed not asked for.
-/

namespace Gatehouse.Deletion

open Happening (Foreign Waiting exchanges exchanges_append exchanges_exchange)

variable {s : Store} {id : Int} {log : List Happening}

/-! ## The stages -/

/-- A stage that asks for something succeeds with a reply that a deletion survives; on the store it makes no call. -/
lemma run_stage_interleaved {stage : Stage} {c : Relations.Call} (hc : stage.request? id = some c)
    (h : (stage.run id).Interleaved s log (.ok ())) :
    Waiting log ∧ ∃ reply, exchanges log = [(c, reply)] ∧ Survives c reply := by
  rw [run_eq hc] at h
  obtain ⟨reply, log₁, log₂, rfl, hask, hsettle⟩ := Action.interleaved_bind_ok_iff.1 h
  obtain ⟨front, rest, rfl, hfront, hrest⟩ := hask.of_relations
  obtain ⟨hlog₂, hok⟩ := Program.Interleaved.of_done hsettle
  refine ⟨?_, reply, ?_, (settle_eq_ok_iff hc).1 hok.symm⟩
  · refine (hfront.waiting.append ?_).append hlog₂.waiting
    intro d hd
    rcases List.mem_cons.1 hd with hd | hd
    · cases hd
    · exact hrest.waiting d hd
  · rw [exchanges_append, exchanges_append, exchanges_exchange, hfront.exchanges_eq, hrest.exchanges_eq,
      hlog₂.exchanges_eq]
    rfl

lemma run_deleteRecord_interleaved (h : (Stage.deleteRecord.run id).Interleaved s log (.ok ())) :
    ∃ front rest, log = front ++ .own (.delete id) :: rest ∧ Foreign front ∧ Foreign rest ∧
      ((s.behind front).serve (.delete id)).1 = .ok () := by
  obtain ⟨front, rest, rfl, hfront, hrest, hreply⟩ := Action.Interleaved.of_store h
  exact ⟨front, rest, rfl, hfront, hrest, hreply.symm⟩

/-- **A plan that runs to its end** has made its requests in order, each with a reply that a deletion survives, and
then has removed the record. -/
theorem runAll_plan_interleaved {familyIds : List Int}
    (h : (runAll id (plan familyIds)).Interleaved s log (.ok ())) :
    ∃ during rest, log = during ++ .own (.delete id) :: rest ∧ Waiting during ∧ Foreign rest ∧
      (exchanges during).map Prod.fst = requests id familyIds ∧
      (∀ e ∈ exchanges during, Survives e.1 e.2) ∧
      ((s.behind during).serve (.delete id)).1 = .ok () := by
  induction familyIds generalizing s log with
  | nil =>
    obtain ⟨⟨⟩, log₁, log₂, rfl, hinvites, hstages⟩ := Action.interleaved_bind_ok_iff.1 h
    obtain ⟨⟨⟩, log₃, log₄, rfl, hdelete, hend⟩ := Action.interleaved_bind_ok_iff.1 hstages
    obtain ⟨hwait, reply, hexchange, hsurvives⟩ := run_stage_interleaved rfl hinvites
    obtain ⟨front, rest, rfl, hfront, hrest, hserve⟩ := run_deleteRecord_interleaved hdelete
    have hlog₄ : Foreign log₄ := (Program.Interleaved.of_done hend).1
    have hexchanges : exchanges (log₁ ++ front) = [(.deleteInvites id, reply)] := by
      rw [exchanges_append, hexchange, hfront.exchanges_eq]
      rfl
    refine ⟨log₁ ++ front, rest ++ log₄, by simp, hwait.append hfront.waiting,
      List.forall_mem_append.2 ⟨hrest, hlog₄⟩, ?_, ?_, ?_⟩
    · rw [hexchanges]
      rfl
    · rw [hexchanges]
      exact List.forall_mem_singleton.2 hsurvives
    · rwa [Store.behind_append]
  | cons f familyIds ih =>
    obtain ⟨⟨⟩, log₁, log₂, rfl, hleave, hstages⟩ := Action.interleaved_bind_ok_iff.1 h
    obtain ⟨hwait₁, reply, hexchange, hsurvives⟩ := run_stage_interleaved rfl hleave
    obtain ⟨during, rest, rfl, hwait, hrest, hasked, hsurvived, hserve⟩ := ih hstages
    refine ⟨log₁ ++ during, rest, by simp, hwait₁.append hwait, hrest, ?_, ?_, ?_⟩
    · rw [exchanges_append, hexchange]
      exact congrArg (_ :: ·) hasked
    · rw [exchanges_append, hexchange]
      exact List.forall_mem_cons.2 ⟨hsurvives, hsurvived⟩
    · rwa [Store.behind_append]

/-- **A deletion that succeeds** has read the record of the account, has made the requests for the families that stand
there, each with a reply that it survives, and then has removed the record. -/
theorem deleteEverywhere_interleaved (h : (Service.deleteEverywhere id).Interleaved s log (.ok ())) :
    ∃ before during rest a, log = before ++ .own (.findById id) :: during ++ .own (.delete id) :: rest ∧
      Foreign before ∧ Waiting during ∧ Foreign rest ∧
      (s.behind before).account? id = some a ∧
      (exchanges during).map Prod.fst = requests id a.familyIds ∧
      (∀ e ∈ exchanges during, Survives e.1 e.2) ∧
      (((s.behind before).behind during).serve (.delete id)).1 = .ok () := by
  obtain ⟨profile, log₁, log₂, rfl, hprofile, hplan⟩ := Action.interleaved_bind_ok_iff.1 h
  obtain ⟨a, log₃, log₄, rfl, hread, hdone⟩ := Action.interleaved_bind_ok_iff.1 hprofile
  obtain ⟨before, after, rfl, hbefore, hafter, ha⟩ := hread.of_account
  obtain ⟨hlog₄, hprofile⟩ := Program.Interleaved.of_done hdone
  cases hprofile
  obtain ⟨during, rest, rfl, hwait, hrest, hasked, hsurvived, hserve⟩ := runAll_plan_interleaved hplan
  have hforeign : Foreign (after ++ log₄) := List.forall_mem_append.2 ⟨hafter, hlog₄⟩
  have hexchanges : exchanges (after ++ log₄ ++ during) = exchanges during := by
    rw [exchanges_append, hforeign.exchanges_eq, List.nil_append]
  refine ⟨before, after ++ log₄ ++ during, rest, a, by simp, hbefore, hforeign.waiting.append hwait, hrest, ha, ?_, ?_,
    ?_⟩
  · rw [hexchanges, hasked]
  · rwa [hexchanges]
  · -- the reading leaves the store as it was
    have hstore : (s.behind before).behind (after ++ log₄ ++ during) =
        (s.behind (before ++ .own (.findById id) :: after ++ log₄)).behind during := by
      simp only [Store.behind_append, Store.behind_own]
      rfl
    rwa [hstore]

/-! ## The families -/

/-- **A family is linked** that was linked before, or that somebody has linked since. -/
lemma mem_familyIds_behind {a b : Account} {f : Int} (hs : s.WellFormed) (hwait : Waiting log)
    (ha : s.account? id = some a) (hb : (s.behind log).account? id = some b) (hf : f ∈ b.familyIds) :
    f ∈ a.familyIds ∨ ∃ front rest, log = front ++ .other (.linkFamily id f) :: rest ∧
      ((s.behind front).serve (.linkFamily id f)).1 = .ok () := by
  induction log generalizing s a with
  | nil =>
    rw [Store.behind_nil, ha] at hb
    cases hb
    exact .inl hf
  | cons x log ih =>
    have hwait' : Waiting log := fun c hc => hwait c (List.mem_cons_of_mem _ hc)
    cases x with
    | own c => exact absurd List.mem_cons_self (hwait c)
    | exchange e =>
      rw [Store.behind_exchange] at hb
      refine (ih hs hwait' ha hb).imp_right ?_
      rintro ⟨front, rest, rfl, hserve⟩
      exact ⟨.exchange e :: front, rest, rfl, hserve⟩
    | other c =>
      rw [Store.behind_other] at hb
      cases hu : (s.serve c).2.account? id with
      | none =>
        -- an account that was removed does not come back
        have hid : id ≤ (s.serve c).2.lastId :=
          Int.le_trans (hs.id_le _ (Store.mem_of_account? ha)) (Int.ofNat_le.2 (Store.keepsIds_serve c s).1)
        rw [(Store.keepsIds_behind log _).2 id hid hu] at hb
        cases hb
      | some u =>
        rcases ih (hs.serve c) hwait' hu hb with hf | ⟨front, rest, rfl, hserve⟩
        · refine (Store.mem_familyIds_serve ha hu hf).imp_right ?_
          rintro ⟨rfl, hserve⟩
          exact ⟨[], log, rfl, hserve⟩
        · exact .inr ⟨.other c :: front, rest, rfl, hserve⟩

/-- **A deletion covers the families of the record that it removes,** but for those that are linked while it runs.
Between any two steps of a deletion on a store that any calls have left, others may make any calls. If the deletion
succeeds, it has read the record `a` of the account, has asked the relationship service for the families of `a` one by
one and for the invitations, and then has removed the record, which was `r` by then. Every family of `r` was asked for
among these, with a reply that a deletion survives, or it did not stand in `a` and somebody has linked it in between. -/
theorem deleteEverywhere_covers (calls : List Store.Call)
    (h : (Service.deleteEverywhere id).Interleaved (Store.empty.serveAll calls) log (.ok ())) :
    ∃ before during rest a r,
      let atReading := (Store.empty.serveAll calls).behind before
      let atRemoval := atReading.behind during
      (log = before ++ .own (.findById id) :: during ++ .own (.delete id) :: rest ∧
        Foreign before ∧ Waiting during ∧ Foreign rest) ∧
      (atReading.account? id = some a ∧ atRemoval.account? id = some r ∧
        (atRemoval.serve (.delete id)).2.account? id = none) ∧
      (exchanges during).map Prod.fst = requests id a.familyIds ∧
      ∀ f ∈ r.familyIds,
        (∃ reply, .exchange (.removeMember id f, reply) ∈ during ∧ Survives (.removeMember id f) reply) ∨
        f ∉ a.familyIds ∧ ∃ front behind, during = front ++ .other (.linkFamily id f) :: behind ∧
          ((atReading.behind front).serve (.linkFamily id f)).1 = .ok () := by
  obtain ⟨before, during, rest, a, rfl, hbefore, hduring, hrest, ha, hasked, hsurvived, hserve⟩ :=
    deleteEverywhere_interleaved h
  cases hr : (((Store.empty.serveAll calls).behind before).behind during).account? id with
  | none =>
    simp only [Store.serve, hr] at hserve
    cases hserve
  | some r =>
    refine ⟨before, during, rest, a, r, ⟨rfl, hbefore, hduring, hrest⟩, ⟨ha, hr, ?_⟩, hasked, fun f hf => ?_⟩
    · simp only [Store.serve, hr, Store.account?_erase, if_true]
    · by_cases hfa : f ∈ a.familyIds
      · have hmem : Relations.Call.removeMember id f ∈ (exchanges during).map Prod.fst := by
          rw [hasked]
          exact List.mem_append_left _ (List.mem_map_of_mem hfa)
        obtain ⟨⟨c, reply⟩, hexchange, rfl⟩ := List.mem_map.1 hmem
        exact .inl ⟨reply, Happening.mem_exchanges_iff.1 hexchange, hsurvived _ hexchange⟩
      · have hwf : ((Store.empty.serveAll calls).behind before).WellFormed :=
          (Store.wellFormed_empty.serveAll calls).behind before
        exact .inr ⟨hfa, (mem_familyIds_behind hwf hduring ha hr hf).resolve_left hfa⟩

/-- An account is taken out of one of its two families and is linked to a third one while it is deleted. The requests
are those for the families that were read, and the relationship service may refuse one of them. -/
theorem deleteEverywhere_covers_unlinked :
    let calls : List Store.Call :=
      [.create ⟨⟨"a@x.com", "1", "a", "b"⟩, "h", Moment.utc 0⟩, .linkFamily 1 3, .linkFamily 1 5]
    let log : List Happening :=
      [.own (.findById 1), .exchange (.removeMember 1 3, .ok ()), .other (.unlinkFamily 1 5), .other (.linkFamily 1 4),
        .exchange (.removeMember 1 5, .error (.rejected 404 "no member")), .exchange (.deleteInvites 1, .ok ()),
        .own (.delete 1)]
    (Service.deleteEverywhere 1).Interleaved (Store.empty.serveAll calls) log (.ok ()) ∧
    ∃ before during rest a,
      log = before ++ .own (.findById 1) :: during ++ .own (.delete 1) :: rest ∧
      ((Store.empty.serveAll calls).behind before).account? 1 = some a ∧
      (exchanges during).map Prod.fst = requests 1 a.familyIds := by
  intro calls log
  have hrun : (Service.deleteEverywhere 1).Interleaved (Store.empty.serveAll calls) log (.ok ()) :=
    .own (.exchange _ (.other _ (.other _ (.exchange _ (.exchange _ (.own (.done _ _)))))))
  obtain ⟨before, during, rest, a, r, ⟨hlog, -⟩, ⟨ha, -⟩, hasked, -⟩ := deleteEverywhere_covers calls hrun
  exact ⟨hrun, before, during, rest, a, hlog, ha, hasked⟩

/-- A family that is linked behind the reading stands in the record that is removed, and is never asked for. -/
theorem link_behind_reading :
    let calls : List Store.Call := [.create ⟨⟨"a@x.com", "1", "a", "b"⟩, "h", Moment.utc 0⟩, .linkFamily 1 3]
    let during : List Happening :=
      [.exchange (.removeMember 1 3, .ok ()), .exchange (.deleteInvites 1, .ok ()), .other (.linkFamily 1 4)]
    let s := Store.empty.serveAll calls
    (Service.deleteEverywhere 1).Interleaved s (.own (.findById 1) :: during ++ [.own (.delete 1)]) (.ok ()) ∧
    ((s.behind (.own (.findById 1) :: during)).account? 1).map (·.familyIds) = some [3, 4] ∧
    ∀ reply, .exchange (.removeMember 1 4, reply) ∉ during := by
  intro calls during s
  refine ⟨?_, by decide, fun reply => by simp [during]⟩
  exact .own (.exchange _ (.exchange _ (.other _ (.own (.done _ _)))))

end Gatehouse.Deletion
