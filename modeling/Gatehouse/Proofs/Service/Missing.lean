import Gatehouse.Proofs.Program.Locality
import Gatehouse.Proofs.Service.Operation

/-!
# Accounts that are not there

* `Store.Call.Clashes` — a call that is to give an account an email address which some account holds already;
* `Store.WellFormed.serve_missing` — a change of an account that is not there is refused and changes nothing; it is told
  that there is no such account, except where it clashes;
* `Store.missing_behind_calls` — so that this holds behind every sequence of calls on the empty store.
-/

namespace Gatehouse

open Program (inMemory)

/-! ## Calls -/

namespace Store

variable {s : Store} {id : Int} {c : Call}

/-- The call is to give an account an email address that some account of the store holds. -/
def Call.Clashes (s : Store) : Call → Prop
  | .setProfile _ profile => ∃ j a, s.account? j = some a ∧ a.profile.email = profile.email
  | _ => False

lemma change_of_none (hid : s.account? id = none) (f : Account → Except Fault Account) :
    s.change id f = (.error .accountNotFound, s) := by
  rw [change, hid]

lemma WellFormed.heldByOther_of_none (h : s.WellFormed) (hid : s.account? id = none) (email : String) :
    s.heldByOther id email = true ↔ ∃ j a, s.account? j = some a ∧ a.profile.email = email := by
  rw [h.heldByOther_eq_true_iff]
  refine exists₂_congr fun j a => ⟨fun hj => hj.2, fun hj => ⟨?_, hj⟩⟩
  rintro rfl
  rw [hid] at hj
  cases hj.1

/-- **A change of an account that is not there** is refused and leaves the store as it was. It is told that there is no
such account, but a clash is found first. -/
theorem WellFormed.serve_missing (h : s.WellFormed) (hc : c.Names id) (hchange : ¬ c.Reads)
    (hid : s.account? id = none) :
    (¬ c.Clashes s → s.serve c = (.error .accountNotFound, s)) ∧
      (c.Clashes s → s.serve c = (.error .accountExists, s)) := by
  cases c with
  | create _ | findByEmail _ => exact hc.elim
  | findById _ => exact (hchange trivial).elim
  | setProfile i profile =>
    subst hc
    have hheld : s.heldByOther i profile.email = true ↔ (Call.setProfile i profile).Clashes s :=
      h.heldByOther_of_none hid profile.email
    refine ⟨fun hclash => ?_, fun hclash => ?_⟩
    · rw [Store.serve, if_neg (mt hheld.1 hclash), change_of_none hid]
    · rw [Store.serve, if_pos (hheld.2 hclash)]
  | setPasswordHash | linkFamily | unlinkFamily | setRole =>
    cases hc
    exact ⟨fun _ => by rw [Store.serve, change_of_none hid], False.elim⟩
  | delete _ =>
    cases hc
    exact ⟨fun _ => by rw [Store.serve, hid], False.elim⟩

/-- **Behind every sequence of calls on the empty store, a change of an account that is not there is refused and leaves
the store as it was.** It is told that there is no such account, whatever its arguments, except for a profile with an
email address that some account holds: that is refused as a clash, although there is no account to clash with it. -/
theorem missing_behind_calls (calls : List Call) {id : Int} {c : Call} (hc : c.Names id) (hchange : ¬ c.Reads)
    (hid : (empty.serveAll calls).account? id = none) :
    let s := empty.serveAll calls
    (¬ c.Clashes s → s.serve c = (.error .accountNotFound, s)) ∧
      (c.Clashes s → s.serve c = (.error .accountExists, s)) :=
  (wellFormed_empty.serveAll calls).serve_missing hc hchange hid

/-- A registration, and the profile of an account that was never there, with another address. -/
theorem missing_behind_creation :
    let s := empty.serveAll [.create ⟨⟨"a@x.com", "1", "a", "b"⟩, "h", Moment.utc 0⟩]
    let c := Call.setProfile 2 ⟨"b@x.com", "1", "a", "b"⟩
    s.serve c = (.error .accountNotFound, s) := by
  intro s c
  have hid : s.account? 2 = none := by decide +kernel
  refine (missing_behind_calls [.create ⟨⟨"a@x.com", "1", "a", "b"⟩, "h", Moment.utc 0⟩] (c := c) rfl id hid).1 ?_
  rintro ⟨j, a, ha, he⟩
  obtain ⟨-, rfl⟩ := Prod.mk.inj (List.mem_singleton.1 (mem_of_account? ha))
  exact absurd he (by decide +kernel)

/-- The profile of an account that was never there, with the address of the one that is: it is not told that there is no
such account. -/
theorem clash_hides_missing :
    ¬ ∀ calls id, ∀ c : Call, c.Names id → ¬ c.Reads → (empty.serveAll calls).account? id = none →
      (empty.serveAll calls).serve c = (.error .accountNotFound, empty.serveAll calls) := by
  intro h
  have hc := congrArg Prod.fst (h [.create ⟨⟨"a@x.com", "1", "a", "b"⟩, "h", Moment.utc 0⟩] 2
    (.setProfile 2 ⟨"a@x.com", "1", "a", "b"⟩) rfl id (by decide +kernel))
  exact absurd hc (by decide +kernel)

end Store

end Gatehouse
