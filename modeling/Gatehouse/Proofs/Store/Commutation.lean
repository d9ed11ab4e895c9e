import Gatehouse.Proofs.Program.Locality

/-!
# Calls on different accounts

* `Edit` — what may become of one account: it is kept, replaced or removed; edits of different accounts commute
  (`Edit.apply_comm`);
* `Call.Edits` — calls that are about one account and write no email address that it does not have;
* `WellFormed.exists_edit` — the record of that account decides the reply to such a call and the edit that it makes;
* `serve_comm` — so that two such calls on different accounts may be served in either order.
-/

namespace Gatehouse.Store

variable {s u : Store} {i j n : Int} {a b : Account} {c d : Call}

/-! ## Edits of one account -/

/-- What becomes of an account. -/
inductive Edit
  | keep
  | replace (account : Account)
  | remove

/-- A store in which the account under `n` is edited. -/
def Edit.apply (n : Int) : Edit → Store → Store
  | keep, s => s
  | replace account, s => s.put n account
  | remove, s => s.erase n

lemma put_comm (h : i ≠ j) : (s.put i a).put j b = (s.put j b).put i a := by
  simp only [put, List.map_map]
  congr 1
  apply List.map_congr_left
  intro entry _
  by_cases hi : entry.1 = i
  · have hj : entry.1 ≠ j := hi ▸ h
    simp [hi, h]
  · by_cases hj : entry.1 = j
    · simp [hj, Ne.symm h]
    · simp [hi, hj]

lemma put_erase_comm : (s.put i a).erase j = (s.erase j).put i a := by
  simp only [put, erase, List.filter_map]
  congr 2
  apply List.filter_congr
  intro entry _
  by_cases hi : entry.1 = i
  · simp [hi]
  · simp [hi]

lemma erase_comm : (s.erase i).erase j = (s.erase j).erase i := by
  simp only [erase, List.filter_filter]
  congr 2
  funext entry
  exact Bool.and_comm _ _

/-- **Edits of different accounts commute.** -/
theorem Edit.apply_comm (h : i ≠ j) (e f : Edit) (s : Store) : f.apply j (e.apply i s) = e.apply i (f.apply j s) := by
  cases e with
  | keep => rfl
  | replace account =>
    cases f with
    | keep => rfl
    | replace other => exact put_comm h
    | remove => exact put_erase_comm
  | remove =>
    cases f with
    | keep => rfl
    | replace other => exact put_erase_comm.symm
    | remove => exact erase_comm

/-! ## Calls that edit one account -/

/-- The call is about the account of `n`, which it changes or removes. A profile is set only for an account that is
there, and with the email address that it has. -/
def Call.Edits (s : Store) (n : Int) : Call → Prop
  | .setProfile id profile => id = n ∧ ∃ a, s.account? n = some a ∧ profile.email = a.profile.email
  | .setPasswordHash id _ | .linkFamily id _ | .unlinkFamily id _ | .setRole id _ | .delete id => id = n
  | .create _ | .findByEmail _ | .findById _ => False

lemma Call.Edits.names (h : c.Edits s n) : c.Names n := by
  cases c with
  | setProfile id profile => exact h.1
  | setPasswordHash | linkFamily | unlinkFamily | setRole | delete => exact h
  | create | findByEmail | findById => exact h.elim

/-- The record under an id decides what a change of it comes to. -/
lemma exists_edit_change (s : Store) (n : Int) (f : Account → Except Fault Account) :
    ∃ reply e, ∀ u, u.account? n = s.account? n → u.change n f = (reply, Edit.apply n e u) := by
  cases ha : s.account? n with
  | none =>
    refine ⟨.error .accountNotFound, .keep, ?_⟩
    intro u hu
    simp [change, hu, Edit.apply]
  | some a =>
    cases hf : f a with
    | error fault =>
      refine ⟨.error fault, .keep, ?_⟩
      intro u hu
      simp [change, hu, hf, Edit.apply]
    | ok b =>
      refine ⟨.ok (), .replace b, ?_⟩
      intro u hu
      simp [change, hu, hf, Edit.apply]

/-- **The record of an account decides** the reply to a call that edits it and the edit that the call makes, whatever
else a well-formed store holds. -/
theorem WellFormed.exists_edit (hc : c.Edits s n) :
    ∃ reply e, ∀ u, u.WellFormed → u.account? n = s.account? n → u.serve c = (reply, Edit.apply n e u) := by
  cases c with
  | create | findByEmail | findById => exact hc.elim
  | setProfile id profile =>
    obtain ⟨rfl, a, ha, hemail⟩ := hc
    obtain ⟨reply, e, hchange⟩ := exists_edit_change s id fun a => .ok { a with profile }
    refine ⟨reply, e, ?_⟩
    intro u hu hsame
    -- the address is that of the account itself, so no other account of `u` holds it
    have hfree : u.heldByOther id profile.email = false := by
      rw [hemail]
      exact hu.heldByOther_own (hsame.trans ha)
    rw [Store.serve, hfree]
    exact hchange u hsame
  | setPasswordHash id hash =>
    obtain rfl : id = n := hc
    obtain ⟨reply, e, hchange⟩ := exists_edit_change s id fun a => .ok { a with passwordHash := hash }
    exact ⟨reply, e, fun u _ hsame => hchange u hsame⟩
  | linkFamily id f =>
    obtain rfl : id = n := hc
    obtain ⟨reply, e, hchange⟩ := exists_edit_change s id (linked f)
    exact ⟨reply, e, fun u _ hsame => hchange u hsame⟩
  | unlinkFamily id f =>
    obtain rfl : id = n := hc
    obtain ⟨reply, e, hchange⟩ := exists_edit_change s id (unlinked f)
    exact ⟨reply, e, fun u _ hsame => hchange u hsame⟩
  | setRole id role =>
    obtain rfl : id = n := hc
    obtain ⟨reply, e, hchange⟩ := exists_edit_change s id fun a => .ok { a with role }
    exact ⟨reply, e, fun u _ hsame => hchange u hsame⟩
  | delete id =>
    obtain rfl : id = n := hc
    cases ha : s.account? id with
    | none => exact ⟨.error .accountNotFound, .keep, fun u _ hu => by simp [Store.serve, hu, Edit.apply]⟩
    | some a => exact ⟨.ok (), .remove, fun u _ hu => by simp [Store.serve, hu, Edit.apply]⟩

/-- **Calls on different accounts may be served in either order,** behind every sequence of calls on the empty store:
each gets the same reply in both, whether it succeeds or is refused, and both orders leave the same store. -/
theorem serve_comm (calls : List Call) {c d : Call} {i j : Int} (hc : c.Edits (empty.serveAll calls) i)
    (hd : d.Edits (empty.serveAll calls) j) (hij : i ≠ j) :
    let s := empty.serveAll calls
    ((s.serve d).2.serve c).1 = (s.serve c).1 ∧ ((s.serve c).2.serve d).1 = (s.serve d).1 ∧
      ((s.serve c).2.serve d).2 = ((s.serve d).2.serve c).2 := by
  intro s
  have hs : s.WellFormed := wellFormed_empty.serveAll calls
  obtain ⟨reply, e, hserve⟩ := WellFormed.exists_edit hc
  obtain ⟨reply', e', hserve'⟩ := WellFormed.exists_edit hd
  -- each call finds the record of its own account as it was, in front of the other call and behind it
  have hfirst : s.serve c = (reply, e.apply i s) := hserve s hs rfl
  have hfirst' : s.serve d = (reply', e'.apply j s) := hserve' s hs rfl
  have hsecond : (s.serve d).2.serve c = (reply, e.apply i (s.serve d).2) :=
    hserve _ (hs.serve d) ((keepsOthers_serve hd.names s).2 i hij)
  have hsecond' : (s.serve c).2.serve d = (reply', e'.apply j (s.serve c).2) :=
    hserve' _ (hs.serve c) ((keepsOthers_serve hc.names s).2 j hij.symm)
  refine ⟨?_, ?_, ?_⟩
  · rw [hsecond, hfirst]
  · rw [hsecond', hfirst']
  · rw [hsecond, hsecond', hfirst, hfirst']
    exact Edit.apply_comm hij e e' s

/-- Two accounts: the first one gets a new name, the second one is deleted. -/
theorem serve_comm_deletion :
    let s := empty.serveAll [.create ⟨⟨"a@x.com", "1", "a", "b"⟩, "h", Moment.utc 0⟩,
      .create ⟨⟨"c@x.com", "2", "c", "d"⟩, "h", Moment.utc 0⟩]
    let rename := Call.setProfile 1 ⟨"a@x.com", "1", "Ann", "b"⟩
    ((s.serve (.delete 2)).2.serve rename).1 = (s.serve rename).1 ∧
      ((s.serve rename).2.serve (.delete 2)).1 = (s.serve (.delete 2)).1 ∧
      ((s.serve rename).2.serve (.delete 2)).2 = ((s.serve (.delete 2)).2.serve rename).2 := by
  intro s rename
  have hrename : rename.Edits s 1 := ⟨rfl, _, rfl, by decide +kernel⟩
  exact serve_comm [.create ⟨⟨"a@x.com", "1", "a", "b"⟩, "h", Moment.utc 0⟩,
    .create ⟨⟨"c@x.com", "2", "c", "d"⟩, "h", Moment.utc 0⟩] (c := rename) (d := .delete 2) hrename rfl (by decide)

end Gatehouse.Store
