import Gatehouse.Proofs.Store.Invariant
import Gatehouse.Text.Integer

/-!
# Which ids are given out

* `Call.givenId?`, `givenIds` — the id that a call gives out, and those of a sequence of calls in order;
* `serve_givenId?` — a call gives out the next id and counts it, or gives out none and leaves the count;
* `givenIds_eq` — so that a sequence of calls gives out the ids behind the last one, one after another;
* `givenIds_counted` — on the empty store the ids are counted from one without gaps, and none comes twice.
-/

namespace Gatehouse.Store

variable {s : Store}

/-- The id that a call gives out, if it creates an account and succeeds. -/
def Call.givenId? : (c : Call) → c.Reply → Option Int
  | .create _, .ok id => some id
  | _, _ => none

/-- The ids that a sequence of calls gives out, in the order in which its creations succeed. -/
def givenIds (s : Store) : List Call → List Int
  | [] => []
  | c :: calls => (c.givenId? (s.serve c).1).toList ++ (s.serve c).2.givenIds calls

/-! ## One call -/

/-- **A call gives out the next id and counts it, or gives out none and leaves the count.** -/
theorem serve_givenId? (s : Store) (c : Call) :
    (c.givenId? (s.serve c).1 = some ((s.lastId : Int) + 1) ∧ (s.serve c).2.lastId = s.lastId + 1) ∨
      (c.givenId? (s.serve c).1 = none ∧ (s.serve c).2.lastId = s.lastId) := by
  cases c with
  | create n =>
    cases hn : s.holder? n.profile.email with
    | some a => exact .inr (by simp [serve, hn, Call.givenId?])
    | none => exact .inl (by simp [serve, hn, add, Call.givenId?])
  | _ =>
    -- no other call gives out an id, and what it may do to an account leaves the count
    refine .inr ⟨rfl, ?_⟩
    rcases serve_cases s _ with h | ⟨n, hc, -⟩ | ⟨id, a, b, -, -, h⟩ | ⟨id, a, -, -, h⟩
    · rw [h]
    · cases hc
    · rw [h]; rfl
    · rw [h]; rfl

/-- A creation gives out the next id, or it finds its email address taken and does nothing. -/
lemma serve_create_cases (s : Store) (n : NewAccount) :
    (s.serve (.create n)).1 = .ok ((s.lastId : Int) + 1) ∨
      (s.serve (.create n)).1 = .error .accountExists ∧ (s.serve (.create n)).2 = s := by
  cases hn : s.holder? n.profile.email with
  | some a => exact .inr (by simp [serve, hn])
  | none => exact .inl (by simp [serve, hn, add])

lemma id_of_serve_delete {id : Int} (hs : s.WellFormed) (h : (s.serve (.delete id)).1 = .ok ()) :
    0 < id ∧ id ≤ s.lastId ∧ (s.serve (.delete id)).2.lastId = s.lastId := by
  cases ha : s.account? id with
  | none =>
    simp only [serve, ha] at h
    cases h
  | some a =>
    have hm := mem_of_account? ha
    exact ⟨hs.id_pos _ hm, hs.id_le _ hm, by simp only [serve, ha]; rfl⟩

/-! ## Sequences of calls -/

/-- **The ids that a sequence of calls gives out** are those behind the last one before, one after another. -/
theorem givenIds_eq (s : Store) (calls : List Call) :
    s.givenIds calls = (List.range' (s.lastId + 1) (s.givenIds calls).length).map (fun k : Nat => (k : Int)) ∧
      (s.serveAll calls).lastId = s.lastId + (s.givenIds calls).length := by
  induction calls generalizing s with
  | nil => exact ⟨rfl, rfl⟩
  | cons c calls ih =>
    obtain ⟨hids, hlast⟩ := ih (s.serve c).2
    have hrun : s.serveAll (c :: calls) = (s.serve c).2.serveAll calls := rfl
    rw [hrun, hlast]
    rcases serve_givenId? s c with ⟨hc, hs⟩ | ⟨hc, hs⟩
    · rw [hs] at hids ⊢
      have hgiven : s.givenIds (c :: calls) = ((s.lastId : Int) + 1) :: (s.serve c).2.givenIds calls := by
        rw [givenIds, hc]
        rfl
      rw [hgiven, List.length_cons, List.range'_succ, List.map_cons, ← hids]
      exact ⟨by push_cast; rfl, by omega⟩
    · rw [hs] at hids ⊢
      have hgiven : s.givenIds (c :: calls) = (s.serve c).2.givenIds calls := by
        rw [givenIds, hc]
        rfl
      rw [hgiven]
      exact ⟨hids, rfl⟩

/-- The ids that are given out are those between the last one before and the last one behind. -/
lemma mem_givenIds_iff {calls : List Call} {id : Int} :
    id ∈ s.givenIds calls ↔ (s.lastId : Int) < id ∧ id ≤ (s.serveAll calls).lastId := by
  obtain ⟨hids, hlast⟩ := givenIds_eq s calls
  rw [hlast]
  generalize (s.givenIds calls).length = count at hids
  rw [hids]
  simp only [List.mem_map, List.mem_range'_1]
  constructor
  · rintro ⟨k, hk, rfl⟩
    omega
  · intro h
    exact ⟨id.toNat, by omega, by omega⟩

lemma givenIds_empty_eq (calls : List Call) :
    empty.givenIds calls = (List.range (empty.givenIds calls).length).map (fun k : Nat => (k : Int) + 1) := by
  have h := (givenIds_eq empty calls).1
  rw [List.range'_eq_map_range, List.map_map] at h
  refine h.trans (List.map_congr_left fun k _ => ?_)
  show ((empty.lastId + 1 + k : Nat) : Int) = (k : Int) + 1
  rw [show empty.lastId = 0 from rfl]
  omega

lemma lastId_serveAll_empty (calls : List Call) : (empty.serveAll calls).lastId = (empty.givenIds calls).length :=
  (givenIds_eq empty calls).2.trans (Nat.zero_add _)

/-- **Ids are counted.** The ids that a sequence of calls on the empty store gives out are 1, 2, 3 and so on in the
order in which its creations succeed, and as long as there are no more of them than words none overflows. Wherever a
creation stands in the sequence, it gives out the number of creations that have succeeded with it, or it finds its email
address taken and does nothing. Wherever an account is deleted, its id was given out before and is not given out
again. -/
theorem givenIds_counted (calls : List Call) :
    let ids := empty.givenIds calls
    ids = (List.range ids.length).map (fun k : Nat => (k : Int) + 1) ∧
    ids.Pairwise (· < ·) ∧
    (ids.length ≤ Text.maxWord → ∀ id ∈ ids, Text.IsWord id) ∧
    (∀ front n behind, calls = front ++ .create n :: behind →
      let s := empty.serveAll front
      (s.serve (.create n)).1 = .ok ((empty.givenIds front).length + 1 : Int) ∨
        (s.serve (.create n)).1 = .error .accountExists ∧ (s.serve (.create n)).2 = s) ∧
    ∀ front id behind, calls = front ++ .delete id :: behind →
      let s := empty.serveAll front
      (s.serve (.delete id)).1 = .ok () →
        id ∈ empty.givenIds front ∧ id ∉ (s.serve (.delete id)).2.givenIds behind := by
  intro ids
  have hids : ids = (List.range ids.length).map (fun k : Nat => (k : Int) + 1) := givenIds_empty_eq calls
  refine ⟨hids, ?_, ?_, ?_, ?_⟩
  · rw [hids]
    exact List.pairwise_lt_range.map _ fun a b h => by omega
  · intro hlength id hid
    rw [hids] at hid
    obtain ⟨k, hk, rfl⟩ := List.mem_map.1 hid
    have hlt := List.mem_range.1 hk
    unfold Text.IsWord Text.minWord
    omega
  · rintro front n behind - s
    rw [← lastId_serveAll_empty]
    exact serve_create_cases s n
  · rintro front id behind - s hdelete
    have hwf : s.WellFormed := wellFormed_empty.serveAll front
    obtain ⟨hpos, hle, hlast⟩ := id_of_serve_delete hwf hdelete
    refine ⟨mem_givenIds_iff.2 ⟨hpos, hle⟩, fun hm => ?_⟩
    have hlt := (mem_givenIds_iff.1 hm).1
    rw [hlast] at hlt
    exact absurd hle (Int.not_le.2 hlt)

/-- An id whose account was deleted is not given out again, and a creation that is refused takes none. -/
example :
    let account (email : String) : NewAccount := ⟨⟨email, "", "", ""⟩, "", Moment.utc 0⟩
    empty.givenIds [.create (account "a@x.com"), .create (account "b@x.com"), .delete 2, .create (account "a@x.com"),
      .create (account "b@x.com")] = [1, 2, 3] := by decide

end Gatehouse.Store
