import Gatehouse.Proofs.Password
import Gatehouse.Proofs.Program.Pool
import Gatehouse.Service.Profile

/-!
# Changes of one account that overlap

A change of a profile and a change of a password look the account up first, and then write what they have made of the
record that they found. Between the two, others may write as well.

* `Store.part_through` — what a log does to one part of a record;
* `Pool.Steps.call_cases` — where the calls of a run stand that looks an account up and then makes one call;
* `Service.updateProfile_overlap` — two changes of different fields of a profile: the last writer's fields are there,
  and those of the other one unless it wrote in between;
* `Service.changePassword_overlap` — the hash that a change of a password replaces is the one that it has checked,
  unless somebody else has written it in between.
-/

namespace Gatehouse

open Happening (Foreign)

/-! ## Parts of records -/

namespace Store

variable {s : Store} {id : Int} {a b : Account} {β ι : Type}

lemma part_serveAll (part : Account → β) {calls : List Call} (hs : s.WellFormed) (ha : s.account? id = some a)
    (hb : (s.serveAll calls).account? id = some b) :
    part b = part a ∨ ∃ c ∈ calls, ∃ u x y, c.Revises u id x y ∧ part y ≠ part x ∧ part y = part b := by
  induction calls generalizing s a with
  | nil =>
    cases ha.symm.trans hb
    exact .inl rfl
  | cons c calls ih =>
    have hbehind {r : Account} (hr : (s.serve c).2.account? id = some r) :
        part b = part r ∨ ∃ d ∈ c :: calls, ∃ u x y, d.Revises u id x y ∧ part y ≠ part x ∧ part y = part b := by
      refine (ih (hs.serve c) hr hb).imp_right ?_
      rintro ⟨d, hd, h⟩
      exact ⟨d, List.mem_cons_of_mem _ hd, h⟩
    rcases account?_serve_cases ha c with hr | ⟨r, hrevises, hr⟩ | ⟨-, hn⟩
    · exact hbehind hr
    · rcases hbehind hr with hpart | h
      · by_cases hsame : part r = part a
        · exact .inl (hpart.trans hsame)
        · exact .inr ⟨c, List.mem_cons_self, s, a, r, hrevises, hsame, hpart.symm⟩
      · exact .inr h
    · -- an account that was removed does not come back
      have hid : id ≤ (s.serve c).2.lastId :=
        Int.le_trans (hs.id_le _ (mem_of_account? ha)) (Int.ofNat_le.2 (keepsIds_serve c s).1)
      have hgone : (s.serveAll (c :: calls)).account? id = none := (keepsIds_serveAll calls _).2 id hid hn
      rw [hgone] at hb
      cases hb

/-- **A part of a record** is as it was, or a turn of the log has changed it to what it is. -/
theorem part_through (part : Account → β) {log : List (Turn ι)} (hs : s.WellFormed) (ha : s.account? id = some a)
    (hb : (s.through log).account? id = some b) :
    part b = part a ∨ ∃ t ∈ log, ∃ c u x y, t.call? = some c ∧ c.Revises u id x y ∧ part y ≠ part x ∧
      part y = part b := by
  refine (part_serveAll part hs ha hb).imp_right ?_
  rintro ⟨c, hc, u, x, y, h⟩
  obtain ⟨t, ht, hcall⟩ := List.mem_filterMap.1 hc
  exact ⟨t, ht, c, u, x, y, hcall, h⟩

lemma profile_through {log : List (Turn ι)} (hs : s.WellFormed) (ha : s.account? id = some a)
    (hb : (s.through log).account? id = some b) :
    b.profile = a.profile ∨ ∃ t ∈ log, t.call? = some (.setProfile id b.profile) := by
  refine (part_through Account.profile hs ha hb).imp_right ?_
  rintro ⟨t, ht, c, u, x, y, hcall, hrevises, hne, hy⟩
  exact ⟨t, ht, by rw [hcall, (hrevises.profile.resolve_left hne).1, hy]⟩

lemma passwordHash_through {log : List (Turn ι)} (hs : s.WellFormed) (ha : s.account? id = some a)
    (hb : (s.through log).account? id = some b) :
    b.passwordHash = a.passwordHash ∨ ∃ t ∈ log, t.call? = some (.setPasswordHash id b.passwordHash) := by
  refine (part_through Account.passwordHash hs ha hb).imp_right ?_
  rintro ⟨t, ht, c, u, x, y, hcall, hrevises, hne, hy⟩
  exact ⟨t, ht, by rw [hcall, hrevises.passwordHash.resolve_left hne, hy]⟩

lemma profile_kept {log : List (Turn ι)} (hs : s.WellFormed) (hothers : ∀ c, .other c ∉ log)
    (hnone : ∀ i profile, .call i (.setProfile id profile) ∉ log) (ha : s.account? id = some a)
    (hb : (s.through log).account? id = some b) : b.profile = a.profile := by
  refine (profile_through hs ha hb).resolve_right ?_
  rintro ⟨t, ht, hcall⟩
  cases t with
  | exchange i e => cases hcall
  | other c => exact hothers c ht
  | call i c =>
    cases Option.some.inj hcall
    exact hnone i _ ht

/-- What a record holds besides the profile is as it was, if the log only looks accounts up and sets profiles. -/
lemma rest_through {log : List (Turn ι)} (hs : s.WellFormed) (ha : s.account? id = some a)
    (hb : (s.through log).account? id = some b)
    (hlog : ∀ t ∈ log, ∀ c, t.call? = some c → c.Reads ∨ ∃ i profile, c = .setProfile i profile) :
    { b with profile := a.profile } = a := by
  refine (part_through (fun r => { r with profile := a.profile }) hs ha hb).resolve_right ?_
  rintro ⟨t, ht, c, u, x, y, hcall, hrevises, hne, -⟩
  rcases hlog t ht c hcall with hreads | ⟨i, profile, rfl⟩
  · cases c with
    | findById i => exact hrevises
    | findByEmail email => exact hrevises
    | _ => exact hreads
  · obtain ⟨-, -, rfl⟩ := hrevises
    exact hne rfl

lemma serve_setProfile_eq_ok {profile : Profile} (h : (s.serve (.setProfile id profile)).1 = .ok ()) :
    ∃ x, s.account? id = some x ∧ (s.serve (.setProfile id profile)).2.account? id = some { x with profile } := by
  simp only [serve, change] at h ⊢
  split at h
  · cases h
  · next hheld =>
    rw [if_neg hheld]
    cases hx : s.account? id with
    | none =>
      rw [hx] at h
      cases h
    | some x => exact ⟨x, rfl, account?_put_self hx⟩

end Store

/-! ## Runs that look an account up and then make one call -/

/-- A program that ends at once, or behind one call on the store. -/
def Program.Brief {α : Type} (p : Program α) : Prop :=
  (∃ a, p = .done a) ∨ ∃ c next, p = .ask (.store c) next ∧ ∀ reply, ∃ a, next reply = .done a

namespace Pool

open Program (Brief Reaches)
open Turn (view)

variable {ι α : Type} [DecidableEq ι] {P Q : Pool ι (Except Fault α)} {log front rest : List (Turn ι)} {i : ι}
  {id : Int} {f : Account → Action α} {c : Store.Call}

/-- **The calls of a run that looks an account up and then makes one call.** Such a call is the lookup, or it is what
the run makes of the account that it has found, and behind it the run is at its end. -/
theorem Steps.call_cases (h : Steps P (front ++ .call i c :: rest) Q)
    (hi : P.runs i = (Action.account id >>= f).run) (hf : ∀ a, Brief (f a).run) :
    c = .findById id ∨ ∃ before between a next, front = before ++ .call i (.findById id) :: between ∧
      (Foreign (view i before) ∧ Foreign (view i between) ∧ Foreign (view i rest)) ∧
      (P.store.through before).account? id = some a ∧ (f a).run = .ask (.store c) next ∧
      Q.runs i = next ((P.store.through front).serve c).1 := by
  obtain ⟨R, hfront, hrest⟩ := h.cut
  have hreaches := hfront.reaches i
  rw [hi] at hreaches
  cases hrest with
  | @call _ _ _ _ next _ hR hrest =>
    rw [hR] at hreaches
    rcases Action.reaches_account_bind hreaches with
      ⟨-, hp⟩ | ⟨before, between, hview, hbefore, ⟨-, -, hp⟩ | ⟨a, ha, hfa⟩⟩
    · rw [Action.run_account_bind] at hp
      cases hp
      exact .inl rfl
    · cases hp
    · rcases hf a with ⟨x, hx⟩ | ⟨d, next', hx, hend⟩
      · rw [hx] at hfa
        cases hfa.of_done.2
      · rw [hx] at hfa
        rcases hfa.of_ask_store with ⟨hbetween, hp⟩ | ⟨_, _, -, -, hpast⟩
        · cases hp
          obtain ⟨g, m, rfl, rfl, rfl⟩ := Turn.exists_call_of_view hview
          obtain ⟨y, hy⟩ := hend (R.store.serve c).1
          have hbehind := hrest.reaches i
          rw [Pool.advance_runs_self, hy] at hbehind
          obtain ⟨hforeign, hQ⟩ := hbehind.of_done
          rw [Store.behind_view] at ha
          exact .inr ⟨g, m, a, next, rfl, ⟨hbefore, hbetween, hforeign⟩, ha, hx,
            by rw [hQ, ← hy, hfront.store_eq]⟩
        · obtain ⟨y, hy⟩ := hend _
          rw [hy] at hpast
          cases hpast.of_done.2

end Pool

/-! ## Changes of a profile -/

namespace Profile

inductive Field
  | email
  | phoneNumber
  | name
  | surname
  deriving DecidableEq

def get (p : Profile) : Field → String
  | .email => p.email
  | .phoneNumber => p.phoneNumber
  | .name => p.name
  | .surname => p.surname

variable {current patch : Profile} {f : Field}

lemma get_patched (current patch : Profile) (f : Field) :
    (current.patched patch).get f = pick (patch.get f) (current.get f) := by
  cases f <;> rfl

lemma get_patched_of_ne (h : patch.get f ≠ "") : (current.patched patch).get f = patch.get f := by
  rw [get_patched, pick, if_neg]
  rwa [String.isEmpty_iff]

lemma get_patched_of_eq (h : patch.get f = "") : (current.patched patch).get f = current.get f := by
  rw [get_patched, pick, if_pos]
  rwa [String.isEmpty_iff]

end Profile

namespace Service

open Turn (view)

section Profile

variable {ι : Type} [DecidableEq ι] {s : Store} {id : Int} {patch : ι → Profile} {i : ι} {c : Store.Call}
  {log front rest : List (Turn ι)} {Q : Pool ι (Except Fault Unit)}

/-- **The calls of a change of a profile.** It looks the account up, and then it sets all fields: those of its patch,
and the others as it has found them. -/
theorem updateProfile_call_cases
    (h : Pool.Steps ⟨s, fun i => (updateProfile id (patch i)).run⟩ (front ++ .call i c :: rest) Q) :
    c = .findById id ∨ ∃ before between a, front = before ++ .call i (.findById id) :: between ∧
      (Foreign (view i before) ∧ Foreign (view i between) ∧ Foreign (view i rest)) ∧
      (s.through before).account? id = some a ∧ c = .setProfile id (a.profile.patched (patch i)) ∧
      Q.runs i = .done ((s.through front).serve (.setProfile id (a.profile.patched (patch i)))).1 := by
  refine (h.call_cases rfl fun a => .inr ⟨_, _, rfl, fun reply => ⟨reply, rfl⟩⟩).imp_right ?_
  rintro ⟨before, between, a, next, hfront, hforeign, ha, hnext, hQ⟩
  cases hnext
  exact ⟨before, between, a, hfront, hforeign, ha, rfl, hQ⟩

lemma exists_call_of_updateProfile (h : Pool.Steps ⟨s, fun i => (updateProfile id (patch i)).run⟩ log Q)
    (hi : Q.runs i = .done (.ok ())) :
    ∃ front profile rest, log = front ++ .call i (.setProfile id profile) :: rest := by
  have hreaches := h.reaches i
  rw [hi] at hreaches
  rcases Action.reaches_account_bind hreaches with ⟨-, hp⟩ | ⟨before, behind, hview, -, ⟨-, -, hp⟩ | ⟨a, -, hset⟩⟩
  · cases hp
  · cases hp
  · rcases Program.Reaches.of_ask_store hset with ⟨-, hp⟩ | ⟨between, rest, rfl, -, -⟩
    · cases hp
    · rw [← List.cons_append, ← List.append_assoc] at hview
      obtain ⟨f, r, rfl, -⟩ := Turn.exists_call_of_view hview
      exact ⟨f, _, r, rfl⟩

lemma updateProfile_of_mem {profile : Profile}
    (h : Pool.Steps ⟨s, fun i => (updateProfile id (patch i)).run⟩ (front ++ rest) Q)
    (hi : .call i (.setProfile id profile) ∈ front) :
    ∃ before between a behind,
      front = before ++ .call i (.findById id) :: between ++ .call i (.setProfile id profile) :: behind ∧
      (Foreign (view i before) ∧ Foreign (view i (behind ++ rest))) ∧
      (s.through before).account? id = some a ∧ profile = a.profile.patched (patch i) ∧
      Q.runs i =
        .done ((s.through (before ++ .call i (.findById id) :: between)).serve (.setProfile id profile)).1 := by
  obtain ⟨g, behind, rfl⟩ := List.append_of_mem hi
  rw [List.append_assoc, List.cons_append] at h
  rcases updateProfile_call_cases h with hread | ⟨before, between, a, rfl, ⟨hbefore, -, hbehind⟩, ha, hset, hQ⟩
  · cases hread
  · cases hset
    exact ⟨before, between, a, behind, rfl, ⟨hbefore, hbehind⟩, ha, rfl, hQ⟩

lemma reads_or_sets_of_updateProfile (h : Pool.Steps ⟨s, fun i => (updateProfile id (patch i)).run⟩ log Q)
    (hothers : ∀ c, .other c ∉ log) {t : Turn ι} (ht : t ∈ log) (hc : t.call? = some c) :
    c.Reads ∨ ∃ i profile, c = .setProfile i profile := by
  cases t with
  | exchange i e => cases hc
  | other d => exact absurd ht (hothers d)
  | call i d =>
    cases Option.some.inj hc
    obtain ⟨front, rest, rfl⟩ := List.append_of_mem ht
    rcases updateProfile_call_cases h with rfl | ⟨_, _, _, -, -, -, rfl, -⟩
    · exact .inl trivial
    · exact .inr ⟨_, _, rfl⟩

end Profile

section Two

variable {s : Store} {id : Int} {patch : Bool → Profile} {a b : Account} {last : Bool} {profile : Profile}
  {log front between rest : List (Turn Bool)} {Q : Pool Bool (Except Fault Unit)}

/-- Of two changes that have succeeded, one has set the profile behind the other. -/
lemma exists_set_behind (h : Pool.Steps ⟨s, fun i => (updateProfile id (patch i)).run⟩ log Q)
    (hok : ∀ i, Q.runs i = .done (.ok ())) :
    ∃ last front profile rest, log = front ++ .call last (.setProfile id profile) :: rest ∧
      ∃ profile', .call (!last) (.setProfile id profile') ∈ front := by
  obtain ⟨front, profile, rest, rfl⟩ := exists_call_of_updateProfile h (hok true)
  obtain ⟨f, profile', r, hlog⟩ := exists_call_of_updateProfile h (hok false)
  have hmem : .call false (.setProfile id profile') ∈ front ++ .call true (.setProfile id profile) :: rest := by
    rw [hlog]
    simp
  rcases List.mem_append.1 hmem with hfront | hrest
  · exact ⟨true, front, profile, rest, rfl, profile', hfront⟩
  · obtain ⟨f, r, rfl⟩ := List.append_of_mem ((List.mem_cons.1 hrest).resolve_left (by simp))
    exact ⟨false, front ++ .call true (.setProfile id profile) :: f, profile', r, by simp, profile, by simp⟩

lemma exists_last (h : Pool.Steps ⟨s, fun i => (updateProfile id (patch i)).run⟩ log Q) (hothers : ∀ c, .other c ∉ log)
    (hok : ∀ i, Q.runs i = .done (.ok ())) :
    ∃ last before between r,
      let set : Store.Call := .setProfile id (r.profile.patched (patch last))
      log = before ++ .call last (.findById id) :: between ++ [.call last set] ∧
      (∀ c, .call last c ∉ before) ∧ (s.through before).account? id = some r ∧
      ((s.through (before ++ .call last (.findById id) :: between)).serve set).1 = .ok () ∧
      ∃ profile, .call (!last) (.setProfile id profile) ∈ before ++ .call last (.findById id) :: between := by
  obtain ⟨last, front, profile, rest, rfl, profile', hother⟩ := exists_set_behind h hok
  have hset : ∀ i, ∃ p, .call i (.setProfile id p) ∈ front ++ [.call last (.setProfile id profile)] := by
    intro i
    by_cases hi : i = last
    · exact ⟨profile, by simp [hi]⟩
    · exact ⟨profile', by simp [Bool.eq_not.2 hi, hother]⟩
  have hrest : rest = [] := by
    refine Turn.eq_nil_of_foreign (fun i => ?_) fun c hc => hothers c (by simp [hc])
    obtain ⟨p, hp⟩ := hset i
    rw [← List.singleton_append, ← List.append_assoc] at h
    obtain ⟨-, -, -, behind, -, ⟨-, hbehind⟩, -⟩ := updateProfile_of_mem h hp
    exact (Turn.foreign_view_append.1 hbehind).2
  subst hrest
  rcases updateProfile_call_cases h with hread | ⟨before, between, r, rfl, ⟨hbefore, -⟩, hr, hwrite, hQ⟩
  · cases hread
  · cases hwrite
    have hserve := Program.done.inj (hQ.symm.trans (hok last))
    exact ⟨last, before, between, r, rfl, Turn.call_not_mem_of_foreign hbefore, hr, hserve, profile', hother⟩

/-- **What the later of two changes finds.** If the other one sets the profile behind that, this is the profile as it
was; otherwise it is the one that the other has set. -/
lemma profile_found {r : Account} {profile' : Profile} (hs : s.WellFormed) (ha : s.account? id = some a)
    (h : Pool.Steps ⟨s, fun i => (updateProfile id (patch i)).run⟩
      (front ++ (.call last (.findById id) :: between ++ rest)) Q)
    (hothers : ∀ c, .other c ∉ front) (hok : Q.runs (!last) = .done (.ok ())) (hlast : ∀ c, .call last c ∉ front)
    (hr : (s.through front).account? id = some r)
    (hset : .call (!last) (.setProfile id profile') ∈ front ++ .call last (.findById id) :: between) :
    (∃ profile, .call (!last) (.setProfile id profile) ∈ between) ∧ r.profile = a.profile ∨
      (∀ profile, .call (!last) (.setProfile id profile) ∉ between) ∧
        r.profile = a.profile.patched (patch !last) := by
  -- in front of the reading only the other one can set the profile
  have hnone (log : List (Turn Bool)) (hlog : ∀ t ∈ log, t ∈ front)
      (h : ∀ profile, .call (!last) (.setProfile id profile) ∉ log) :
      ∀ i profile, .call i (.setProfile id profile) ∉ log := by
    intro i profile hmem
    by_cases hi : i = last
    · exact hlast _ (hi ▸ hlog _ hmem)
    · exact h profile (Bool.eq_not.2 hi ▸ hmem)
  by_cases hfront : ∃ profile, .call (!last) (.setProfile id profile) ∈ front
  · obtain ⟨profile, hfront⟩ := hfront
    obtain ⟨g, m, x, behind, rfl, ⟨hg, hbehind⟩, hx, rfl, hQ⟩ := updateProfile_of_mem h hfront
    obtain ⟨y, -, hy⟩ := Store.serve_setProfile_eq_ok (Program.done.inj (hQ.symm.trans hok))
    have hread : x.profile = a.profile :=
      Store.profile_kept hs (fun c hc => hothers c (by simp [hc]))
        (hnone g (fun t ht => by simp [ht]) fun profile => Turn.call_not_mem_of_foreign hg _) ha hx
    rw [Store.through_append, Store.through_call] at hr
    have hkept : r.profile = x.profile.patched (patch !last) :=
      Store.profile_kept ((hs.through _).serve _) (fun c hc => hothers c (by simp [hc]))
        (hnone behind (fun t ht => by simp [ht]) fun profile hmem =>
          Turn.call_not_mem_of_foreign hbehind (.setProfile id profile) (by simp [hmem])) hy hr
    refine .inr ⟨fun profile hbetween => ?_, by rw [hkept, hread]⟩
    exact Turn.call_not_mem_of_foreign hbehind (.setProfile id profile) (by simp [hbetween])
  · have hbetween : .call (!last) (.setProfile id profile') ∈ between := by
      simpa using (List.mem_append.1 hset).resolve_left fun h => hfront ⟨_, h⟩
    refine .inl ⟨⟨_, hbetween⟩, ?_⟩
    exact Store.profile_kept hs hothers (hnone front (fun t ht => ht) fun profile h => hfront ⟨profile, h⟩) ha hr

/-- **Two changes of a profile that overlap,** in any order of their calls, on a store that any calls have left, with
patches that set different fields. If both succeed, the fields that neither sets are as they were, and those of the
change that writes last are set. Those of the other one are set as well, unless it has written between the reading and
the writing of the last one: then they are as they were. -/
theorem updateProfile_overlap (calls : List Store.Call) (id : Int) (patch : Bool → Profile)
    (ha : (Store.empty.serveAll calls).account? id = some a)
    (hdisjoint : ∀ f, (patch false).get f = "" ∨ (patch true).get f = "")
    (h : Pool.Steps ⟨Store.empty.serveAll calls, fun i => (updateProfile id (patch i)).run⟩ log Q)
    (hothers : ∀ c, .other c ∉ log) (hok : ∀ i, Q.runs i = .done (.ok ())) :
    ∃ last before between b,
      log = before ++ .call last (.findById id) :: between ++ [.call last (.setProfile id b.profile)] ∧
      Q.store.account? id = some b ∧ { b with profile := a.profile } = a ∧
      (∀ f, (patch false).get f = "" → (patch true).get f = "" → b.profile.get f = a.profile.get f) ∧
      (∀ f, (patch last).get f ≠ "" → b.profile.get f = (patch last).get f) ∧
      ((∀ profile, .call (!last) (.setProfile id profile) ∉ between) →
        ∀ f, (patch !last).get f ≠ "" → b.profile.get f = (patch !last).get f) ∧
      ((∃ profile, .call (!last) (.setProfile id profile) ∈ between) →
        ∀ f, (patch !last).get f ≠ "" → b.profile.get f = a.profile.get f) := by
  have hs : (Store.empty.serveAll calls).WellFormed := Store.wellFormed_empty.serveAll calls
  obtain ⟨last, before, between, r, rfl, hbefore, hr, hserve, profile, hset⟩ := exists_last h hothers hok
  obtain ⟨x, -, hb⟩ := Store.serve_setProfile_eq_ok hserve
  have hQ : Q.store.account? id = some { x with profile := r.profile.patched (patch last) } := by
    rw [h.store_eq, Store.through_append]
    exact hb
  have hfound := profile_found hs ha (by rwa [List.append_assoc] at h) (fun c hc => hothers c (by simp [hc]))
    (hok _) hbefore hr hset
  have hneither : ∀ f, (patch false).get f = "" → (patch true).get f = "" →
      (patch last).get f = "" ∧ (patch !last).get f = "" := by
    intro f hfalse htrue
    cases last
    · exact ⟨hfalse, htrue⟩
    · exact ⟨htrue, hfalse⟩
  have hfree : ∀ f, (patch !last).get f ≠ "" → (patch last).get f = "" := by
    intro f hf
    cases last
    · exact (hdisjoint f).resolve_right hf
    · exact (hdisjoint f).resolve_left hf
  refine ⟨last, before, between, { x with profile := r.profile.patched (patch last) }, rfl, hQ, ?_, ?_, ?_, ?_, ?_⟩
  · rw [h.store_eq] at hQ
    exact Store.rest_through hs ha hQ fun t ht c hc => reads_or_sets_of_updateProfile h hothers ht hc
  · intro f hfalse htrue
    obtain ⟨hlast, hother⟩ := hneither f hfalse htrue
    rw [Profile.get_patched_of_eq hlast]
    rcases hfound with ⟨-, hprofile⟩ | ⟨-, hprofile⟩
    · rw [hprofile]
    · rw [hprofile, Profile.get_patched_of_eq hother]
  · intro f hf
    exact Profile.get_patched_of_ne hf
  · intro hnone f hf
    rw [Profile.get_patched_of_eq (hfree f hf)]
    rcases hfound with ⟨⟨profile, hmem⟩, -⟩ | ⟨-, hprofile⟩
    · exact absurd hmem (hnone profile)
    · rw [hprofile, Profile.get_patched_of_ne hf]
  · rintro ⟨profile, hmem⟩ f hf
    rw [Profile.get_patched_of_eq (hfree f hf)]
    rcases hfound with ⟨-, hprofile⟩ | ⟨hnone, -⟩
    · rw [hprofile]
    · exact absurd hmem (hnone profile)

/-- Two changes of a profile, the second one behind the first: both fields are set. -/
theorem updateProfile_overlap_in_turn :
    let calls : List Store.Call := [.create ⟨⟨"a@x.com", "1", "a", "b"⟩, "h", Moment.utc 0⟩]
    let patch (i : Bool) : Profile := if i then ⟨"", "", "", "Bee"⟩ else ⟨"", "", "Ann", ""⟩
    let log : List (Turn Bool) :=
      [.call false (.findById 1), .call false (.setProfile 1 ⟨"a@x.com", "1", "Ann", "b"⟩), .call true (.findById 1),
        .call true (.setProfile 1 ⟨"a@x.com", "1", "Ann", "Bee"⟩)]
    ∃ Q, Pool.Steps ⟨Store.empty.serveAll calls, fun i => (updateProfile 1 (patch i)).run⟩ log Q ∧
      (∀ f, (patch false).get f = "" ∨ (patch true).get f = "") ∧ (∀ c, .other c ∉ log) ∧
      (∀ i, Q.runs i = .done (.ok ())) ∧
      ∃ last before between b,
        log = before ++ .call last (.findById 1) :: between ++ [.call last (.setProfile 1 b.profile)] ∧
        Q.store.account? 1 = some b ∧ ∀ f, (patch last).get f ≠ "" → b.profile.get f = (patch last).get f := by
  intro calls patch log
  obtain ⟨Q, hreplay, hok⟩ : ∃ Q,
      Pool.replay ⟨Store.empty.serveAll calls, fun i => (updateProfile 1 (patch i)).run⟩ log = some Q ∧
      ∀ i, Q.runs i = .done (.ok ()) := ⟨_, rfl, Bool.forall_bool.2 ⟨rfl, rfl⟩⟩
  have hsteps := Pool.steps_iff_replay.2 hreplay
  have hdisjoint : ∀ f, (patch false).get f = "" ∨ (patch true).get f = "" := by rintro (_ | _) <;> decide
  have hothers : ∀ c, .other c ∉ log := by simp [log]
  obtain ⟨last, before, between, b, hlog, hb, -, -, hlast, -⟩ :=
    updateProfile_overlap calls 1 patch rfl hdisjoint hsteps hothers hok
  exact ⟨Q, hsteps, hdisjoint, hothers, hok, last, before, between, b, hlog, hb, hlast⟩

/-- Two changes of a profile that both find it as it was: the name that the first one sets is lost to the second one,
which sets another field. -/
theorem updateProfile_loses_field :
    let calls : List Store.Call := [.create ⟨⟨"a@x.com", "1", "a", "b"⟩, "h", Moment.utc 0⟩]
    let patch (i : Bool) : Profile := if i then ⟨"", "", "", "Bee"⟩ else ⟨"", "", "Ann", ""⟩
    let log : List (Turn Bool) :=
      [.call true (.findById 1), .call false (.findById 1), .call false (.setProfile 1 ⟨"a@x.com", "1", "Ann", "b"⟩),
        .call true (.setProfile 1 ⟨"a@x.com", "1", "a", "Bee"⟩)]
    ∃ Q, Pool.Steps ⟨Store.empty.serveAll calls, fun i => (updateProfile 1 (patch i)).run⟩ log Q ∧
      (∀ f, (patch false).get f = "" ∨ (patch true).get f = "") ∧ (∀ i, Q.runs i = .done (.ok ())) ∧
      ∃ b, Q.store.account? 1 = some b ∧ (patch false).get .name ≠ "" ∧
        b.profile.get .name ≠ (patch false).get .name := by
  intro calls patch log
  obtain ⟨Q, hreplay, hok, hb⟩ : ∃ Q,
      Pool.replay ⟨Store.empty.serveAll calls, fun i => (updateProfile 1 (patch i)).run⟩ log = some Q ∧
      (∀ i, Q.runs i = .done (.ok ())) ∧
      Q.store.account? 1 = some ⟨1, ⟨"a@x.com", "1", "a", "Bee"⟩, "h", Moment.utc 0, .user, []⟩ :=
    ⟨_, rfl, Bool.forall_bool.2 ⟨rfl, rfl⟩, rfl⟩
  refine ⟨Q, Pool.steps_iff_replay.2 hreplay, ?_, hok, _, hb, by decide, by decide⟩
  rintro (_ | _) <;> decide

end Two

/-! ## Changes of a password -/

section Password

variable {scheme : Password.Scheme} {ι : Type} [DecidableEq ι] {s : Store} {id : Int} {salt : ι → Password.Salt}
  {old new : ι → String} {i : ι} {c : Store.Call} {log front rest : List (Turn ι)} {Q : Pool ι (Except Fault Unit)}

/-- A change of a password looks the account up and goes on with what it has found: it is refused, or the old password
is that of the account, and then it writes the hash of the new one. -/
lemma changePassword_eq (scheme : Password.Scheme) (salt : Password.Salt) (id : Int) (old new : String) :
    ∃ f, changePassword scheme salt id old new = Action.account id >>= f ∧
      ∀ a, (∃ fault, (f a).run = .done (.error fault)) ∨
        ∃ hash, scheme.verify a.passwordHash old = .ok true ∧ scheme.hash salt new = .ok hash ∧
          (f a).run = .ask (.store (.setPasswordHash id hash)) .done := by
  refine ⟨_, rfl, fun a => ?_⟩
  cases hv : scheme.verify a.passwordHash old with
  | error fault => exact .inl ⟨fault, rfl⟩
  | ok known =>
    cases known with
    | false => exact .inl ⟨.wrongPassword, rfl⟩
    | true =>
      cases hh : scheme.hash salt new with
      | error fault => exact .inl ⟨fault, rfl⟩
      | ok hash => exact .inr ⟨hash, rfl, rfl, rfl⟩

/-- **The calls of a change of a password.** It looks the account up, and if the old password is the one that it finds
there, it writes the hash of the new one. -/
theorem changePassword_call_cases
    (h : Pool.Steps ⟨s, fun i => (changePassword scheme (salt i) id (old i) (new i)).run⟩ (front ++ .call i c :: rest)
      Q) :
    c = .findById id ∨ ∃ before between a hash, front = before ++ .call i (.findById id) :: between ∧
      Foreign (view i between) ∧ (s.through before).account? id = some a ∧
      scheme.verify a.passwordHash (old i) = .ok true ∧ scheme.hash (salt i) (new i) = .ok hash ∧
      c = .setPasswordHash id hash := by
  obtain ⟨f, hf, hends⟩ := changePassword_eq scheme (salt i) id (old i) (new i)
  have hbrief : ∀ a, Program.Brief (f a).run := by
    intro a
    rcases hends a with ⟨fault, hrun⟩ | ⟨hash, -, -, hrun⟩
    · exact .inl ⟨_, hrun⟩
    · exact .inr ⟨_, _, hrun, fun reply => ⟨reply, rfl⟩⟩
  refine (h.call_cases (congrArg ExceptT.run hf) hbrief).imp_right ?_
  rintro ⟨before, between, a, next, hfront, ⟨-, hbetween, -⟩, ha, hnext, -⟩
  rcases hends a with ⟨fault, hrun⟩ | ⟨hash, hverify, hhash, hrun⟩
  · rw [hrun] at hnext
    cases hnext
  · rw [hrun] at hnext
    cases hnext
    exact ⟨before, between, a, hash, hfront, hbetween, ha, hverify, hhash, rfl⟩

lemma hash_of_changePassword {n : Int} {hash : String}
    (h : Pool.Steps ⟨s, fun i => (changePassword scheme (salt i) id (old i) (new i)).run⟩ log Q)
    (hi : .call i (.setPasswordHash n hash) ∈ log) : scheme.hash (salt i) (new i) = .ok hash := by
  obtain ⟨front, rest, rfl⟩ := List.append_of_mem hi
  rcases changePassword_call_cases h with hread | ⟨_, _, _, _, -, -, -, -, hhash, hwrite⟩
  · cases hread
  · cases hwrite
    exact hhash

/-- **Changes of a password that overlap,** any number of them and in any order of their calls, on a store that any
calls have left, where others make any calls as well. Whenever one of them writes a hash for an account that is still
there, it has looked the account up, and its old password has passed the check against the hash `a.passwordHash` that
it found. This is the hash `b.passwordHash` that it replaces, unless that one was written between its reading and its
writing, by another of them or by somebody else. -/
theorem changePassword_overlap (calls : List Store.Call) (scheme : Password.Scheme) (id : Int)
    (salt : ι → Password.Salt) (old new : ι → String) {n : Int} {hash : String} {b : Account}
    (h : Pool.Steps ⟨Store.empty.serveAll calls, fun i => (changePassword scheme (salt i) id (old i) (new i)).run⟩
      (front ++ .call i (.setPasswordHash n hash) :: rest) Q)
    (hb : ((Store.empty.serveAll calls).through front).account? n = some b) :
    n = id ∧ scheme.hash (salt i) (new i) = .ok hash ∧
    ∃ before between a, front = before ++ .call i (.findById id) :: between ∧
      ((Store.empty.serveAll calls).through before).account? id = some a ∧
      scheme.verify a.passwordHash (old i) = .ok true ∧
      (b.passwordHash = a.passwordHash ∧ scheme.verify b.passwordHash (old i) = .ok true ∨
        (∃ j, j ≠ i ∧ .call j (.setPasswordHash id b.passwordHash) ∈ between ∧
          scheme.hash (salt j) (new j) = .ok b.passwordHash) ∨
        .other (.setPasswordHash id b.passwordHash) ∈ between) := by
  have hs : (Store.empty.serveAll calls).WellFormed := Store.wellFormed_empty.serveAll calls
  rcases changePassword_call_cases h with
    hread | ⟨before, between, a, hash', rfl, hbetween, ha, hverify, hhash, hwrite⟩
  · cases hread
  · cases hwrite
    refine ⟨rfl, hhash, before, between, a, rfl, ha, hverify, ?_⟩
    rw [Store.through_append, Store.through_call] at hb
    rcases Store.passwordHash_through (hs.through before) ha hb with hsame | ⟨t, ht, hcall⟩
    · exact .inl ⟨hsame, by rwa [hsame]⟩
    · refine .inr ?_
      cases t with
      | exchange j e => cases hcall
      | other c =>
        cases Option.some.inj hcall
        exact .inr ht
      | call j c =>
        cases Option.some.inj hcall
        refine .inl ⟨j, ?_, ht, hash_of_changePassword (n := id) h (by simp [ht])⟩
        rintro rfl
        exact Turn.call_not_mem_of_foreign hbetween _ ht

/-- A change of a password with another one that is under way. The stretching of this scheme is the first byte, over
and over. -/
theorem changePassword_overlap_first :
    let stretching : Password.Stretching :=
      ⟨fun p _ secret => some (List.replicate p.tagLength (secret.headD 0)), by simp⟩
    let scheme : Password.Scheme := ⟨"", stretching⟩
    let salt : Password.Salt := Vector.replicate 16 0
    let new (i : Bool) := if i then "b" else "c"
    let hash (byte : UInt8) : String := Password.Scheme.freshText salt (List.replicate 32 byte)
    let calls : List Store.Call := [.create ⟨⟨"a@x.com", "1", "a", "b"⟩, hash 97, Moment.utc 0⟩]
    let front : List (Turn Bool) := [.call true (.findById 1), .call false (.findById 1)]
    ∃ Q b, Pool.Steps ⟨Store.empty.serveAll calls, fun i => (changePassword scheme salt 1 "a" (new i)).run⟩
        (front ++ [.call true (.setPasswordHash 1 (hash 98))]) Q ∧
      ((Store.empty.serveAll calls).through front).account? 1 = some b ∧
      ∃ before between a, front = before ++ .call true (.findById 1) :: between ∧
        ((Store.empty.serveAll calls).through before).account? 1 = some a ∧
        scheme.verify a.passwordHash "a" = .ok true := by
  intro stretching scheme salt new hash calls front
  have hreplay : (Pool.replay ⟨Store.empty.serveAll calls, fun i => (changePassword scheme salt 1 "a" (new i)).run⟩
      (front ++ [.call true (.setPasswordHash 1 (hash 98))])).isSome := by decide +kernel
  have hb : ((Store.empty.serveAll calls).through front).account? 1 =
      some ⟨1, ⟨"a@x.com", "1", "a", "b"⟩, hash 97, Moment.utc 0, .user, []⟩ := by decide +kernel
  obtain ⟨Q, hQ⟩ := Option.isSome_iff_exists.1 hreplay
  have hsteps := Pool.steps_iff_replay.2 hQ
  obtain ⟨-, -, before, between, a, hfront, ha, hverify, -⟩ :=
    changePassword_overlap calls scheme 1 (fun _ => salt) (fun _ => "a") new hsteps hb
  exact ⟨Q, _, hsteps, hb, before, between, a, hfront, ha, hverify⟩

/-- Two changes of a password that both start from the same old one: the second to write replaces a hash that its old
password does not fit. -/
theorem changePassword_replaces_unchecked :
    let stretching : Password.Stretching :=
      ⟨fun p _ secret => some (List.replicate p.tagLength (secret.headD 0)), by simp⟩
    let scheme : Password.Scheme := ⟨"", stretching⟩
    let salt : Password.Salt := Vector.replicate 16 0
    let new (i : Bool) := if i then "b" else "c"
    let hash (byte : UInt8) : String := Password.Scheme.freshText salt (List.replicate 32 byte)
    let calls : List Store.Call := [.create ⟨⟨"a@x.com", "1", "a", "b"⟩, hash 97, Moment.utc 0⟩]
    let s := Store.empty.serveAll calls
    let front : List (Turn Bool) :=
      [.call true (.findById 1), .call false (.findById 1), .call true (.setPasswordHash 1 (hash 98))]
    ∃ Q b, Pool.Steps ⟨s, fun i => (changePassword scheme salt 1 "a" (new i)).run⟩
        (front ++ [.call false (.setPasswordHash 1 (hash 99))]) Q ∧
      (s.through front).account? 1 = some b ∧ scheme.verify b.passwordHash "a" = .ok false ∧
      (Q.store.account? 1).map (·.passwordHash) = some (hash 99) := by
  intro stretching scheme salt new hash calls s front
  have hreplay : (Pool.replay ⟨s, fun i => (changePassword scheme salt 1 "a" (new i)).run⟩
      (front ++ [.call false (.setPasswordHash 1 (hash 99))])).isSome := by decide +kernel
  have hb : (s.through front).account? 1 =
      some ⟨1, ⟨"a@x.com", "1", "a", "b"⟩, hash 98, Moment.utc 0, .user, []⟩ := by decide +kernel
  obtain ⟨Q, hQ⟩ := Option.isSome_iff_exists.1 hreplay
  have hsteps := Pool.steps_iff_replay.2 hQ
  refine ⟨Q, _, hsteps, hb, by decide +kernel, ?_⟩
  rw [hsteps.store_eq]
  decide +kernel

end Password

end Service

end Gatehouse
