import Gatehouse.Proofs.Store.Lookup

/-!
# The invariant of the account store

* `serve_cases` — a call leaves the store as it was, adds an account, replaces one or removes one;
* `Call.Revises.parts` — where a call replaces an account, it changes one part of the record;
* `WellFormed.serve` — each of these keeps the store well-formed;
* `serveAll_wellFormed` — so that every sequence of calls on the empty store ends in a well-formed store, in which
  ids and email addresses lead to one account each.
-/

namespace Gatehouse.Store

variable {s : Store} {id : Int} {a b : Account}

/-! ## What a call does -/

/-- The call turns the account `a` under `id` into `b`, for which the store lets it. -/
def Call.Revises (s : Store) (id : Int) (a b : Account) : Call → Prop
  | .setProfile i profile => i = id ∧ s.heldByOther id profile.email = false ∧ b = { a with profile }
  | .setPasswordHash i hash => i = id ∧ b = { a with passwordHash := hash }
  | .linkFamily i f => i = id ∧ f ∉ a.familyIds ∧ b = { a with familyIds := a.familyIds ++ [f] }
  | .unlinkFamily i f => i = id ∧ f ∈ a.familyIds ∧ b = { a with familyIds := a.familyIds.erase f }
  | .setRole i role => i = id ∧ b = { a with role }
  | .create _ | .findByEmail _ | .findById _ | .delete _ => False

lemma linked_eq_ok_iff {f : Int} :
    linked f a = .ok b ↔ f ∉ a.familyIds ∧ b = { a with familyIds := a.familyIds ++ [f] } := by
  unfold linked
  by_cases hf : f ∈ a.familyIds <;> simp [hf, eq_comm]

lemma unlinked_eq_ok_iff {f : Int} :
    unlinked f a = .ok b ↔ f ∈ a.familyIds ∧ b = { a with familyIds := a.familyIds.erase f } := by
  unfold unlinked
  by_cases hf : f ∈ a.familyIds <;> simp [hf, eq_comm]

lemma change_store_cases (s : Store) (id : Int) (f : Account → Except Fault Account) :
    (s.change id f).2 = s ∨
      ∃ a b, s.account? id = some a ∧ f a = .ok b ∧ (s.change id f).2 = s.put id b := by
  rcases change_cases s id f with ⟨-, h⟩ | ⟨a, fault, -, -, h⟩ | ⟨a, b, ha, hf, h⟩
  · exact .inl (by rw [h])
  · exact .inl (by rw [h])
  · exact .inr ⟨a, b, ha, hf, by rw [h]⟩

/-- A call does one of four things to the store. -/
theorem serve_cases (s : Store) (c : Call) :
    (s.serve c).2 = s ∨
    (∃ n, c = .create n ∧ s.holder? n.profile.email = none ∧ (s.serve c).2 = (s.add n).2) ∨
    (∃ id a b, s.account? id = some a ∧ c.Revises s id a b ∧ (s.serve c).2 = s.put id b) ∨
    (∃ id a, c = .delete id ∧ s.account? id = some a ∧ (s.serve c).2 = s.erase id) := by
  cases c with
  | create n =>
    cases hn : s.holder? n.profile.email with
    | some a => exact .inl (by simp [serve, hn])
    | none => exact .inr (.inl ⟨n, rfl, hn, by simp [serve, hn]⟩)
  | findByEmail email => exact .inl rfl
  | findById id => exact .inl rfl
  | setProfile id profile =>
    by_cases hp : s.heldByOther id profile.email = true
    · exact .inl (by simp [serve, hp])
    · have hp : s.heldByOther id profile.email = false := by simpa using hp
      rcases change_store_cases s id fun a => .ok { a with profile } with h | ⟨a, b, ha, hb, h⟩
      · exact .inl (by simpa [serve, hp] using h)
      · cases hb
        exact .inr (.inr (.inl ⟨id, a, _, ha, ⟨rfl, hp, rfl⟩, by simpa [serve, hp] using h⟩))
  | setPasswordHash id hash =>
    rcases change_store_cases s id fun a => .ok { a with passwordHash := hash } with h | ⟨a, b, ha, hb, h⟩
    · exact .inl h
    · cases hb
      exact .inr (.inr (.inl ⟨id, a, _, ha, ⟨rfl, rfl⟩, h⟩))
  | linkFamily id f =>
    rcases change_store_cases s id (linked f) with h | ⟨a, b, ha, hb, h⟩
    · exact .inl h
    · exact .inr (.inr (.inl ⟨id, a, b, ha, ⟨rfl, linked_eq_ok_iff.1 hb⟩, h⟩))
  | unlinkFamily id f =>
    rcases change_store_cases s id (unlinked f) with h | ⟨a, b, ha, hb, h⟩
    · exact .inl h
    · exact .inr (.inr (.inl ⟨id, a, b, ha, ⟨rfl, unlinked_eq_ok_iff.1 hb⟩, h⟩))
  | setRole id role =>
    rcases change_store_cases s id fun a => .ok { a with role } with h | ⟨a, b, ha, hb, h⟩
    · exact .inl h
    · cases hb
      exact .inr (.inr (.inl ⟨id, a, _, ha, ⟨rfl, rfl⟩, h⟩))
  | delete id =>
    cases ha : s.account? id with
    | none => exact .inl (by simp [serve, ha])
    | some a => exact .inr (.inr (.inr ⟨id, a, rfl, ha, by simp [serve, ha]⟩))

/-! ## Revisions -/

section Revises

variable {c : Call}

/-- **A revision changes one part of a record,** the one that its call is about. -/
theorem Call.Revises.parts (h : c.Revises s id a b) :
    (b.id = a.id ∧ b.registeredAt = a.registeredAt) ∧
    (b.profile = a.profile ∨ c = .setProfile id b.profile ∧ s.heldByOther id b.profile.email = false) ∧
    (b.passwordHash = a.passwordHash ∨ c = .setPasswordHash id b.passwordHash) ∧
    (b.role = a.role ∨ c = .setRole id b.role) ∧
    (b.familyIds = a.familyIds ∨
      (∃ f, c = .linkFamily id f ∧ f ∉ a.familyIds ∧ b.familyIds = a.familyIds ++ [f]) ∨
      ∃ f, c = .unlinkFamily id f ∧ f ∈ a.familyIds ∧ b.familyIds = a.familyIds.erase f) := by
  cases c with
  | setProfile i profile =>
    obtain ⟨rfl, hfree, rfl⟩ := h
    exact ⟨⟨rfl, rfl⟩, .inr ⟨rfl, hfree⟩, .inl rfl, .inl rfl, .inl rfl⟩
  | setPasswordHash i hash =>
    obtain ⟨rfl, rfl⟩ := h
    exact ⟨⟨rfl, rfl⟩, .inl rfl, .inr rfl, .inl rfl, .inl rfl⟩
  | setRole i role =>
    obtain ⟨rfl, rfl⟩ := h
    exact ⟨⟨rfl, rfl⟩, .inl rfl, .inl rfl, .inr rfl, .inl rfl⟩
  | linkFamily i f =>
    obtain ⟨rfl, hf, rfl⟩ := h
    exact ⟨⟨rfl, rfl⟩, .inl rfl, .inl rfl, .inl rfl, .inr (.inl ⟨f, rfl, hf, rfl⟩)⟩
  | unlinkFamily i f =>
    obtain ⟨rfl, hf, rfl⟩ := h
    exact ⟨⟨rfl, rfl⟩, .inl rfl, .inl rfl, .inl rfl, .inr (.inr ⟨f, rfl, hf, rfl⟩)⟩
  | _ => exact h.elim

lemma Call.Revises.id_eq (h : c.Revises s id a b) : b.id = a.id := h.parts.1.1

lemma Call.Revises.registeredAt (h : c.Revises s id a b) : b.registeredAt = a.registeredAt := h.parts.1.2

lemma Call.Revises.profile (h : c.Revises s id a b) :
    b.profile = a.profile ∨ c = .setProfile id b.profile ∧ s.heldByOther id b.profile.email = false := h.parts.2.1

lemma Call.Revises.passwordHash (h : c.Revises s id a b) :
    b.passwordHash = a.passwordHash ∨ c = .setPasswordHash id b.passwordHash := h.parts.2.2.1

lemma Call.Revises.role (h : c.Revises s id a b) : b.role = a.role ∨ c = .setRole id b.role := h.parts.2.2.2.1

lemma Call.Revises.familyIds (h : c.Revises s id a b) : b.familyIds = a.familyIds ∨
    (∃ f, c = .linkFamily id f ∧ f ∉ a.familyIds ∧ b.familyIds = a.familyIds ++ [f]) ∨
    ∃ f, c = .unlinkFamily id f ∧ f ∈ a.familyIds ∧ b.familyIds = a.familyIds.erase f := h.parts.2.2.2.2

lemma Call.Revises.email (h : c.Revises s id a b) :
    b.profile.email = a.profile.email ∨ s.heldByOther id b.profile.email = false :=
  h.profile.imp (congrArg Profile.email) And.right

lemma Call.Revises.nodup_families (h : c.Revises s id a b) (ha : a.familyIds.Nodup) : b.familyIds.Nodup := by
  rcases h.familyIds with he | ⟨f, -, hf, he⟩ | ⟨f, -, -, he⟩ <;> rw [he]
  · exact ha
  · rw [← List.concat_eq_append]
    exact ha.concat hf
  · exact ha.erase f

end Revises

/-! ## Entries behind a change -/

lemma mem_put {entry : Int × Account} (hm : entry ∈ (s.put id b).accounts) :
    entry = (id, b) ∨ (entry ∈ s.accounts ∧ entry.1 ≠ id) := by
  obtain ⟨old, ho, rfl⟩ := List.mem_map.1 hm
  by_cases hk : old.1 = id
  · exact .inl (by simp [hk])
  · exact .inr ⟨by simpa [hk] using ho, by simp [hk]⟩

lemma map_fst_put : (s.put id b).accounts.map Prod.fst = s.accounts.map Prod.fst := by
  simp only [Store.put, List.map_map]
  refine List.map_congr_left fun entry _ => ?_
  by_cases hk : entry.1 = id <;> simp [hk]

lemma mem_add {n : NewAccount} {entry : Int × Account} (hm : entry ∈ (s.add n).2.accounts) :
    entry ∈ s.accounts ∨ entry = ((s.lastId : Int) + 1, n.withId (s.lastId + 1)) := by
  simpa [Store.add] using hm

/-! ## What a well-formed store is good for -/

section WellFormed

variable (h : s.WellFormed)
include h

lemma WellFormed.account?_eq_some_iff : s.account? id = some a ↔ (id, a) ∈ s.accounts :=
  Store.account?_eq_some_iff h.nodup_ids

lemma WellFormed.account_id_eq (ha : s.account? id = some a) : a.id = id :=
  h.id_eq _ (mem_of_account? ha)

lemma WellFormed.account?_eq_none_of_lt (hid : s.lastId < id) : s.account? id = none := by
  refine account?_eq_none_iff.2 fun entry he heq => ?_
  have := h.id_le entry he
  omega

lemma WellFormed.account?_add_self (n : NewAccount) :
    (s.add n).2.account? (s.lastId + 1) = some (n.withId (s.lastId + 1)) := by
  rw [account?_add, h.account?_eq_none_of_lt (by omega)]
  simp

lemma WellFormed.eq_of_email_eq {x y : Int × Account} (hx : x ∈ s.accounts) (hy : y ∈ s.accounts)
    (he : x.2.profile.email = y.2.profile.email) : x = y :=
  List.inj_on_of_nodup_map h.nodup_emails hx hy he

lemma WellFormed.holder?_eq_some_iff {email : String} :
    s.holder? email = some a ↔ s.account? a.id = some a ∧ a.profile.email = email := by
  constructor
  · intro ha
    obtain ⟨id, hm, he⟩ := holder?_eq_some ha
    have hid := h.id_eq _ hm
    rw [h.account?_eq_some_iff]
    exact ⟨by rwa [← show a.id = id from hid] at hm, he⟩
  · rintro ⟨ha, he⟩
    have hm := mem_of_account? ha
    cases hb : s.holder? email with
    | none => exact absurd he (holder?_eq_none_iff.1 hb _ hm)
    | some b =>
      obtain ⟨id, hm', he'⟩ := holder?_eq_some hb
      rw [(Prod.mk.inj (h.eq_of_email_eq hm hm' (he.trans he'.symm))).2]

/-- Who holds an email address does not depend on the order in which the accounts are kept. -/
lemma WellFormed.holder?_eq_of_perm {accounts : List (Int × Account)} (hp : accounts.Perm s.accounts)
    (email : String) : holder? ⟨s.lastId, accounts⟩ email = s.holder? email := by
  cases ha : s.holder? email with
  | none =>
    rw [holder?_eq_none_iff] at ha ⊢
    exact fun entry hm => ha entry (hp.mem_iff.1 hm)
  | some a =>
    obtain ⟨id, hm, he⟩ := holder?_eq_some ha
    cases hb : holder? ⟨s.lastId, accounts⟩ email with
    | none => exact absurd he (holder?_eq_none_iff.1 hb _ (hp.mem_iff.2 hm))
    | some b =>
      obtain ⟨id', hm', he'⟩ := holder?_eq_some hb
      rw [(Prod.mk.inj (h.eq_of_email_eq hm (hp.mem_iff.1 hm') (he.trans he'.symm))).2]

/-! ## The primitive changes -/

lemma WellFormed.email_ne (ha : s.account? id = some a)
    (hemail : b.profile.email = a.profile.email ∨ s.heldByOther id b.profile.email = false) {z : Int × Account}
    (hz : z ∈ s.accounts) (hne : z.1 ≠ id) : z.2.profile.email ≠ b.profile.email := by
  intro he
  rcases hemail with hb | hb
  · exact hne (congrArg Prod.fst (h.eq_of_email_eq hz (mem_of_account? ha) (he.trans hb)))
  · exact hne ((h.id_eq _ hz).symm.trans (heldByOther_eq_false_iff.1 hb z hz he))

lemma WellFormed.nodup_emails_put (ha : s.account? id = some a)
    (hemail : b.profile.email = a.profile.email ∨ s.heldByOther id b.profile.email = false) :
    ((s.put id b).accounts.map fun entry => entry.2.profile.email).Nodup := by
  -- two entries of the new list with one address stood at the same place in the old list
  rw [Store.put, List.map_map]
  refine List.Nodup.map_on ?_ (h.nodup_ids.of_map _)
  intro x hx y hy hxy
  by_cases hxi : x.1 = id <;> by_cases hyi : y.1 = id
  · exact List.inj_on_of_nodup_map h.nodup_ids hx hy (hxi.trans hyi.symm)
  · have hnew : b.profile.email = y.2.profile.email := by simpa [hxi, hyi] using hxy
    exact absurd hnew.symm (h.email_ne ha hemail hy hyi)
  · have hnew : x.2.profile.email = b.profile.email := by simpa [hxi, hyi] using hxy
    exact absurd hnew (h.email_ne ha hemail hx hxi)
  · exact h.eq_of_email_eq hx hy (by simpa [hxi, hyi] using hxy)

/-- Putting a record of the same id in place of an account, with no email address of another. -/
lemma WellFormed.put (ha : s.account? id = some a) (hid : b.id = a.id)
    (hemail : b.profile.email = a.profile.email ∨ s.heldByOther id b.profile.email = false)
    (hfam : b.familyIds.Nodup) : (s.put id b).WellFormed := by
  have hm : (id, a) ∈ s.accounts := mem_of_account? ha
  refine ⟨?_, ?_, ?_, by rw [map_fst_put]; exact h.nodup_ids, h.nodup_emails_put ha hemail, ?_⟩
  · intro entry he
    rcases mem_put he with rfl | ⟨he, -⟩
    · exact hid.trans (h.account_id_eq ha)
    · exact h.id_eq _ he
  · intro entry he
    rcases mem_put he with rfl | ⟨he, -⟩
    · exact h.id_pos (id, a) hm
    · exact h.id_pos _ he
  · intro entry he
    rcases mem_put he with rfl | ⟨he, -⟩
    · exact h.id_le (id, a) hm
    · exact h.id_le _ he
  · intro entry he
    rcases mem_put he with rfl | ⟨he, -⟩
    · exact hfam
    · exact h.nodup_families _ he

lemma WellFormed.erase (id : Int) : (s.erase id).WellFormed := by
  have hsub : (s.erase id).accounts.Sublist s.accounts := List.filter_sublist
  exact ⟨fun e he => h.id_eq e (hsub.subset he), fun e he => h.id_pos e (hsub.subset he),
    fun e he => h.id_le e (hsub.subset he), (hsub.map _).nodup h.nodup_ids,
    (hsub.map _).nodup h.nodup_emails, fun e he => h.nodup_families e (hsub.subset he)⟩

lemma WellFormed.add {n : NewAccount} (hn : s.holder? n.profile.email = none) : (s.add n).2.WellFormed := by
  refine ⟨?_, ?_, ?_, ?_, ?_, ?_⟩
  · intro entry he
    rcases mem_add he with he | rfl
    · exact h.id_eq _ he
    · rfl
  · intro entry he
    rcases mem_add he with he | rfl
    · exact h.id_pos _ he
    · show (1 : Int) ≤ s.lastId + 1
      omega
  · intro entry he
    show entry.1 ≤ ((s.lastId + 1 : Nat) : Int)
    rcases mem_add he with he | rfl
    · have := h.id_le _ he
      omega
    · push_cast; exact Int.le_refl _
  · simp only [Store.add, List.map_append, List.map_cons, List.map_nil]
    refine List.nodup_append.2 ⟨h.nodup_ids, List.nodup_singleton _, ?_⟩
    intro i hi j hj
    obtain ⟨entry, he, rfl⟩ := List.mem_map.1 hi
    have := h.id_le _ he
    rw [List.mem_singleton.1 hj]
    omega
  · simp only [Store.add, List.map_append, List.map_cons, List.map_nil]
    refine List.nodup_append.2 ⟨h.nodup_emails, List.nodup_singleton _, ?_⟩
    intro x hx y hy
    obtain ⟨entry, he, rfl⟩ := List.mem_map.1 hx
    rw [List.mem_singleton.1 hy]
    exact holder?_eq_none_iff.1 hn _ he
  · intro entry he
    rcases mem_add he with he | rfl
    · exact h.nodup_families _ he
    · exact List.nodup_nil

/-! ## All calls -/

theorem WellFormed.serve (c : Call) : (s.serve c).2.WellFormed := by
  rcases serve_cases s c with hc | ⟨n, -, hn, hc⟩ | ⟨id, a, b, ha, hr, hc⟩ | ⟨id, a, -, -, hc⟩ <;> rw [hc]
  · exact h
  · exact h.add hn
  · exact h.put ha hr.id_eq hr.email (hr.nodup_families (h.nodup_families _ (mem_of_account? ha)))
  · exact h.erase id

end WellFormed

/-- The store after a sequence of calls, whatever their replies. Every call is one step, so that this is also
what calls by several callers leave, taken in the order in which the store serves them. -/
def serveAll (s : Store) (calls : List Call) : Store := calls.foldl (fun s c => (s.serve c).2) s

lemma WellFormed.serveAll (h : s.WellFormed) (calls : List Call) : (s.serveAll calls).WellFormed := by
  induction calls generalizing s with
  | nil => exact h
  | cons c calls ih => exact ih (h.serve c)

/-- **Every sequence of calls on the empty store leaves a well-formed store.** Hence an email address has at most
one holder, whatever the order in which the accounts are kept, and every account is found both by its email
address and by its id. -/
theorem serveAll_wellFormed (calls : List Call) :
    let s := empty.serveAll calls
    s.WellFormed ∧
    (∀ x ∈ s.accounts, ∀ y ∈ s.accounts, x.2.profile.email = y.2.profile.email → x = y) ∧
    (∀ accounts, accounts.Perm s.accounts → ∀ email,
      (serve ⟨s.lastId, accounts⟩ (.findByEmail email)).1 = (s.serve (.findByEmail email)).1) ∧
    ∀ id a, (id, a) ∈ s.accounts →
      (s.serve (.findByEmail a.profile.email)).1 = .ok (some a) ∧ (s.serve (.findById a.id)).1 = .ok (some a) := by
  intro s
  have h : s.WellFormed := wellFormed_empty.serveAll calls
  refine ⟨h, fun x hx y hy => h.eq_of_email_eq hx hy, fun accounts hp email => ?_, fun id a hm => ?_⟩
  · exact congrArg Except.ok (h.holder?_eq_of_perm hp email)
  · have ha : s.account? a.id = some a := by
      rw [show a.id = id from h.id_eq _ hm]
      exact h.account?_eq_some_iff.2 hm
    exact ⟨congrArg Except.ok (h.holder?_eq_some_iff.2 ⟨ha, rfl⟩), congrArg Except.ok ha⟩

end Gatehouse.Store
