import Gatehouse.Proofs.Store.Invariant

/-!
# What calls leave alone

* `serve_of_reads`, `serve_eq_error` — a call that only looks something up, or that is refused, leaves everything alone;
* `account?_serve_cases` — a call leaves a record as it is, revises it or removes it;
* `forall_mem_serve` — so that what holds of all records goes on to hold, if it holds of those that are new or revised;
* `KeepsIds` — no id that was given out comes back, which is so for every call;
* `Keeps` — every account has a part of its record as it was, or is a new one with a given start;
* `KeepsPasswords`, `KeepsRoles` — so for the hashes behind a call that writes no password, and for the roles behind a
  call that sets no role;
* `mem_familyIds_serve` — behind a call, a family is linked that was linked before, or that the call has linked.
-/

namespace Gatehouse.Store

variable {s u v : Store}

/-! ## Everything -/

/-- A call that only looks something up. -/
def Call.Reads : Call → Prop
  | .findByEmail _ | .findById _ => True
  | _ => False

lemma serve_of_reads {c : Call} (hc : c.Reads) (s : Store) : (s.serve c).2 = s := by
  cases c with
  | findByEmail email => rfl
  | findById id => rfl
  | _ => exact hc.elim

lemma change_eq_error {id : Int} {f : Account → Except Fault Account} {fault : Fault}
    (h : (s.change id f).1 = .error fault) : (s.change id f).2 = s := by
  rcases change_cases s id f with ⟨-, hc⟩ | ⟨a, refusal, -, -, hc⟩ | ⟨a, b, -, -, hc⟩
  · rw [hc]
  · rw [hc]
  · rw [hc] at h
    cases h

/-- **A call that is refused** leaves the store as it was. -/
theorem serve_eq_error {c : Call} {fault : Fault} (h : (s.serve c).1 = .error fault) : (s.serve c).2 = s := by
  cases c with
  | findByEmail email => rfl
  | findById id => rfl
  | create n =>
    cases hn : s.holder? n.profile.email with
    | some a => simp only [serve, hn]
    | none =>
      simp only [serve, hn] at h
      cases h
  | setProfile id profile =>
    unfold serve at h ⊢
    dsimp only at h ⊢
    split
    · rfl
    · next hheld =>
      rw [if_neg hheld] at h
      exact change_eq_error h
  | setPasswordHash id hash => exact change_eq_error h
  | linkFamily id f => exact change_eq_error h
  | unlinkFamily id f => exact change_eq_error h
  | setRole id role => exact change_eq_error h
  | delete id =>
    cases ha : s.account? id with
    | none => simp only [serve, ha]
    | some a =>
      simp only [serve, ha] at h
      cases h

/-! ## One record -/

/-- **A call leaves a record as it is, revises it or removes it.** -/
theorem account?_serve_cases {id : Int} {a : Account} (ha : s.account? id = some a) (c : Call) :
    (s.serve c).2.account? id = some a ∨ (∃ b, c.Revises s id a b ∧ (s.serve c).2.account? id = some b) ∨
      (c = .delete id ∧ (s.serve c).2.account? id = none) := by
  rcases serve_cases s c with h | ⟨n, -, -, h⟩ | ⟨i, x, y, hx, hr, h⟩ | ⟨i, x, hc, -, h⟩ <;> rw [h]
  · exact .inl ha
  · exact .inl (by rw [account?_add, ha]; rfl)
  · by_cases hi : id = i
    · subst hi
      rw [ha] at hx
      cases hx
      exact .inr (.inl ⟨y, hr, account?_put_self ha⟩)
    · exact .inl (by rw [account?_put_of_ne hi, ha])
  · by_cases hi : id = i
    · subst hi
      exact .inr (.inr ⟨hc, by rw [account?_erase, if_pos rfl]⟩)
    · exact .inl (by rw [account?_erase, if_neg hi, ha])

/-- A profile of an account that is there is set, unless another account holds the email address. -/
lemma serve_setProfile_of_some {id : Int} {a : Account} (ha : s.account? id = some a) (profile : Profile) :
    s.serve (.setProfile id profile) =
      if s.heldByOther id profile.email then (.error .accountExists, s)
      else (.ok (), s.put id { a with profile }) := by
  rw [Store.serve, Store.change, ha]

/-! ## All records -/

/-- **What holds of all records** goes on to hold behind a call, if it holds of the one that is new or revised. -/
theorem forall_mem_serve {P : Account → Prop} {c : Call} (h : ∀ entry ∈ s.accounts, P entry.2)
    (hnew : ∀ n id, c = .create n → P (n.withId id)) (hrevised : ∀ id a b, c.Revises s id a b → P a → P b) :
    ∀ entry ∈ (s.serve c).2.accounts, P entry.2 := by
  rcases serve_cases s c with hs | ⟨n, hc, -, hs⟩ | ⟨id, a, b, ha, hr, hs⟩ | ⟨id, a, -, -, hs⟩ <;> rw [hs]
  · exact h
  · intro entry he
    rcases mem_add he with he | rfl
    · exact h entry he
    · exact hnew n _ hc
  · intro entry he
    rcases mem_put he with rfl | ⟨he, -⟩
    · exact hrevised id a b hr (h (id, a) (mem_of_account? ha))
    · exact h entry he
  · exact fun entry he => h entry (List.mem_of_mem_filter he)

/-! ## Ids -/

/-- No id that was given out comes back. -/
def KeepsIds (s u : Store) : Prop :=
  s.lastId ≤ u.lastId ∧ ∀ id : Int, id ≤ s.lastId → s.account? id = none → u.account? id = none

lemma KeepsIds.refl (s : Store) : s.KeepsIds s := ⟨Nat.le_refl _, fun _ _ h => h⟩

lemma KeepsIds.trans (h : s.KeepsIds u) (h' : u.KeepsIds v) : s.KeepsIds v :=
  ⟨Nat.le_trans h.1 h'.1, fun id hid hn => h'.2 id (Int.le_trans hid (Int.ofNat_le.2 h.1)) (h.2 id hid hn)⟩

lemma keepsIds_serve (c : Call) (s : Store) : s.KeepsIds (s.serve c).2 := by
  rcases serve_cases s c with h | ⟨n, -, -, h⟩ | ⟨id, a, b, ha, -, h⟩ | ⟨id, a, -, -, h⟩ <;> rw [h]
  · exact .refl s
  · refine ⟨Nat.le_succ _, fun j hj hn => ?_⟩
    rw [account?_add, hn, if_neg (by omega)]
    rfl
  · refine ⟨Nat.le_refl _, fun j _ hn => ?_⟩
    rw [account?_put]
    split
    · next he => rw [← he, hn]; rfl
    · exact hn
  · refine ⟨Nat.le_refl _, fun j _ hn => ?_⟩
    rw [account?_erase]
    split
    · rfl
    · exact hn

lemma keepsIds_serveAll (calls : List Call) (s : Store) : s.KeepsIds (s.serveAll calls) := by
  induction calls generalizing s with
  | nil => exact .refl s
  | cons c calls ih => exact (keepsIds_serve c s).trans (ih _)

/-! ## One part of all records -/

section Keeps

variable {β : Type} {part : Account → β} {start : β → Prop} {c : Call}

/-- Every account was there before with this part of its record as it is, or its id is a new one and the part is one
to start with. -/
def Keeps (part : Account → β) (start : β → Prop) (s u : Store) : Prop :=
  s.lastId ≤ u.lastId ∧ ∀ id b, u.account? id = some b →
    (∃ a, s.account? id = some a ∧ part a = part b) ∨ ((s.lastId : Int) < id ∧ start (part b))

lemma Keeps.refl (s : Store) : Keeps part start s s := ⟨Nat.le_refl _, fun _ b hb => .inl ⟨b, hb, rfl⟩⟩

lemma Keeps.trans (h : Keeps part start s u) (h' : Keeps part start u v) : Keeps part start s v := by
  refine ⟨Nat.le_trans h.1 h'.1, fun id c hc => ?_⟩
  rcases h'.2 id c hc with ⟨b, hb, he⟩ | ⟨hid, hc⟩
  · rcases h.2 id b hb with ⟨a, ha, he'⟩ | ⟨hid, hb⟩
    · exact .inl ⟨a, ha, he'.trans he⟩
    · exact .inr ⟨hid, he ▸ hb⟩
  · exact .inr ⟨Int.lt_of_le_of_lt (Int.ofNat_le.2 h.1) hid, hc⟩

lemma Keeps.put {id : Int} {a b : Account} (ha : s.account? id = some a) (hb : part a = part b) :
    Keeps part start s (s.put id b) := by
  refine ⟨Nat.le_refl _, fun j c hc => .inl ?_⟩
  by_cases hj : j = id
  · subst hj
    rw [account?_put_self ha] at hc
    cases hc
    exact ⟨a, ha, hb⟩
  · rw [account?_put_of_ne hj] at hc
    exact ⟨c, hc, rfl⟩

lemma Keeps.add {n : NewAccount} (hn : ∀ id, start (part (n.withId id))) (s : Store) :
    Keeps part start s (s.add n).2 := by
  refine ⟨Nat.le_succ _, fun j b hb => ?_⟩
  rw [account?_add] at hb
  cases ha : s.account? j with
  | some a =>
    rw [ha] at hb
    cases hb
    exact .inl ⟨_, rfl, rfl⟩
  | none =>
    rw [ha] at hb
    split at hb
    · next hj =>
      cases hb
      exact .inr ⟨by omega, hn _⟩
    · cases hb

lemma Keeps.erase (s : Store) (id : Int) : Keeps part start s (s.erase id) := by
  refine ⟨Nat.le_refl _, fun j b hb => ?_⟩
  rw [account?_erase] at hb
  split at hb
  · cases hb
  · exact .inl ⟨b, hb, rfl⟩

/-- **A call keeps a part of all records** if no revision by it changes the part, and new accounts start with it as
they should. -/
theorem Keeps.serve (hnew : ∀ n id, c = .create n → start (part (n.withId id)))
    (hrevised : ∀ s id a b, c.Revises s id a b → part a = part b) (s : Store) :
    Keeps part start s (s.serve c).2 := by
  rcases serve_cases s c with h | ⟨n, hc, -, h⟩ | ⟨id, a, b, ha, hr, h⟩ | ⟨id, a, -, -, h⟩ <;> rw [h]
  · exact .refl s
  · exact .add (fun id => hnew n id hc) s
  · exact .put ha (hrevised s id a b hr)
  · exact .erase s id

/-- Every account was there before with the hash that it has. -/
abbrev KeepsPasswords : Store → Store → Prop := Keeps Account.passwordHash fun _ => False

def Call.WritesNoPassword : Call → Prop
  | .create _ | .setPasswordHash .. => False
  | _ => True

lemma keepsPasswords_serve (hc : c.WritesNoPassword) (s : Store) : KeepsPasswords s (s.serve c).2 := by
  refine .serve ?_ (fun s id a b hr => (hr.passwordHash.resolve_right ?_).symm) s
  · rintro n id rfl
    exact hc
  · rintro rfl
    exact hc

/-- Every account was there before with the role that it has, or its id is a new one and it is a plain user. -/
abbrev KeepsRoles : Store → Store → Prop := Keeps Account.role (Eq .user)

def Call.SetsNoRole : Call → Prop
  | .setRole .. => False
  | _ => True

lemma keepsRoles_serve (hc : c.SetsNoRole) (s : Store) : KeepsRoles s (s.serve c).2 := by
  refine .serve (fun _ _ _ => rfl) (fun s id a b hr => (hr.role.resolve_right ?_).symm) s
  rintro rfl
  exact hc

end Keeps

/-! ## Families -/

section Families

variable {id f : Int} {a b : Account} {c : Call}

lemma Call.Revises.mem_familyIds (h : c.Revises s id a b) (hf : f ∈ b.familyIds) :
    f ∈ a.familyIds ∨ c = .linkFamily id f ∧ f ∉ a.familyIds := by
  rcases h.familyIds with he | ⟨g, rfl, hg, he⟩ | ⟨g, -, -, he⟩ <;> rw [he] at hf
  · exact .inl hf
  · rcases List.mem_append.1 hf with hf | hf
    · exact .inl hf
    · cases List.mem_singleton.1 hf
      exact .inr ⟨rfl, hg⟩
  · exact .inl (List.mem_of_mem_erase hf)

lemma serve_linkFamily_eq_ok (ha : s.account? id = some a) (hf : f ∉ a.familyIds) :
    (s.serve (.linkFamily id f)).1 = .ok () := by
  rw [serve, change, ha]
  simp only [linked_eq_ok_iff.2 ⟨hf, rfl⟩]

/-- **Behind a call, a family is linked that was linked before,** or that the call has linked. -/
theorem mem_familyIds_serve (ha : s.account? id = some a) (hb : (s.serve c).2.account? id = some b)
    (hf : f ∈ b.familyIds) : f ∈ a.familyIds ∨ c = .linkFamily id f ∧ (s.serve (.linkFamily id f)).1 = .ok () := by
  rcases account?_serve_cases ha c with h | ⟨x, hr, h⟩ | ⟨-, h⟩ <;> rw [h] at hb
  · cases hb
    exact .inl hf
  · cases hb
    refine (hr.mem_familyIds hf).imp_right ?_
    rintro ⟨rfl, hnew⟩
    exact ⟨rfl, serve_linkFamily_eq_ok ha hnew⟩
  · cases hb

end Families

end Gatehouse.Store
