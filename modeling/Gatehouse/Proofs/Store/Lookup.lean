import Gatehouse.Store
import Mathlib.Data.List.Nodup

/-!
# Looking accounts up

* `account?_put`, `account?_erase`, `account?_add` — what the primitive changes do to the account under an id;
* `holder?_eq_some`, `holder?_eq_none_iff` — the account that holds an email address;
* `change_cases` — a change of one account succeeds or leaves the store as it was.
-/

namespace Gatehouse.Store

variable {s : Store} {id j : Int} {a b : Account} {email : String}

/-! ## By id -/

lemma mem_of_account? (h : s.account? id = some a) : (id, a) ∈ s.accounts := by
  obtain ⟨front, behind, he, -⟩ := List.lookup_eq_some_iff.1 h
  simp [he]

lemma account?_eq_none_iff : s.account? id = none ↔ ∀ entry ∈ s.accounts, entry.1 ≠ id := by
  unfold account?
  rw [List.lookup_eq_none_iff]
  simp only [bne_iff_ne, ne_eq]
  exact forall₂_congr fun entry _ => not_congr eq_comm

lemma account?_put (s : Store) (id j : Int) (b : Account) :
    (s.put id b).account? j = if j = id then (s.account? id).map fun _ => b else s.account? j := by
  unfold account? put
  induction s.accounts with
  | nil => simp
  | cons entry rest ih =>
    obtain ⟨k, a⟩ := entry
    by_cases hk : k = id
    · subst hk
      by_cases hj : j = k
      · subst hj; simp
      · have hb : (j == k) = false := by simpa using hj
        simp only [hj, if_false] at ih ⊢
        simpa [List.lookup_cons, hb] using ih
    · have hb : (id == k) = false := by simpa using Ne.symm hk
      by_cases hj : j = k
      · subst hj
        simp [hk]
      · have hj' : (j == k) = false := by simpa using hj
        simpa [List.lookup_cons, hk, hb, hj'] using ih

lemma account?_put_self (h : s.account? id = some a) : (s.put id b).account? id = some b := by
  simp [account?_put, h]

lemma account?_put_of_ne (h : j ≠ id) : (s.put id b).account? j = s.account? j := by
  simp [account?_put, h]

lemma account?_erase (s : Store) (id j : Int) :
    (s.erase id).account? j = if j = id then none else s.account? j := by
  unfold account? erase
  induction s.accounts with
  | nil => simp
  | cons entry rest ih =>
    obtain ⟨k, a⟩ := entry
    by_cases hk : k = id
    · subst hk
      rw [List.filter_cons_of_neg (by simp), ih]
      by_cases hj : j = k
      · simp [hj]
      · have hj' : (j == k) = false := by simpa using hj
        simp [hj, List.lookup_cons, hj']
    · rw [List.filter_cons_of_pos (by simpa using hk), List.lookup_cons, ih, List.lookup_cons]
      by_cases hj : j = k
      · subst hj; simp [hk]
      · have hj' : (j == k) = false := by simpa using hj
        simp [hj']

lemma account?_add (s : Store) (n : NewAccount) (j : Int) :
    (s.add n).2.account? j =
      (s.account? j).or (if j = s.lastId + 1 then some (n.withId (s.lastId + 1)) else none) := by
  show (s.accounts ++ [((s.lastId : Int) + 1, n.withId (s.lastId + 1))]).lookup j = _
  rw [List.lookup_append, account?]
  by_cases hj : j = s.lastId + 1
  · simp [hj]
  · have hj' : (j == (s.lastId : Int) + 1) = false := by simpa using hj
    simp [List.lookup_cons, hj, hj']

lemma exists_account?_of_mem (h : (id, a) ∈ s.accounts) : ∃ b, s.account? id = some b := by
  cases hb : s.account? id with
  | some b => exact ⟨b, rfl⟩
  | none => exact absurd rfl (account?_eq_none_iff.1 hb _ h)

lemma account?_eq_some_iff (h : (s.accounts.map Prod.fst).Nodup) : s.account? id = some a ↔ (id, a) ∈ s.accounts := by
  refine ⟨mem_of_account?, fun hm => ?_⟩
  obtain ⟨b, hb⟩ := exists_account?_of_mem hm
  have := List.inj_on_of_nodup_map h hm (mem_of_account? hb) rfl
  rw [hb, (Prod.mk.inj this).2]

/-! ## By email address -/

lemma holder?_eq_some (h : s.holder? email = some a) :
    ∃ id, (id, a) ∈ s.accounts ∧ a.profile.email = email := by
  obtain ⟨entry, hf, rfl⟩ := Option.map_eq_some_iff.1 h
  exact ⟨entry.1, List.mem_of_find?_eq_some hf, by simpa using List.find?_some hf⟩

lemma holder?_eq_none_iff : s.holder? email = none ↔ ∀ entry ∈ s.accounts, entry.2.profile.email ≠ email := by
  simp [holder?]

lemma heldByOther_eq_false_iff : s.heldByOther id email = false ↔
    ∀ entry ∈ s.accounts, entry.2.profile.email = email → entry.2.id = id := by
  unfold heldByOther
  rw [List.any_eq_false]
  refine forall₂_congr fun entry _ => ?_
  simp only [Bool.and_eq_true, bne_iff_ne, beq_iff_eq, not_and]
  exact ⟨fun h he => by_contra fun hi => h hi he, fun h hi he => hi (h he)⟩

/-! ## Changing one account -/

/-- A change finds no account, is refused by the account it finds, or replaces that account. -/
theorem change_cases (s : Store) (id : Int) (f : Account → Except Fault Account) :
    (s.account? id = none ∧ s.change id f = (.error .accountNotFound, s)) ∨
    (∃ a fault, s.account? id = some a ∧ f a = .error fault ∧ s.change id f = (.error fault, s)) ∨
    (∃ a b, s.account? id = some a ∧ f a = .ok b ∧ s.change id f = (.ok (), s.put id b)) := by
  unfold change
  cases ha : s.account? id with
  | none => exact .inl ⟨rfl, rfl⟩
  | some a =>
    cases hf : f a with
    | error fault => exact .inr (.inl ⟨a, fault, rfl, hf, by simp [hf]⟩)
    | ok b => exact .inr (.inr ⟨a, b, rfl, hf, by simp [hf]⟩)

end Gatehouse.Store
