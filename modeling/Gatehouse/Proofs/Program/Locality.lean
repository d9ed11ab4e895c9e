import Gatehouse.Proofs.Program.Calls

/-!
# Calls that name one account

* `Call.Names` — a call names the account that it is about by its id;
* `serve_named_cases` — such a call leaves the store alone, revises that account or removes it;
* `KeepsOthers` — so that all other accounts are as they were, and no id is given out;
* `AgreeOn`, `serve_agree` — its reply and what it does to the account depend on that account alone, and on which email
  addresses are held by others;
* `Program.run_keepsOthers`, `Program.run_agree` — the same for programs that make only such calls.
-/

namespace Gatehouse

namespace Store

variable {s u v : Store} {n : Int} {c : Call}

/-- A call that names the account that it looks up, changes or removes by its id. -/
def Call.Names (n : Int) : Call → Prop
  | .findById id | .setProfile id _ | .setPasswordHash id _ | .linkFamily id _ | .unlinkFamily id _ | .setRole id _
  | .delete id => id = n
  | .create _ | .findByEmail _ => False

/-- **A call that names an account** leaves the store alone, revises that account or removes it. -/
lemma serve_named_cases (hc : c.Names n) (s : Store) :
    (s.serve c).2 = s ∨ (∃ a b, s.account? n = some a ∧ c.Revises s n a b ∧ (s.serve c).2 = s.put n b) ∨
      (c = .delete n ∧ (s.serve c).2 = s.erase n) := by
  rcases serve_cases s c with h | ⟨_, rfl, -, -⟩ | ⟨id, a, b, ha, hr, h⟩ | ⟨id, a, rfl, -, h⟩
  · exact .inl h
  · exact hc.elim
  · obtain rfl : id = n := by
      cases c with
      | setProfile | setPasswordHash | linkFamily | unlinkFamily | setRole => exact hr.1.symm.trans hc
      | _ => exact hr.elim
    exact .inr (.inl ⟨a, b, ha, hr, h⟩)
  · cases hc
    exact .inr (.inr ⟨rfl, h⟩)

/-! ## All other accounts -/

/-- All accounts but one are as they were, and no id was given out. -/
def KeepsOthers (n : Int) (s u : Store) : Prop := u.lastId = s.lastId ∧ ∀ j ≠ n, u.account? j = s.account? j

lemma KeepsOthers.refl (n : Int) (s : Store) : s.KeepsOthers n s := ⟨rfl, fun _ _ => rfl⟩

lemma KeepsOthers.trans (h : KeepsOthers n s u) (h' : KeepsOthers n u v) : KeepsOthers n s v :=
  ⟨h'.1.trans h.1, fun j hj => (h'.2 j hj).trans (h.2 j hj)⟩

/-- **A call that names an account** leaves all others as they were. -/
theorem keepsOthers_serve (hc : c.Names n) (s : Store) : KeepsOthers n s (s.serve c).2 := by
  rcases serve_named_cases hc s with h | ⟨a, b, -, -, h⟩ | ⟨-, h⟩ <;> rw [h]
  · exact .refl n s
  · exact ⟨rfl, fun j hj => account?_put_of_ne hj⟩
  · exact ⟨rfl, fun j hj => by rw [account?_erase, if_neg hj]⟩

lemma WellFormed.heldByOther_eq_true_iff (h : s.WellFormed) {email : String} :
    s.heldByOther n email = true ↔ ∃ j a, j ≠ n ∧ s.account? j = some a ∧ a.profile.email = email := by
  unfold heldByOther
  rw [List.any_eq_true]
  constructor
  · rintro ⟨⟨j, a⟩, hm, he⟩
    simp only [Bool.and_eq_true, bne_iff_ne, beq_iff_eq] at he
    have ha := h.account?_eq_some_iff.2 hm
    exact ⟨j, a, h.account_id_eq ha ▸ he.1, ha, he.2⟩
  · rintro ⟨j, a, hj, ha, he⟩
    refine ⟨(j, a), h.account?_eq_some_iff.1 ha, ?_⟩
    simp [h.account_id_eq ha, hj, he]

lemma WellFormed.heldByOther_own {a : Account} (h : s.WellFormed) (ha : s.account? n = some a) :
    s.heldByOther n a.profile.email = false := by
  rw [← Bool.not_eq_true, h.heldByOther_eq_true_iff]
  rintro ⟨j, b, hj, hb, he⟩
  have hsame := h.eq_of_email_eq (mem_of_account? hb) (mem_of_account? ha) he
  exact hj (congrArg Prod.fst hsame)

/-- Where all other accounts are as they were, they hold the same email addresses. -/
lemma KeepsOthers.heldByOther_eq (h : KeepsOthers n s u) (hs : s.WellFormed) (hu : u.WellFormed) (email : String) :
    u.heldByOther n email = s.heldByOther n email := by
  rw [Bool.eq_iff_iff, hs.heldByOther_eq_true_iff, hu.heldByOther_eq_true_iff]
  refine exists₂_congr fun j a => and_congr_right fun hj => ?_
  rw [h.2 j hj]

/-! ## The account itself -/

/-- Two stores have the same record of an account, and the same email addresses are held by others. -/
structure AgreeOn (n : Int) (s u : Store) : Prop where
  account : s.account? n = u.account? n
  held : ∀ email, s.heldByOther n email = u.heldByOther n email

lemma change_agree (h : s.account? n = u.account? n) (f : Account → Except Fault Account) :
    (s.change n f).1 = (u.change n f).1 ∧ (s.change n f).2.account? n = (u.change n f).2.account? n := by
  unfold change
  rw [h]
  cases hu : u.account? n with
  | none => exact ⟨rfl, by rw [h, hu]⟩
  | some a =>
    dsimp only
    cases f a with
    | error fault => exact ⟨rfl, h⟩
    | ok b => exact ⟨rfl, by rw [account?_put_self (h.trans hu), account?_put_self hu]⟩

/-- **What a call does that names an account** depends on that account alone, and on which email addresses are held by
others. -/
theorem serve_agree (hc : c.Names n) (hs : s.WellFormed) (hu : u.WellFormed) (h : AgreeOn n s u) :
    (s.serve c).1 = (u.serve c).1 ∧ AgreeOn n (s.serve c).2 (u.serve c).2 := by
  have hreply : (s.serve c).1 = (u.serve c).1 ∧ (s.serve c).2.account? n = (u.serve c).2.account? n := by
    cases c with
    | create account => exact hc.elim
    | findByEmail email => exact hc.elim
    | findById id =>
      cases hc
      exact ⟨congrArg Except.ok h.account, h.account⟩
    | setProfile id profile =>
      cases hc
      simp only [serve, h.held]
      split
      · exact ⟨rfl, h.account⟩
      · exact change_agree h.account _
    | setPasswordHash id hash => cases hc; exact change_agree h.account _
    | linkFamily id f => cases hc; exact change_agree h.account _
    | unlinkFamily id f => cases hc; exact change_agree h.account _
    | setRole id role => cases hc; exact change_agree h.account _
    | delete id =>
      cases hc
      simp only [serve, h.account]
      cases u.account? n with
      | none => exact ⟨rfl, h.account⟩
      | some a => exact ⟨rfl, by simp [account?_erase]⟩
  refine ⟨hreply.1, hreply.2, fun email => ?_⟩
  rw [(keepsOthers_serve hc s).heldByOther_eq hs (hs.serve c), (keepsOthers_serve hc u).heldByOther_eq hu (hu.serve c),
    h.held]

end Store

/-! ## Programs -/

/-- A call on the store that names the account that it is about. -/
def Call.Names (n : Int) : Call → Prop
  | .store c => c.Names n
  | .relations _ => False

namespace Program

variable {α ρ : Type} {n : Int} {p : Program α} (client : Relations.Client ρ)

lemma run_keepsOthers (hp : p.Makes (Call.Names n)) (s : Store) (r : ρ) :
    s.KeepsOthers n (p.run (inMemory client) (s, r)).2.1 :=
  run_preserves (Store.KeepsOthers.refl n) Store.KeepsOthers.trans (fun _ hc s => Store.keepsOthers_serve hc s) client
    hp s r

lemma run_peer (hp : p.Makes (Call.Names n)) (s : Store) (r : ρ) : (p.run (inMemory client) (s, r)).2.2 = r := by
  induction p generalizing s with
  | done a => rfl
  | ask c next ih =>
    cases c with
    | store c => exact ih _ (hp.2 _) _
    | relations c => exact hp.1.elim

/-- **A program that names one account** gives the same result on stores that agree on it, and leaves the account
alike. -/
theorem run_agree (hp : p.Makes (Call.Names n)) {s u : Store} (hs : s.WellFormed) (hu : u.WellFormed)
    (h : s.AgreeOn n u) (r : ρ) :
    (p.run (inMemory client) (s, r)).1 = (p.run (inMemory client) (u, r)).1 ∧
      (p.run (inMemory client) (s, r)).2.1.AgreeOn n (p.run (inMemory client) (u, r)).2.1 := by
  induction p generalizing s u with
  | done a => exact ⟨rfl, h⟩
  | ask c next ih =>
    cases c with
    | store c =>
      obtain ⟨hreply, hagree⟩ := Store.serve_agree hp.1 hs hu h
      have := ih (s.serve c).1 (hp.2 _) (hs.serve c) (hu.serve c) hagree
      simp only [run, inMemory]
      rwa [← hreply]
    | relations c => exact hp.1.elim

end Program

end Gatehouse
