import Gatehouse.Proofs.Program.Calls

/-!
# Programs that are given up

* `Program.WritesAtMost` — a program makes at most so many calls that may change the store, whatever the replies;
* `Program.WritesAtMost.runFor_cases` — a program with one such call, given up behind any number of its calls, leaves
  the store as it was or as it is when the program has ended;
* `Program.WritesAtMost.run_cases` — and what it leaves in the end is what that call alone leaves;
* `Program.runFor_bind` — two programs one after another are given up in the first one or in the second one.
-/

namespace Gatehouse

/-- How many changes of the store a call may make. -/
def Call.writes : Call → Nat
  | .store (.findByEmail _) | .store (.findById _) | .relations _ => 0
  | .store _ => 1

lemma Call.writes_le (c : Call) : c.writes ≤ 1 := by
  unfold writes
  split <;> omega

lemma Call.writes_store_eq_zero_iff {c : Store.Call} : (Call.store c).writes = 0 ↔ c.Reads := by
  cases c <;> simp [writes, Store.Call.Reads]

namespace Program

variable {α β σ ρ : Type} {handler : Handler σ} {p : Program α} {f : α → Program β} {m n : Nat}

/-! ## Where a program is given up -/

@[simp] lemma runFor_pure (count : Nat) (a : α) (s : σ) : (pure a : Program α).runFor handler count s = s := by
  cases count <;> rfl

/-- **Two programs one after another** are given up in the first one, or in the second one on what the first one has
left. -/
theorem runFor_bind (handler : Handler σ) (count : Nat) (p : Program α) (f : α → Program β) (s : σ) :
    (∃ k, (p >>= f).runFor handler count s = p.runFor handler k s) ∨
      ∃ k, (p >>= f).runFor handler count s =
        (f (p.run handler s).1).runFor handler k (p.run handler s).2 := by
  induction p generalizing count s with
  | done a => exact .inr ⟨count, rfl⟩
  | ask c next ih =>
    cases count with
    | zero => exact .inl ⟨0, rfl⟩
    | succ count =>
      refine (ih (handler c s).1 count (handler c s).2).imp_left ?_
      rintro ⟨k, hk⟩
      exact ⟨k + 1, hk⟩

/-! ## Counting changes -/

/-- At most `n` calls of a program may change the store, whatever the replies. -/
def WritesAtMost : Nat → Program α → Prop
  | _, done _ => True
  | n, ask c next => c.writes ≤ n ∧ ∀ reply, (next reply).WritesAtMost (n - c.writes)

lemma writesAtMost_call {c : Call} (h : c.writes ≤ n) : (call c).WritesAtMost n := ⟨h, fun _ => trivial⟩

lemma WritesAtMost.mono (hp : p.WritesAtMost m) (h : m ≤ n) : p.WritesAtMost n := by
  induction p generalizing m n with
  | done a => trivial
  | ask c next ih => exact ⟨Nat.le_trans hp.1 h, fun reply => ih reply (hp.2 reply) (by omega)⟩

theorem WritesAtMost.bind (hp : p.WritesAtMost m) (hf : ∀ a, (f a).WritesAtMost n) :
    (p >>= f).WritesAtMost (m + n) := by
  induction p generalizing m with
  | done a => exact (hf a).mono (Nat.le_add_left n m)
  | ask c next ih =>
    have hc : c.writes ≤ m := hp.1
    refine ⟨by omega, fun reply => ?_⟩
    rw [show m + n - c.writes = m - c.writes + n by omega]
    exact ih reply (hp.2 reply)

/-! ## What is left in the store -/

section Store

variable (client : Relations.Client ρ) (s : Store) (r : ρ)

lemma store_of_writes_eq_zero {c : Call} (h : c.writes = 0) : (inMemory client c (s, r)).2.1 = s := by
  cases c with
  | store c => exact Store.serve_of_reads (Call.writes_store_eq_zero_iff.1 h) s
  | relations c => rfl

/-- A program without such a call leaves the store as it was, wherever it is given up. -/
lemma WritesAtMost.store_eq (hp : p.WritesAtMost 0) :
    (p.run (inMemory client) (s, r)).2.1 = s ∧ ∀ count, (p.runFor (inMemory client) count (s, r)).1 = s := by
  induction p generalizing s r with
  | done a => exact ⟨rfl, fun count => by cases count <;> rfl⟩
  | ask c next ih =>
    have hc : c.writes = 0 := Nat.le_zero.1 hp.1
    have hstore := store_of_writes_eq_zero client s r hc
    obtain ⟨hrun, hcut⟩ := ih (inMemory client c (s, r)).1 (inMemory client c (s, r)).2.1
      (inMemory client c (s, r)).2.2 (by simpa [hc] using hp.2 (inMemory client c (s, r)).1)
    refine ⟨hrun.trans hstore, fun count => ?_⟩
    cases count with
    | zero => rfl
    | succ count => exact (hcut count).trans hstore

/-- **A program with at most one such call,** given up behind any number of its calls, leaves the store as it was, or as
it is when the program has ended. -/
theorem WritesAtMost.runFor_cases (hp : p.WritesAtMost 1) (count : Nat) :
    (p.runFor (inMemory client) count (s, r)).1 = s ∨
      (p.runFor (inMemory client) count (s, r)).1 = (p.run (inMemory client) (s, r)).2.1 := by
  induction p generalizing s r count with
  | done a => exact .inl (by cases count <;> rfl)
  | ask c next ih =>
    cases count with
    | zero => exact .inl rfl
    | succ count =>
      have hnext := hp.2 (inMemory client c (s, r)).1
      obtain hc | hc : c.writes = 0 ∨ c.writes = 1 := by have := c.writes_le; omega
      · -- nothing is changed yet, and the rest runs on the same store
        rw [hc] at hnext
        exact (ih _ (inMemory client c (s, r)).2.1 (inMemory client c (s, r)).2.2 hnext count).imp_left
          fun h => h.trans (store_of_writes_eq_zero client s r hc)
      · -- this is the call, and no other one follows
        rw [hc] at hnext
        obtain ⟨hrun, hcut⟩ := hnext.store_eq client (inMemory client c (s, r)).2.1 (inMemory client c (s, r)).2.2
        exact .inr ((hcut count).trans hrun.symm)

/-- **What a program with at most one such call leaves** in the end is what that call alone leaves, if it was made. -/
theorem WritesAtMost.run_cases {P : Call → Prop} (hp : p.WritesAtMost 1) (hmakes : p.Makes P) :
    (p.run (inMemory client) (s, r)).2.1 = s ∨
      ∃ c, P (.store c) ∧ (p.run (inMemory client) (s, r)).2.1 = (s.serve c).2 := by
  induction p generalizing s r with
  | done a => exact .inl rfl
  | ask c next ih =>
    have hnext := hp.2 (inMemory client c (s, r)).1
    obtain hc | hc : c.writes = 0 ∨ c.writes = 1 := by have := c.writes_le; omega
    · rw [hc] at hnext
      have hstore := store_of_writes_eq_zero client s r hc
      rcases ih _ (inMemory client c (s, r)).2.1 (inMemory client c (s, r)).2.2 hnext (hmakes.2 _) with h | ⟨d, hd, h⟩
      · exact .inl (h.trans hstore)
      · exact .inr ⟨d, hd, h.trans (by rw [hstore])⟩
    · rw [hc] at hnext
      have hrun := (hnext.store_eq client (inMemory client c (s, r)).2.1 (inMemory client c (s, r)).2.2).1
      cases c with
      | store c => exact .inr ⟨c, hmakes.1, hrun⟩
      | relations c => cases hc

end Store

end Program

/-! ## Actions -/

namespace Action

open Program (inMemory)

variable {α β σ ρ : Type} {m n : Nat}

/-- At most `n` calls of an action may change the store, whatever the replies. -/
def WritesAtMost (n : Nat) (a : Action α) : Prop := Program.WritesAtMost n a.run

/-- The state that is left when an action is given up behind so many calls. -/
def runFor (handler : Program.Handler σ) (count : Nat) (a : Action α) (s : σ) : σ :=
  Program.runFor handler count a.run s

lemma writesAtMost_pure (a : α) : (pure a : Action α).WritesAtMost n := trivial

lemma writesAtMost_throw (fault : Fault) : (throw fault : Action α).WritesAtMost n := trivial

lemma writesAtMost_ofExcept (r : Except Fault α) : (ofExcept r).WritesAtMost n := trivial

lemma writesAtMost_store (c : Store.Call) : (store c).WritesAtMost 1 := Program.writesAtMost_call (Call.writes_le _)

lemma writesAtMost_of_reads {c : Store.Call} (h : c.Reads) : (store c).WritesAtMost 0 :=
  Program.writesAtMost_call (Nat.le_of_eq (Call.writes_store_eq_zero_iff.2 h))

lemma writesAtMost_relations (c : Relations.Call) : (relations c).WritesAtMost 0 := ⟨Nat.le_refl 0, fun _ => trivial⟩

lemma WritesAtMost.bind {a : Action α} (ha : a.WritesAtMost m) {f : α → Action β} (hf : ∀ x, (f x).WritesAtMost n) :
    (a >>= f).WritesAtMost (m + n) := by
  unfold WritesAtMost
  rw [ExceptT.run_bind]
  refine Program.WritesAtMost.bind ha fun r => ?_
  cases r with
  | error fault => trivial
  | ok x => exact hf x

lemma WritesAtMost.zero_bind {a : Action α} (ha : a.WritesAtMost 0) {f : α → Action β}
    (hf : ∀ x, (f x).WritesAtMost n) : (a >>= f).WritesAtMost n := by
  have := ha.bind hf
  rwa [Nat.zero_add] at this

lemma WritesAtMost.bind_zero {a : Action α} (ha : a.WritesAtMost n) {f : α → Action β}
    (hf : ∀ x, (f x).WritesAtMost 0) : (a >>= f).WritesAtMost n :=
  ha.bind hf

lemma WritesAtMost.tryCatch {a : Action α} (ha : a.WritesAtMost m) {f : Fault → Action α}
    (hf : ∀ fault, (f fault).WritesAtMost n) : (tryCatch a f).WritesAtMost (m + n) := by
  unfold WritesAtMost
  rw [ExceptT.run_tryCatch]
  refine Program.WritesAtMost.bind ha fun r => ?_
  cases r with
  | error fault => exact hf fault
  | ok x => trivial

lemma writesAtMost_account (id : Int) : (account id).WritesAtMost 0 := by
  refine (writesAtMost_of_reads (by trivial)).zero_bind fun found => ?_
  cases found with
  | none => exact writesAtMost_throw _
  | some a => exact writesAtMost_pure a

/-- **Two actions with one change each,** given up behind any number of calls, leave the store as it was, as it is
between them, or as it is when both have ended. -/
theorem runFor_bind_cases {a : Action α} {f : α → Action β} (ha : a.WritesAtMost 1) (hf : ∀ x, (f x).WritesAtMost 1)
    (client : Relations.Client ρ) (s : Store) (r : ρ) (count : Nat) :
    let left := ((a >>= f).runFor (inMemory client) count (s, r)).1
    left = s ∨ left = (a.runWith (inMemory client) (s, r)).2.1 ∨
      left = ((a >>= f).runWith (inMemory client) (s, r)).2.1 := by
  intro left
  obtain ⟨g, hg, hok, herror⟩ : ∃ g, (a >>= f).run = a.run >>= g ∧ (∀ x, g (.ok x) = (f x).run) ∧
      ∀ fault, g (.error fault) = pure (.error fault) := ⟨_, ExceptT.run_bind a f, fun _ => rfl, fun _ => rfl⟩
  have hleft : left = (Program.runFor (inMemory client) count (a.run >>= g) (s, r)).1 := by rw [← hg]; rfl
  rcases Program.runFor_bind (inMemory client) count a.run g (s, r) with ⟨k, hk⟩ | ⟨k, hk⟩
  · rw [hleft, hk]
    exact (Program.WritesAtMost.runFor_cases client s r ha k).imp_right .inl
  · rcases hrun : a.runWith (inMemory client) (s, r) with ⟨fault | x, u, q⟩
    · have hprogram : Program.run (inMemory client) a.run (s, r) = (.error fault, (u, q)) := hrun
      rw [hleft, hk, hprogram, herror, Program.runFor_pure]
      exact .inr (.inl rfl)
    · have hprogram : Program.run (inMemory client) a.run (s, r) = (.ok x, (u, q)) := hrun
      rw [hleft, hk, hprogram, hok, runWith_bind_ok hrun]
      exact .inr (Program.WritesAtMost.runFor_cases client u q (hf x) k)

end Action

end Gatehouse
