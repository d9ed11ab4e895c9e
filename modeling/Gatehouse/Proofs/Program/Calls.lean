import Gatehouse.Proofs.Program.Run
import Gatehouse.Proofs.Store.Frame

/-!
# Which calls a program makes

* `Program.Makes` — all calls of a program, whatever the replies, are of a kind;
* `Program.run_preserves` — what every call of that kind does to the store, and any sequence of them, the run does;
* `Program.run_wellFormed`, `Program.run_keepsIds` — so that every run over a store in memory keeps it well-formed and
  brings no id back.
-/

namespace Gatehouse

namespace Program

variable {α β ρ : Type} {P : Call → Prop} {p : Program α}

/-- All calls that a program makes, whatever the replies, are of a kind. -/
def Makes (P : Call → Prop) : Program α → Prop
  | done _ => True
  | ask c next => P c ∧ ∀ reply, (next reply).Makes P

lemma makes_call {c : Call} (h : P c) : (call c).Makes P := ⟨h, fun _ => trivial⟩

lemma makes_any (p : Program α) : p.Makes fun _ => True := by
  induction p with
  | done a => trivial
  | ask c next ih => exact ⟨trivial, ih⟩

lemma Makes.mono {Q : Call → Prop} (hp : p.Makes P) (h : ∀ c, P c → Q c) : p.Makes Q := by
  induction p with
  | done a => trivial
  | ask c next ih => exact ⟨h c hp.1, fun reply => ih reply (hp.2 reply)⟩

lemma Makes.bind (hp : p.Makes P) {f : α → Program β} (hf : ∀ a, (f a).Makes P) : (p >>= f).Makes P := by
  induction p with
  | done a => exact hf a
  | ask c next ih => exact ⟨hp.1, fun reply => ih reply (hp.2 reply)⟩

/-- **What every call of a kind does to a store in memory, a run of such calls does:** `R` has to hold of the
store before and behind each call, of a store and itself, and across two steps if it holds of both. -/
theorem run_preserves {R : Store → Store → Prop} (hrefl : ∀ s, R s s)
    (htrans : ∀ {s t u}, R s t → R t u → R s u)
    (hcall : ∀ c : Store.Call, P (.store c) → ∀ s : Store, R s (s.serve c).2) (client : Relations.Client ρ)
    (hp : p.Makes P) (s : Store) (r : ρ) : R s (p.run (inMemory client) (s, r)).2.1 := by
  induction p generalizing s r with
  | done a => exact hrefl s
  | ask c next ih =>
    cases c with
    | store c => exact htrans (hcall c hp.1 s) (ih _ (hp.2 _) (s.serve c).2 r)
    | relations c => exact ih _ (hp.2 _) s (client c r).2

theorem run_wellFormed (p : Program α) (client : Relations.Client ρ) {s : Store} (h : s.WellFormed) (r : ρ) :
    (p.run (inMemory client) (s, r)).2.1.WellFormed :=
  run_preserves (R := fun s t => s.WellFormed → t.WellFormed) (fun _ => id) (fun hs ht h => ht (hs h))
    (fun c _ _ h => h.serve c) client p.makes_any s r h

theorem run_keepsIds (p : Program α) (client : Relations.Client ρ) (s : Store) (r : ρ) :
    s.KeepsIds (p.run (inMemory client) (s, r)).2.1 :=
  run_preserves Store.KeepsIds.refl Store.KeepsIds.trans (fun c _ s => Store.keepsIds_serve c s) client p.makes_any s r

end Program

namespace Action

variable {α β : Type} {P : Call → Prop}

/-- All calls of an action are of a kind. -/
def Makes (P : Call → Prop) (a : Action α) : Prop := Program.Makes P a.run

lemma makes_pure (a : α) : (pure a : Action α).Makes P := trivial

lemma makes_throw (fault : Fault) : (throw fault : Action α).Makes P := trivial

lemma makes_ofExcept (r : Except Fault α) : (ofExcept r).Makes P := trivial

lemma makes_store {c : Store.Call} (h : P (.store c)) : (store c).Makes P := Program.makes_call h

lemma makes_relations {c : Relations.Call} (h : P (.relations c)) : (relations c).Makes P := ⟨h, fun _ => trivial⟩

lemma Makes.bind {a : Action α} (ha : a.Makes P) {f : α → Action β} (hf : ∀ x, (f x).Makes P) :
    (a >>= f).Makes P := by
  unfold Makes
  rw [ExceptT.run_bind]
  refine Program.Makes.bind ha fun r => ?_
  cases r with
  | error fault => trivial
  | ok x => exact hf x

lemma Makes.tryCatch {a : Action α} (ha : a.Makes P) {f : Fault → Action α} (hf : ∀ fault, (f fault).Makes P) :
    (tryCatch a f).Makes P := by
  unfold Makes
  rw [ExceptT.run_tryCatch]
  refine Program.Makes.bind ha fun r => ?_
  cases r with
  | error fault => exact hf fault
  | ok x => trivial

lemma makes_account (id : Int) (h : P (.store (.findById id))) : (account id).Makes P := by
  refine (makes_store h).bind fun found => ?_
  cases found with
  | none => exact makes_throw .accountNotFound
  | some a => exact makes_pure a

end Action

end Gatehouse
