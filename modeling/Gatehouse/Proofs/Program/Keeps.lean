import Gatehouse.Proofs.Program.Calls

/-!
# Invariants of the store that programs keep

* `Program.Keeps` — each call of a program keeps a property of stores, where the replies are those of stores with that
  property, so that what a program writes may depend on what it has read;
* `Program.run_keeps` — a run of such a program keeps the property.
-/

namespace Gatehouse

namespace Program

variable {α β ρ : Type} {I : Store → Prop} {p : Program α}

/-- Each call of a program keeps `I`: whatever it has read, it has read from stores of which `I` held. -/
def Keeps (I : Store → Prop) : Program α → Prop
  | done _ => True
  | ask (.store c) next => ∀ s, I s → I (s.serve c).2 ∧ (next (s.serve c).1).Keeps I
  | ask (.relations _) next => ∀ reply, (next reply).Keeps I

lemma Keeps.bind (hp : p.Keeps I) {f : α → Program β} (hf : ∀ a, (f a).Keeps I) : (p >>= f).Keeps I := by
  induction p with
  | done a => exact hf a
  | ask c next ih =>
    cases c with
    | store c => exact fun s hs => ⟨(hp s hs).1, ih _ (hp s hs).2⟩
    | relations c => exact fun reply => ih reply (hp reply)

/-- Where every call keeps `I` by itself, whatever is read, the program keeps it. -/
lemma Makes.keeps {P : Call → Prop} (hp : p.Makes P)
    (hcall : ∀ c : Store.Call, P (.store c) → ∀ s : Store, I s → I (s.serve c).2) : p.Keeps I := by
  induction p with
  | done a => trivial
  | ask c next ih =>
    cases c with
    | store c => exact fun s hs => ⟨hcall c hp.1 s hs, ih _ (hp.2 _)⟩
    | relations c => exact fun reply => ih reply (hp.2 reply)

/-- **A run keeps** what each call of the program keeps. -/
theorem run_keeps (hp : p.Keeps I) (client : Relations.Client ρ) {s : Store} (hs : I s) (r : ρ) :
    I (p.run (inMemory client) (s, r)).2.1 := by
  induction p generalizing s r with
  | done a => exact hs
  | ask c next ih =>
    cases c with
    | store c => exact ih _ (hp s hs).2 (hp s hs).1 r
    | relations c => exact ih _ (hp _) hs (client c r).2

end Program

namespace Action

variable {α β : Type} {I : Store → Prop}

/-- Each call of an action keeps `I`. -/
def Keeps (I : Store → Prop) (a : Action α) : Prop := Program.Keeps I a.run

lemma keeps_store {c : Store.Call} (h : ∀ s : Store, I s → I (s.serve c).2) : (store c).Keeps I :=
  fun s hs => ⟨h s hs, trivial⟩

/-- An action that looks up an account first goes on with an account of a store of which `I` held. -/
lemma keeps_account_bind {id : Int} {f : Account → Action α}
    (hf : ∀ s a, I s → s.account? id = some a → (f a).Keeps I) : (account id >>= f).Keeps I := by
  unfold Keeps
  rw [run_account_bind]
  refine fun s hs => ⟨hs, ?_⟩
  simp only [Store.serve]
  cases ha : s.account? id with
  | none => trivial
  | some a => exact hf s a hs ha

end Action

end Gatehouse
