import Gatehouse.Proofs.Program.Calls

/-!
# Runs without a store

* `Program.calls` — the calls that a run makes, in order;
* `Program.Handler.StoreFails` — whoever answers the calls fails every call on the store;
* `Action.Founders` — an action comes to nothing then: it ends in an internal fault and asks nothing of the relationship
  service, which is so for every call on the store, and for whatever starts with one.
-/

namespace Gatehouse

namespace Program

variable {α β σ : Type} {handler : Handler σ}

def calls (handler : Handler σ) : Program α → σ → List Call
  | done _, _ => []
  | ask c next, s => c :: (next (handler c s).1).calls handler (handler c s).2

@[simp] lemma calls_pure (a : α) (s : σ) : (pure a : Program α).calls handler s = [] := rfl

@[simp] lemma calls_bind (p : Program α) (f : α → Program β) (s : σ) :
    (p >>= f).calls handler s = p.calls handler s ++ (f (p.run handler s).1).calls handler (p.run handler s).2 := by
  induction p generalizing s with
  | done a => rfl
  | ask c next ih => exact congrArg (c :: ·) (ih (handler c s).1 (handler c s).2)

/-- Every call on the store fails, with any report. -/
def Handler.StoreFails (handler : Handler σ) : Prop :=
  ∀ c s, ∃ detail, (handler (.store c) s).1 = .error (.internal detail)

lemma storeFails_withoutStore {ρ : Type} (client : Relations.Client ρ) : (withoutStore client).StoreFails :=
  fun c _ => ⟨c.purpose, rfl⟩

end Program

namespace Action

variable {α β σ : Type} {handler : Program.Handler σ}

/-- The action ends in an internal fault and asks nothing of the relationship service. -/
def Founders (handler : Program.Handler σ) (a : Action α) : Prop :=
  ∀ s, (∃ detail, (a.runWith handler s).1 = .error (.internal detail)) ∧
    ∀ c, .relations c ∉ Program.calls handler a.run s

lemma founders_store (hdown : handler.StoreFails) (c : Store.Call) : (store c).Founders handler := by
  intro s
  refine ⟨hdown c s, fun d => ?_⟩
  simp [store, Program.call, Program.calls]

/-- **Whatever starts with an action that comes to nothing** comes to nothing. -/
theorem Founders.bind {a : Action α} (ha : a.Founders handler) (f : α → Action β) : (a >>= f).Founders handler := by
  intro s
  obtain ⟨⟨detail, hfault⟩, hcalls⟩ := ha s
  have hrun : a.runWith handler s = (.error (.internal detail), (a.runWith handler s).2) := Prod.ext hfault rfl
  refine ⟨⟨detail, by rw [runWith_bind_error hrun]⟩, fun c => ?_⟩
  have hprogram : Program.run handler a.run s = a.runWith handler s := rfl
  rw [ExceptT.run_bind, Program.calls_bind, hprogram, hfault]
  simpa using hcalls c

lemma founders_ofExcept_bind {r : Except Fault α} (hr : ∀ fault, r = .error fault → ∃ detail, fault = .internal detail)
    {f : α → Action β} (hf : ∀ x, (f x).Founders handler) : (ofExcept r >>= f).Founders handler := by
  intro s
  cases r with
  | ok x => exact hf x s
  | error fault =>
    obtain ⟨detail, rfl⟩ := hr fault rfl
    exact ⟨⟨detail, rfl⟩, fun c => List.not_mem_nil⟩

lemma Founders.tryCatch {a : Action α} (ha : a.Founders handler) {f : Fault → Action α}
    (hf : ∀ detail, f (.internal detail) = throw (.internal detail)) : (tryCatch a f).Founders handler := by
  intro s
  obtain ⟨⟨detail, hfault⟩, hcalls⟩ := ha s
  have hrun : a.runWith handler s = (.error (.internal detail), (a.runWith handler s).2) := Prod.ext hfault rfl
  constructor
  · rw [runWith_tryCatch, hrun]
    exact ⟨detail, by dsimp only; rw [hf]; rfl⟩
  · intro c
    have hprogram : Program.run handler a.run s = a.runWith handler s := rfl
    rw [ExceptT.run_tryCatch, Program.calls_bind, hprogram, hfault]
    simp only [hf]
    simpa using hcalls c

end Action

end Gatehouse
