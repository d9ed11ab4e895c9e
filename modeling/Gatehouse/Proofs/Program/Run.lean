import Gatehouse.Program

/-!
# Running programs

* `Program.run_bind` — a sequence of programs runs the second on the state that the first leaves;
* `Program.run_view` — relationship services that answer alike make a program run alike;
* `Action.runWith` — the run of an action, with one lemma for each way to build an action.
-/

namespace Gatehouse

namespace Program

variable {α β σ : Type} {handler : Handler σ}

theorem bind_done (p : Program α) : p.bind done = p := by
  induction p with
  | done a => rfl
  | ask c next ih => exact congrArg (ask c) (funext ih)

theorem bind_assoc {γ : Type} (p : Program α) (f : α → Program β) (g : β → Program γ) :
    (p.bind f).bind g = p.bind fun a => (f a).bind g := by
  induction p with
  | done a => rfl
  | ask c next ih => exact congrArg (ask c) (funext ih)

instance : LawfulMonad Program := LawfulMonad.mk' Program bind_done (fun _ _ => rfl) bind_assoc

@[simp] theorem run_pure (a : α) (s : σ) : (pure a : Program α).run handler s = (a, s) := rfl

@[simp] theorem run_call (c : Call) (s : σ) : (call c).run handler s = handler c s := rfl

@[simp] theorem run_bind (p : Program α) (f : α → Program β) (s : σ) :
    (p >>= f).run handler s = (f (p.run handler s).1).run handler (p.run handler s).2 := by
  induction p generalizing s with
  | done a => rfl
  | ask c next ih => exact ih (handler c s).1 (handler c s).2

/-- **Two relationship services that answer alike** make a program run alike: what the one keeps is a view of what the
other keeps. -/
theorem run_view {ρ π : Type} {client : Relations.Client ρ} {other : Relations.Client π} {view : ρ → π}
    (h : ∀ c r, other c (view r) = ((client c r).1, view (client c r).2)) (p : Program α) (s : Store) (r : ρ) :
    p.run (inMemory other) (s, view r) =
      let left := p.run (inMemory client) (s, r)
      (left.1, (left.2.1, view left.2.2)) := by
  induction p generalizing s r with
  | done a => rfl
  | ask c next ih =>
    cases c with
    | store c => exact ih _ (s.serve c).2 r
    | relations c =>
      show (next (other c (view r)).1).run (inMemory other) (s, (other c (view r)).2) = _
      rw [h]
      exact ih _ s (client c r).2

end Program

namespace Action

variable {α β σ ρ : Type} {handler : Program.Handler σ} {client : Relations.Client ρ}

/-- The outcome of an action whose calls a handler answers, and the state that it leaves. -/
def runWith (handler : Program.Handler σ) (a : Action α) (s : σ) : Except Fault α × σ :=
  Program.run handler a.run s

@[simp] theorem runWith_pure (a : α) (s : σ) : (pure a : Action α).runWith handler s = (.ok a, s) := rfl

@[simp] theorem runWith_throw (fault : Fault) (s : σ) :
    (throw fault : Action α).runWith handler s = (.error fault, s) := rfl

@[simp] theorem runWith_ofExcept (r : Except Fault α) (s : σ) : (ofExcept r).runWith handler s = (r, s) := rfl

theorem runWith_bind (a : Action α) (f : α → Action β) (s : σ) :
    (a >>= f).runWith handler s =
      match a.runWith handler s with
      | (.ok x, s) => (f x).runWith handler s
      | (.error fault, s) => (.error fault, s) := by
  unfold runWith
  rw [ExceptT.run_bind, Program.run_bind]
  rcases Program.run handler a.run s with ⟨r, s'⟩
  cases r <;> rfl

theorem runWith_bind_ok {a : Action α} {s s' : σ} {x : α} (h : a.runWith handler s = (.ok x, s'))
    (f : α → Action β) : (a >>= f).runWith handler s = (f x).runWith handler s' := by
  rw [runWith_bind, h]

theorem runWith_bind_error {a : Action α} {s s' : σ} {fault : Fault}
    (h : a.runWith handler s = (.error fault, s')) (f : α → Action β) :
    (a >>= f).runWith handler s = (.error fault, s') := by
  rw [runWith_bind, h]

theorem runWith_tryCatch (a : Action α) (f : Fault → Action α) (s : σ) :
    (tryCatch a f).runWith handler s =
      match a.runWith handler s with
      | (.ok x, s) => (.ok x, s)
      | (.error fault, s) => (f fault).runWith handler s := by
  unfold runWith
  rw [ExceptT.run_tryCatch, Program.run_bind]
  rcases Program.run handler a.run s with ⟨r, s'⟩
  cases r <;> rfl

theorem run_account_bind (id : Int) (f : Account → Action α) :
    (account id >>= f).run = .ask (.store (.findById id)) fun
      | .ok (some a) => (f a).run
      | .ok none => .done (.error .accountNotFound)
      | .error fault => .done (.error fault) := by
  refine congrArg (Program.ask (.store (.findById id))) (funext fun reply => ?_)
  rcases reply with fault | _ | a <;> rfl

/-! ### Calls on a store in memory -/

@[simp] theorem runWith_store (c : Store.Call) (s : Store) (r : ρ) :
    (store c).runWith (Program.inMemory client) (s, r) = ((s.serve c).1, ((s.serve c).2, r)) := rfl

@[simp] theorem runWith_relations (c : Relations.Call) (s : Store) (r : ρ) :
    (relations c).runWith (Program.inMemory client) (s, r) = (.ok (client c r).1, (s, (client c r).2)) := rfl

theorem runWith_account_of_some {s : Store} {id : Int} {a : Account} (h : s.account? id = some a) (r : ρ) :
    (account id).runWith (Program.inMemory client) (s, r) = (.ok a, (s, r)) := by
  rw [account, runWith_bind, runWith_store]
  simp only [Store.serve, h]
  rfl

theorem runWith_account_of_none {s : Store} {id : Int} (h : s.account? id = none) (r : ρ) :
    (account id).runWith (Program.inMemory client) (s, r) = (.error .accountNotFound, (s, r)) := by
  rw [account, runWith_bind, runWith_store]
  simp only [Store.serve, h]
  rfl

end Action

end Gatehouse
