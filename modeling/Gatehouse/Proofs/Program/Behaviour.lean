import Gatehouse.Proofs.Program.Run
import Mathlib.Tactic.Lemma

/-!
# Runs that may be answered in several ways, and may stop

* `Relations.Behaviour` — what a relationship service may answer, and how the answer leaves it;
* `Program.Runs` — a run of a program over a store in memory and such a service: it gets to the end of the program or
  stops in front of one of its calls, and keeps the requests with their replies;
* `Program.runs_bind_iff` — the runs of two programs one after another;
* `Program.runs_run` — what `Program.run` does with a client that behaves so is one of these runs.
-/

namespace Gatehouse

namespace Relations

/-- What a relationship service may do. `b c p reply q` says that in the state `p` it may answer the request `c` by
`reply` and be in the state `q` behind that. -/
abbrev Behaviour (ρ : Type) := Call → ρ → Reply → ρ → Prop

abbrev Exchange := Call × Reply

/-- A client behaves as `b` allows, where `view` tells the state of the service from that of the client. -/
def Client.Conforms {ρ σ : Type} (client : Client σ) (b : Behaviour ρ) (view : σ → ρ) : Prop :=
  ∀ c r, b c (view r) (client c r).1 (view (client c r).2)

end Relations

namespace Program

open Relations (Behaviour Exchange Client)

/-- A run of a program on a store in memory and a relationship service that may answer as `b` says. The run has the
exchanges of the list, in order. Its outcome is the value of the program, or nothing if it was stopped in front of a
call that was never made. -/
inductive Runs {α ρ : Type} (b : Behaviour ρ) :
    Program α → Store × ρ → List Exchange → Option α → Store × ρ → Prop
  | done (a : α) (w : Store × ρ) : Runs b (.done a) w [] (some a) w
  | stopped (c : Call) (next : c.Reply → Program α) (w : Store × ρ) : Runs b (.ask c next) w [] none w
  | store {c : Store.Call} {next : c.Reply → Program α} {s : Store} {p : ρ} {log : List Exchange}
      {outcome : Option α} {w : Store × ρ} (h : Runs b (next (s.serve c).1) ((s.serve c).2, p) log outcome w) :
      Runs b (.ask (.store c) next) (s, p) log outcome w
  | relations {c : Relations.Call} {next : Relations.Reply → Program α} {s : Store} {p q : ρ}
      {reply : Relations.Reply} {log : List Exchange} {outcome : Option α} {w : Store × ρ} (hc : b c p reply q)
      (h : Runs b (next reply) (s, q) log outcome w) :
      Runs b (.ask (.relations c) next) (s, p) ((c, reply) :: log) outcome w

variable {α β ρ σ : Type} {b : Behaviour ρ} {w v : Store × ρ} {log : List Exchange}

lemma runs_done_iff {a : α} {outcome : Option α} :
    Runs b (.done a) w log outcome v ↔ log = [] ∧ outcome = some a ∧ v = w := by
  constructor
  · rintro ⟨⟩
    exact ⟨rfl, rfl, rfl⟩
  · rintro ⟨rfl, rfl, rfl⟩
    exact .done a _

lemma Runs.bind {p : Program α} {f : α → Program β} {a : α} {u : Store × ρ} {log' : List Exchange}
    {outcome : Option β} (h : Runs b p w log (some a) u) (hf : Runs b (f a) u log' outcome v) :
    Runs b (p >>= f) w (log ++ log') outcome v := by
  generalize hs : some a = first at h
  induction h with
  | done a w =>
    cases hs
    exact hf
  | stopped c next w => cases hs
  | store h ih => exact .store (ih hf hs)
  | relations hc h ih => exact .relations hc (ih hf hs)

lemma Runs.bind_stopped {p : Program α} {f : α → Program β} (h : Runs b p w log none v) :
    Runs b (p >>= f) w log none v := by
  generalize hs : none = first at h
  induction h with
  | done a w => cases hs
  | stopped c next w => exact .stopped c _ w
  | store h ih => exact .store (ih hs)
  | relations hc h ih => exact .relations hc (ih hs)

/-- **Two programs one after another** are stopped in the first one, or run it to its end and go on with the second
one. -/
theorem runs_bind_iff {p : Program α} {f : α → Program β} {outcome : Option β} :
    Runs b (p >>= f) w log outcome v ↔
      (outcome = none ∧ Runs b p w log none v) ∨
      ∃ a u log₁ log₂, log = log₁ ++ log₂ ∧ Runs b p w log₁ (some a) u ∧ Runs b (f a) u log₂ outcome v := by
  constructor
  · intro h
    -- a run that makes the first call of `p` goes on as a run of what `p` does with the reply, followed by `f`
    induction p generalizing w log with
    | done a => exact .inr ⟨a, _, [], log, rfl, .done a _, h⟩
    | ask c next ih =>
      cases h with
      | stopped => exact .inl ⟨rfl, .stopped c next _⟩
      | store h =>
        rcases ih _ h with ⟨rfl, hp⟩ | ⟨a, u, log₁, log₂, rfl, hp, hf⟩
        · exact .inl ⟨rfl, .store hp⟩
        · exact .inr ⟨a, u, log₁, log₂, rfl, .store hp, hf⟩
      | @relations c _ s p q reply log _ _ hc h =>
        rcases ih reply h with ⟨rfl, hp⟩ | ⟨a, u, log₁, log₂, rfl, hp, hf⟩
        · exact .inl ⟨rfl, .relations hc hp⟩
        · exact .inr ⟨a, u, (c, reply) :: log₁, log₂, rfl, .relations hc hp, hf⟩
  · rintro (⟨rfl, hp⟩ | ⟨a, u, log₁, log₂, rfl, hp, hf⟩)
    · exact hp.bind_stopped
    · exact hp.bind hf

/-- What every answer does to the state of the service, and any sequence of answers, a run does. -/
theorem Runs.peer {R : ρ → ρ → Prop} (hrefl : ∀ p, R p p) (htrans : ∀ {p q r}, R p q → R q r → R p r)
    (hanswer : ∀ {c p reply q}, b c p reply q → R p q) {p : Program α} {outcome : Option α}
    (h : Runs b p w log outcome v) : R w.2 v.2 := by
  induction h with
  | done a w => exact hrefl w.2
  | stopped c next w => exact hrefl w.2
  | store h ih => exact ih
  | relations hc h ih => exact htrans (hanswer hc) ih

/-- **What `run` does is one of the runs** that the behaviour of its client allows. -/
theorem runs_run {client : Client σ} {view : σ → ρ} (hclient : client.Conforms b view) (p : Program α) (s : Store)
    (r : σ) : ∃ log, Runs b p (s, view r) log (some (p.run (inMemory client) (s, r)).1)
      ((p.run (inMemory client) (s, r)).2.1, view (p.run (inMemory client) (s, r)).2.2) := by
  induction p generalizing s r with
  | done a => exact ⟨[], .done a _⟩
  | ask c next ih =>
    cases c with
    | store c =>
      obtain ⟨log, h⟩ := ih (s.serve c).1 (s.serve c).2 r
      exact ⟨log, .store h⟩
    | relations c =>
      obtain ⟨log, h⟩ := ih (client c r).1 s (client c r).2
      exact ⟨_, .relations (hclient c r) h⟩

end Program

/-! ## Actions -/

namespace Action

open Relations (Behaviour Exchange)

variable {α β ρ : Type} {b : Behaviour ρ} {w v : Store × ρ} {log : List Exchange}

/-- A run of an action, whose outcome is a value or a fault unless it was stopped. -/
def Runs (b : Behaviour ρ) (a : Action α) (w : Store × ρ) (log : List Exchange) (outcome : Option (Except Fault α))
    (v : Store × ρ) : Prop := Program.Runs b a.run w log outcome v

lemma runs_pure_iff {a : α} {outcome : Option (Except Fault α)} :
    Runs b (pure a) w log outcome v ↔ log = [] ∧ outcome = some (.ok a) ∧ v = w := Program.runs_done_iff

lemma runs_ofExcept_iff {r : Except Fault α} {outcome : Option (Except Fault α)} :
    Runs b (ofExcept r) w log outcome v ↔ log = [] ∧ outcome = some r ∧ v = w := Program.runs_done_iff

/-- **Two actions one after another** are stopped in the first one, end with its fault, or go on with its value. -/
theorem runs_bind_iff {a : Action α} {f : α → Action β} {outcome : Option (Except Fault β)} :
    Runs b (a >>= f) w log outcome v ↔
      (outcome = none ∧ Runs b a w log none v) ∨
      (∃ fault, outcome = some (.error fault) ∧ Runs b a w log (some (.error fault)) v) ∨
      ∃ x u log₁ log₂, log = log₁ ++ log₂ ∧ Runs b a w log₁ (some (.ok x)) u ∧ Runs b (f x) u log₂ outcome v := by
  unfold Runs
  rw [ExceptT.run_bind, Program.runs_bind_iff]
  refine or_congr_right ⟨?_, ?_⟩
  · rintro ⟨r, u, log₁, log₂, rfl, ha, hf⟩
    cases r with
    | error fault =>
      obtain ⟨rfl, rfl, rfl⟩ := Program.runs_done_iff.1 hf
      exact .inl ⟨fault, rfl, by rwa [List.append_nil]⟩
    | ok x => exact .inr ⟨x, u, log₁, log₂, rfl, ha, hf⟩
  · rintro (⟨fault, rfl, ha⟩ | ⟨x, u, log₁, log₂, rfl, ha, hf⟩)
    · exact ⟨.error fault, v, log, [], (List.append_nil _).symm, ha, .done _ _⟩
    · exact ⟨.ok x, u, log₁, log₂, rfl, ha, hf⟩

lemma runs_store_iff {c : Store.Call} {s : Store} {p : ρ} {outcome : Option c.Reply} :
    Runs b (store c) (s, p) log outcome v ↔
      log = [] ∧ (outcome = none ∧ v = (s, p) ∨ outcome = some (s.serve c).1 ∧ v = ((s.serve c).2, p)) := by
  constructor
  · rintro (_ | _ | h)
    · exact ⟨rfl, .inl ⟨rfl, rfl⟩⟩
    · obtain ⟨rfl, rfl, rfl⟩ := Program.runs_done_iff.1 h
      exact ⟨rfl, .inr ⟨rfl, rfl⟩⟩
  · rintro ⟨rfl, ⟨rfl, rfl⟩ | ⟨rfl, rfl⟩⟩
    · exact .stopped _ _ _
    · exact .store (.done _ _)

/-- What starts with a request to the relationship service is stopped in front of it, or goes on with a reply that
the behaviour allows. -/
lemma runs_relations_bind_iff {c : Relations.Call} {f : Relations.Reply → Action α} {s : Store} {p : ρ}
    {outcome : Option (Except Fault α)} :
    Runs b (relations c >>= f) (s, p) log outcome v ↔
      log = [] ∧ outcome = none ∧ v = (s, p) ∨
      ∃ reply q log', b c p reply q ∧ log = (c, reply) :: log' ∧ Runs b (f reply) (s, q) log' outcome v := by
  constructor
  · rintro (_ | _ | _ | ⟨hc, h⟩)
    · exact .inl ⟨rfl, rfl, rfl⟩
    · exact .inr ⟨_, _, _, hc, rfl, h⟩
  · rintro (⟨rfl, rfl, rfl⟩ | ⟨reply, q, log', hc, rfl, h⟩)
    · exact .stopped _ _ _
    · exact .relations hc h

lemma Runs.account {id : Int} {s : Store} {p : ρ} {outcome : Option (Except Fault Account)}
    (h : Runs b (account id) (s, p) log outcome v) :
    log = [] ∧ v = (s, p) ∧ (outcome = none ∨ outcome = some (.error .accountNotFound) ∧ s.account? id = none ∨
      ∃ a, outcome = some (.ok a) ∧ s.account? id = some a) := by
  rcases h with _ | _ | h
  · exact ⟨rfl, rfl, .inl rfl⟩
  · simp only [Store.serve] at h
    cases ha : s.account? id with
    | none =>
      rw [ha] at h
      obtain ⟨rfl, rfl, rfl⟩ := Program.runs_done_iff.1 h
      exact ⟨rfl, rfl, .inr (.inl ⟨rfl, rfl⟩)⟩
    | some a =>
      rw [ha] at h
      obtain ⟨rfl, rfl, rfl⟩ := Program.runs_done_iff.1 h
      exact ⟨rfl, rfl, .inr (.inr ⟨a, rfl, rfl⟩)⟩

end Action

end Gatehouse
