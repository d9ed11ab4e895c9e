import Gatehouse.Relations
import Gatehouse.Store

/-!
# Programs

An operation of the service as a tree of calls: each call, on the store or on the relationship service,
waits for its reply. Whoever runs a program answers its calls one after another, so that several
programs can also be run in turns.

* `Program.run` answers all calls of a program by a handler.
* `Action` is a program that may end in a fault.
-/

namespace Gatehouse

/-- A call to something outside an operation. -/
inductive Call
  | store (c : Store.Call)
  | relations (c : Relations.Call)

abbrev Call.Reply : Call → Type
  | store c => c.Reply
  | relations _ => Relations.Reply

/-- A program that makes calls and ends with a value. -/
inductive Program (α : Type) : Type
  | done (a : α)
  | ask (c : Call) (next : c.Reply → Program α)

namespace Program

variable {α β σ : Type}

/-- Goes on with the value of a program. -/
def bind : Program α → (α → Program β) → Program β
  | done a, f => f a
  | ask c next, f => ask c fun reply => (next reply).bind f

instance : Monad Program where
  pure := done
  bind := bind

def call (c : Call) : Program c.Reply := ask c done

/-- A handler answers calls and keeps a state. -/
abbrev Handler (σ : Type) := (c : Call) → σ → c.Reply × σ

def run (handler : Handler σ) : Program α → σ → α × σ
  | done a, s => (a, s)
  | ask c next, s =>
    let (reply, s) := handler c s
    (next reply).run handler s

/-- The state after the first `count` calls of a program, or after its end if it makes fewer. -/
def runFor (handler : Handler σ) : (count : Nat) → Program α → σ → σ
  | _, done _, s => s
  | 0, ask _ _, s => s
  | count + 1, ask c next, s =>
    let (reply, s) := handler c s
    (next reply).runFor handler count s

end Program

/-- A program that ends with a value or a fault. -/
abbrev Action := ExceptT Fault Program

namespace Action

/-- A call on the store; its fault is that of the action. -/
def store (c : Store.Call) : Action c.Answer := ExceptT.mk (Program.call (.store c))

/-- A call on the relationship service, whose failure is handed on. -/
def relations (c : Relations.Call) : Action Relations.Reply :=
  ExceptT.lift (Program.call (.relations c))

/-- Ends in the fault of a result, or goes on with its value. -/
def ofExcept {α : Type} (r : Except Fault α) : Action α := ExceptT.mk (pure r)

/-- The account under an id, which has to exist. -/
def account (id : Int) : Action Account := do
  match ← store (.findById id) with
  | some a => pure a
  | none => throw .accountNotFound

end Action

/-! ### Handlers -/

/-- Answers calls by a store in memory and a client of the relationship service. -/
def Program.inMemory {ρ : Type} (client : Relations.Client ρ) : Program.Handler (Store × ρ)
  | .store c, (s, r) =>
    let (reply, s) := s.serve c
    (reply, (s, r))
  | .relations c, (s, r) =>
    let (reply, r) := client c r
    (reply, (s, r))

/-- Answers calls with a store out of reach. -/
def Program.withoutStore {ρ : Type} (client : Relations.Client ρ) : Program.Handler ρ
  | .store c, r => (Store.unreachable c, r)
  | .relations c, r => client c r

end Gatehouse
