import Gatehouse.Proofs.Program.Behaviour
import Gatehouse.Proofs.Store.Frame

/-!
# Runs with calls of others in between

* `Happening` — what happens while a program runs: its own calls, its requests to the relationship service with the
  replies, and calls of others on the same store;
* `Program.Interleaved` — a run to the end of a program with the log of what happened; between any two steps the store
  may serve calls of others, and the relationship service may give any reply;
* `Program.interleaved_bind_iff` — the log of two programs one after another is cut where the first one ends.
-/

namespace Gatehouse

/-- What happens while a program runs on a store that it shares with others. -/
inductive Happening
  /-- The store serves a call of the program. -/
  | own (c : Store.Call)
  /-- The store serves a call of somebody else. -/
  | other (c : Store.Call)
  /-- The program asks something of the relationship service and has the reply. -/
  | exchange (e : Relations.Exchange)
  deriving DecidableEq

namespace Happening

/-- The call that the store serves, if it serves one. -/
def call? : Happening → Option Store.Call
  | own c | other c => some c
  | exchange _ => none

/-- The request to the relationship service with its reply, if it is one. -/
def exchange? : Happening → Option Relations.Exchange
  | exchange e => some e
  | own _ | other _ => none

def exchanges (log : List Happening) : List Relations.Exchange := log.filterMap exchange?

/-- All that happens is done by others. -/
def Foreign (log : List Happening) : Prop := ∀ h ∈ log, ∃ c, h = other c

/-- The program makes no call on the store. -/
def Waiting (log : List Happening) : Prop := ∀ c, own c ∉ log

variable {log log' : List Happening}

lemma Foreign.waiting (h : Foreign log) : Waiting log := by
  intro c hc
  obtain ⟨d, hd⟩ := h _ hc
  cases hd

lemma Waiting.append (h : Waiting log) (h' : Waiting log') : Waiting (log ++ log') :=
  fun c hc => (List.mem_append.1 hc).elim (h c) (h' c)

@[simp] lemma exchanges_append (log log' : List Happening) :
    exchanges (log ++ log') = exchanges log ++ exchanges log' :=
  List.filterMap_append

@[simp] lemma exchanges_exchange (e : Relations.Exchange) (log : List Happening) :
    exchanges (exchange e :: log) = e :: exchanges log := rfl

lemma mem_exchanges_iff {e : Relations.Exchange} : e ∈ exchanges log ↔ exchange e ∈ log := by
  unfold exchanges
  rw [List.mem_filterMap]
  constructor
  · rintro ⟨h, hh, he⟩
    cases h with
    | exchange e' => cases he; exact hh
    | own c => cases he
    | other c => cases he
  · exact fun h => ⟨_, h, rfl⟩

lemma Foreign.exchanges_eq (h : Foreign log) : exchanges log = [] := by
  refine List.filterMap_eq_nil_iff.2 fun x hx => ?_
  obtain ⟨c, rfl⟩ := h x hx
  rfl

end Happening

def Store.behind (s : Store) (log : List Happening) : Store := s.serveAll (log.filterMap Happening.call?)

namespace Store

variable {s : Store}

@[simp] lemma behind_nil (s : Store) : s.behind [] = s := rfl

@[simp] lemma behind_own (s : Store) (c : Call) (log : List Happening) :
    s.behind (.own c :: log) = (s.serve c).2.behind log := rfl

@[simp] lemma behind_other (s : Store) (c : Call) (log : List Happening) :
    s.behind (.other c :: log) = (s.serve c).2.behind log := rfl

@[simp] lemma behind_exchange (s : Store) (e : Relations.Exchange) (log : List Happening) :
    s.behind (.exchange e :: log) = s.behind log := rfl

lemma behind_append (s : Store) (front log : List Happening) :
    s.behind (front ++ log) = (s.behind front).behind log := by
  unfold behind serveAll
  rw [List.filterMap_append, List.foldl_append]

lemma keepsIds_behind (log : List Happening) (s : Store) : s.KeepsIds (s.behind log) := keepsIds_serveAll _ s

lemma WellFormed.behind (h : s.WellFormed) (log : List Happening) : (s.behind log).WellFormed := h.serveAll _

end Store

namespace Program

open Happening (Foreign)

/-- A run of a program to its end, on a store that it shares with others, with the log of what happened. -/
inductive Interleaved {α : Type} : Program α → Store → List Happening → α → Prop
  | done (a : α) (s : Store) : Interleaved (.done a) s [] a
  | own {c : Store.Call} {next : c.Reply → Program α} {s : Store} {log : List Happening} {a : α}
      (h : Interleaved (next (s.serve c).1) (s.serve c).2 log a) :
      Interleaved (.ask (.store c) next) s (.own c :: log) a
  | exchange {c : Relations.Call} {next : Relations.Reply → Program α} {s : Store} (reply : Relations.Reply)
      {log : List Happening} {a : α} (h : Interleaved (next reply) s log a) :
      Interleaved (.ask (.relations c) next) s (.exchange (c, reply) :: log) a
  | other {p : Program α} {s : Store} (c : Store.Call) {log : List Happening} {a : α}
      (h : Interleaved p (s.serve c).2 log a) : Interleaved p s (.other c :: log) a

variable {α β : Type} {s : Store} {log : List Happening}

lemma Interleaved.of_done {a x : α} (h : Interleaved (.done a) s log x) : Foreign log ∧ x = a := by
  generalize hp : Program.done a = p at h
  induction h with
  | done b s =>
    cases hp
    exact ⟨by simp [Foreign], rfl⟩
  | own h ih => cases hp
  | exchange reply h ih => cases hp
  | other c h ih =>
    obtain ⟨hforeign, hx⟩ := ih hp
    exact ⟨List.forall_mem_cons.2 ⟨⟨c, rfl⟩, hforeign⟩, hx⟩

/-- A call of the program is served on the store that others have left. -/
lemma Interleaved.of_ask_store {c : Store.Call} {next : c.Reply → Program α} {a : α}
    (h : Interleaved (.ask (.store c) next) s log a) :
    ∃ front rest, log = front ++ .own c :: rest ∧ Foreign front ∧
      Interleaved (next ((s.behind front).serve c).1) ((s.behind front).serve c).2 rest a := by
  induction log generalizing s with
  | nil => cases h
  | cons x log ih =>
    cases h with
    | own h => exact ⟨[], log, rfl, by simp [Foreign], h⟩
    | other d h =>
      obtain ⟨front, rest, rfl, hforeign, hrest⟩ := ih h
      exact ⟨.other d :: front, rest, rfl, List.forall_mem_cons.2 ⟨⟨d, rfl⟩, hforeign⟩, hrest⟩

lemma Interleaved.of_ask_relations {c : Relations.Call} {next : Relations.Reply → Program α} {a : α}
    (h : Interleaved (.ask (.relations c) next) s log a) :
    ∃ front reply rest, log = front ++ .exchange (c, reply) :: rest ∧ Foreign front ∧
      Interleaved (next reply) (s.behind front) rest a := by
  induction log generalizing s with
  | nil => cases h
  | cons x log ih =>
    cases h with
    | exchange reply h => exact ⟨[], reply, log, rfl, by simp [Foreign], h⟩
    | other d h =>
      obtain ⟨front, reply, rest, rfl, hforeign, hrest⟩ := ih h
      exact ⟨.other d :: front, reply, rest, rfl, List.forall_mem_cons.2 ⟨⟨d, rfl⟩, hforeign⟩, hrest⟩

lemma Interleaved.bind {p : Program α} {f : α → Program β} {a : α} {b : β} {log' : List Happening}
    (h : Interleaved p s log a) (hf : Interleaved (f a) (s.behind log) log' b) :
    Interleaved (p >>= f) s (log ++ log') b := by
  induction h with
  | done a s => exact hf
  | own h ih => exact .own (ih hf)
  | exchange reply h ih => exact .exchange reply (ih hf)
  | other c h ih => exact .other c (ih hf)

/-- **The log of two programs one after another** is cut into what happened up to the end of the first one and what
happened in the second one. -/
theorem interleaved_bind_iff {p : Program α} {f : α → Program β} {b : β} :
    Interleaved (p >>= f) s log b ↔
      ∃ a log₁ log₂, log = log₁ ++ log₂ ∧ Interleaved p s log₁ a ∧ Interleaved (f a) (s.behind log₁) log₂ b := by
  constructor
  · intro h
    -- a call of somebody else leaves the program where it is, so that the induction is on the log
    induction log generalizing p s with
    | nil =>
      cases p with
      | done a => exact ⟨a, [], [], rfl, .done a s, h⟩
      | ask c next => cases h
    | cons x log ih =>
      cases p with
      | done a => exact ⟨a, [], x :: log, rfl, .done a s, h⟩
      | ask c next =>
        cases h with
        | own h =>
          obtain ⟨a, log₁, log₂, rfl, hp, hf⟩ := ih h
          exact ⟨a, _, log₂, rfl, .own hp, hf⟩
        | exchange reply h =>
          obtain ⟨a, log₁, log₂, rfl, hp, hf⟩ := ih h
          exact ⟨a, _, log₂, rfl, .exchange reply hp, hf⟩
        | other c h =>
          obtain ⟨a, log₁, log₂, rfl, hp, hf⟩ := ih (p := .ask _ next) h
          exact ⟨a, _, log₂, rfl, .other c hp, hf⟩
  · rintro ⟨a, log₁, log₂, rfl, hp, hf⟩
    exact hp.bind hf

end Program

/-! ## Actions -/

namespace Action

open Happening (Foreign)

variable {α β : Type} {s : Store} {log : List Happening}

/-- A run of an action to its end, on a store that it shares with others. -/
def Interleaved (a : Action α) (s : Store) (log : List Happening) (result : Except Fault α) : Prop :=
  Program.Interleaved a.run s log result

/-- **Two actions one after another succeed** if the first one does and the second one does on what is left. -/
theorem interleaved_bind_ok_iff {a : Action α} {f : α → Action β} {y : β} :
    Interleaved (a >>= f) s log (.ok y) ↔
      ∃ x log₁ log₂, log = log₁ ++ log₂ ∧ Interleaved a s log₁ (.ok x) ∧
        Interleaved (f x) (s.behind log₁) log₂ (.ok y) := by
  unfold Interleaved
  rw [ExceptT.run_bind, Program.interleaved_bind_iff]
  constructor
  · rintro ⟨r, log₁, log₂, rfl, ha, hf⟩
    cases r with
    | error fault => cases hf.of_done.2
    | ok x => exact ⟨x, log₁, log₂, rfl, ha, hf⟩
  · rintro ⟨x, log₁, log₂, rfl, ha, hf⟩
    exact ⟨.ok x, log₁, log₂, rfl, ha, hf⟩

lemma Interleaved.of_store {c : Store.Call} {reply : c.Reply} (h : Interleaved (store c) s log reply) :
    ∃ front rest, log = front ++ .own c :: rest ∧ Foreign front ∧ Foreign rest ∧
      reply = ((s.behind front).serve c).1 := by
  obtain ⟨front, rest, rfl, hfront, h⟩ := Program.Interleaved.of_ask_store h
  obtain ⟨hrest, hreply⟩ := h.of_done
  exact ⟨front, rest, rfl, hfront, hrest, hreply⟩

lemma Interleaved.of_relations {c : Relations.Call} {reply : Relations.Reply}
    (h : Interleaved (relations c) s log (.ok reply)) :
    ∃ front rest, log = front ++ .exchange (c, reply) :: rest ∧ Foreign front ∧ Foreign rest := by
  obtain ⟨front, r, rest, rfl, hfront, h⟩ := Program.Interleaved.of_ask_relations h
  obtain ⟨hrest, hreply⟩ := h.of_done
  cases hreply
  exact ⟨front, rest, rfl, hfront, hrest⟩

/-- The account that is found under an id is the one that others have left there. -/
lemma Interleaved.of_account {id : Int} {a : Account} (h : Interleaved (account id) s log (.ok a)) :
    ∃ front rest, log = front ++ .own (.findById id) :: rest ∧ Foreign front ∧ Foreign rest ∧
      (s.behind front).account? id = some a := by
  obtain ⟨found, log₁, log₂, rfl, hfind, hrest⟩ := interleaved_bind_ok_iff.1 h
  obtain ⟨front, rest, rfl, hfront, hrest₁, hreply⟩ := hfind.of_store
  have hfound : found = (s.behind front).account? id := Except.ok.inj hreply
  cases ha : (s.behind front).account? id with
  | none =>
    rw [hfound, ha] at hrest
    cases hrest.of_done.2
  | some b =>
    rw [hfound, ha] at hrest
    obtain ⟨hlog₂, hb⟩ := hrest.of_done
    cases hb
    have hforeign : Foreign (rest ++ log₂) := List.forall_mem_append.2 ⟨hrest₁, hlog₂⟩
    exact ⟨front, rest ++ log₂, by simp, hfront, hforeign, ha⟩

end Action

end Gatehouse
