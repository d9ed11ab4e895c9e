import Gatehouse.Proofs.Program.Interleaving

/-!
# Many runs on one store

* `Program.Reaches` — how far a program has come on a store that it shares with others, with the log of what happened;
* `Pool` — programs that run on one store, each as far as it has come, and `Pool.Steps`, where they go on in any order,
  with calls of others and any replies of the relationship service in between;
* `Pool.steps_iff_replay` — a log says how far each program has come, so that it can be replayed;
* `Pool.Steps.reaches` — for each program of a pool this is a run of its own, in which the calls of all other programs
  are calls of somebody else.
-/

namespace Gatehouse

open Happening (Foreign)

/-! ## Runs that are not at their end -/

namespace Program

/-- A run of a program on a store that it shares with others, with the log of what happened and what is left of the
program. -/
inductive Reaches {α : Type} : Program α → Store → List Happening → Program α → Prop
  | refl (p : Program α) (s : Store) : Reaches p s [] p
  | own {c : Store.Call} {next : c.Reply → Program α} {s : Store} {log : List Happening} {q : Program α}
      (h : Reaches (next (s.serve c).1) (s.serve c).2 log q) : Reaches (.ask (.store c) next) s (.own c :: log) q
  | exchange {c : Relations.Call} {next : Relations.Reply → Program α} {s : Store} (reply : Relations.Reply)
      {log : List Happening} {q : Program α} (h : Reaches (next reply) s log q) :
      Reaches (.ask (.relations c) next) s (.exchange (c, reply) :: log) q
  | other {p : Program α} {s : Store} (c : Store.Call) {log : List Happening} {q : Program α}
      (h : Reaches p (s.serve c).2 log q) : Reaches p s (.other c :: log) q

variable {α : Type} {p q : Program α} {s : Store} {log : List Happening}

/-- A run to the end is a run that leaves nothing but a value. -/
theorem interleaved_iff_reaches {a : α} : Interleaved p s log a ↔ Reaches p s log (.done a) := by
  constructor
  · intro h
    induction h with
    | done a s => exact .refl _ s
    | own h ih => exact .own ih
    | exchange reply h ih => exact .exchange reply ih
    | other c h ih => exact .other c ih
  · intro h
    generalize hq : Program.done a = q at h
    induction h with
    | refl p s =>
      subst hq
      exact .done a s
    | own h ih => exact .own (ih hq)
    | exchange reply h ih => exact .exchange reply (ih hq)
    | other c h ih => exact .other c (ih hq)

lemma Reaches.of_done {a : α} (h : Reaches (.done a) s log q) : Foreign log ∧ q = .done a := by
  generalize hp : Program.done a = p at h
  induction h with
  | refl p s =>
    subst hp
    exact ⟨by simp [Foreign], rfl⟩
  | own h ih => cases hp
  | exchange reply h ih => cases hp
  | other c h ih =>
    obtain ⟨hforeign, hq⟩ := ih hp
    exact ⟨List.forall_mem_cons.2 ⟨⟨c, rfl⟩, hforeign⟩, hq⟩

theorem Reaches.of_ask_store {c : Store.Call} {next : c.Reply → Program α}
    (h : Reaches (.ask (.store c) next) s log q) :
    (Foreign log ∧ q = .ask (.store c) next) ∨
      ∃ front rest, log = front ++ .own c :: rest ∧ Foreign front ∧
        Reaches (next ((s.behind front).serve c).1) ((s.behind front).serve c).2 rest q := by
  induction log generalizing s with
  | nil =>
    cases h
    exact .inl ⟨by simp [Foreign], rfl⟩
  | cons x log ih =>
    cases h with
    | own h => exact .inr ⟨[], log, rfl, by simp [Foreign], h⟩
    | other d h =>
      rcases ih h with ⟨hforeign, hq⟩ | ⟨front, rest, rfl, hforeign, hrest⟩
      · exact .inl ⟨List.forall_mem_cons.2 ⟨⟨d, rfl⟩, hforeign⟩, hq⟩
      · exact .inr ⟨.other d :: front, rest, rfl, List.forall_mem_cons.2 ⟨⟨d, rfl⟩, hforeign⟩, hrest⟩

end Program

namespace Action

open Program (Reaches)

variable {α : Type} {s : Store} {log : List Happening}

/-- **An action that looks up an account first** waits in front of that, finds no account, or goes on with the account
that others have left there. -/
theorem reaches_account_bind {id : Int} {f : Account → Action α} {q : Program (Except Fault α)}
    (h : Reaches (account id >>= f).run s log q) :
    (Foreign log ∧ q = (account id >>= f).run) ∨
      ∃ before rest, log = before ++ .own (.findById id) :: rest ∧ Foreign before ∧
        ((s.behind before).account? id = none ∧ Foreign rest ∧ q = .done (.error .accountNotFound) ∨
          ∃ a, (s.behind before).account? id = some a ∧ Reaches (f a).run (s.behind before) rest q) := by
  rw [run_account_bind] at h ⊢
  refine h.of_ask_store.imp_right ?_
  rintro ⟨before, rest, rfl, hbefore, hrest⟩
  refine ⟨before, rest, rfl, hbefore, ?_⟩
  simp only [Store.serve] at hrest
  cases ha : (s.behind before).account? id with
  | none =>
    rw [ha] at hrest
    exact .inl ⟨rfl, hrest.of_done⟩
  | some a =>
    rw [ha] at hrest
    exact .inr ⟨a, rfl, hrest⟩

end Action

/-! ## Pools -/

/-- What happens while several programs run on one store. -/
inductive Turn (ι : Type)
  /-- The store serves a call of one of the programs. -/
  | call (i : ι) (c : Store.Call)
  /-- One of the programs asks something of the relationship service and has the reply. -/
  | exchange (i : ι) (e : Relations.Exchange)
  /-- The store serves a call of somebody else. -/
  | other (c : Store.Call)
  deriving DecidableEq

namespace Turn

variable {ι : Type}

/-- The call that the store serves, if it serves one. -/
def call? : Turn ι → Option Store.Call
  | call _ c | other c => some c
  | exchange .. => none

variable [DecidableEq ι]

/-- What one of the programs sees of a turn: the calls of all others are alike, and their requests to the relationship
service go unnoticed. -/
def seenBy (i : ι) : Turn ι → Option Happening
  | call j c => some (if j = i then .own c else .other c)
  | exchange j e => if j = i then some (.exchange e) else none
  | other c => some (.other c)

/-- What one of the programs sees of a log. -/
def view (i : ι) (log : List (Turn ι)) : List Happening := log.filterMap (seenBy i)

variable {i : ι} {c : Store.Call} {log : List (Turn ι)}

lemma view_append (i : ι) (front rest : List (Turn ι)) : view i (front ++ rest) = view i front ++ view i rest :=
  List.filterMap_append

@[simp] lemma view_call_self (i : ι) (c : Store.Call) (log : List (Turn ι)) :
    view i (call i c :: log) = .own c :: view i log := by
  simp [view, seenBy]

lemma seenBy_eq_own_iff {t : Turn ι} : seenBy i t = some (.own c) ↔ t = call i c := by
  cases t with
  | call j d => by_cases hj : j = i <;> simp [seenBy, hj]
  | exchange j e => by_cases hj : j = i <;> simp [seenBy, hj]
  | other d => simp [seenBy]

lemma exists_call_of_view {front rest : List Happening} (h : view i log = front ++ .own c :: rest) :
    ∃ f r, log = f ++ call i c :: r ∧ view i f = front ∧ view i r = rest := by
  obtain ⟨f, g, rfl, hfront, hg⟩ := List.filterMap_eq_append_iff.1 h
  obtain ⟨skipped, t, r, rfl, hskipped, ht, hrest⟩ := List.filterMap_eq_cons_iff.1 hg
  cases seenBy_eq_own_iff.1 ht
  refine ⟨f ++ skipped, r, by simp, ?_, hrest⟩
  have hnone : view i skipped = [] := List.filterMap_eq_nil_iff.2 hskipped
  rw [view_append, hnone, List.append_nil]
  exact hfront

lemma foreign_view_append {front rest : List (Turn ι)} :
    Foreign (view i (front ++ rest)) ↔ Foreign (view i front) ∧ Foreign (view i rest) := by
  rw [view_append]
  exact List.forall_mem_append

lemma call_not_mem_of_foreign (h : Foreign (view i log)) (c : Store.Call) : call i c ∉ log := by
  intro hc
  obtain ⟨d, hd⟩ := h _ (List.mem_filterMap.2 ⟨_, hc, seenBy_eq_own_iff.2 rfl⟩)
  cases hd

lemma eq_nil_of_foreign (h : ∀ i, Foreign (view i log)) (hothers : ∀ c, other c ∉ log) : log = [] := by
  cases log with
  | nil => rfl
  | cons t log =>
    cases t with
    | call i c => exact absurd List.mem_cons_self (call_not_mem_of_foreign (h i) c)
    | exchange i e =>
      have hseen : seenBy i (exchange i e) = some (.exchange e) := by simp [seenBy]
      obtain ⟨d, hd⟩ := h i _ (List.mem_filterMap.2 ⟨_, List.mem_cons_self, hseen⟩)
      cases hd
    | other c => exact absurd List.mem_cons_self (hothers c)

end Turn

namespace Store

variable {ι : Type} {s : Store}

def through (s : Store) (log : List (Turn ι)) : Store := s.serveAll (log.filterMap Turn.call?)

@[simp] lemma through_nil (s : Store) : s.through ([] : List (Turn ι)) = s := rfl

@[simp] lemma through_call (s : Store) (i : ι) (c : Call) (log : List (Turn ι)) :
    s.through (.call i c :: log) = (s.serve c).2.through log := rfl

@[simp] lemma through_exchange (s : Store) (i : ι) (e : Relations.Exchange) (log : List (Turn ι)) :
    s.through (.exchange i e :: log) = s.through log := rfl

@[simp] lemma through_other (s : Store) (c : Call) (log : List (Turn ι)) :
    s.through (.other c :: log) = (s.serve c).2.through log := rfl

lemma through_append (s : Store) (front log : List (Turn ι)) :
    s.through (front ++ log) = (s.through front).through log := by
  unfold through serveAll
  rw [List.filterMap_append, List.foldl_append]

/-- Every program of a pool sees the same store. -/
lemma behind_view [DecidableEq ι] (i : ι) (log : List (Turn ι)) (s : Store) :
    s.behind (Turn.view i log) = s.through log := by
  unfold behind through Turn.view
  rw [List.filterMap_filterMap]
  congr 2
  funext t
  cases t with
  | call j c => by_cases hj : j = i <;> simp [Turn.seenBy, Turn.call?, Happening.call?, hj]
  | exchange j e => by_cases hj : j = i <;> simp [Turn.seenBy, Turn.call?, Happening.call?, hj]
  | other c => rfl

lemma WellFormed.through (h : s.WellFormed) (log : List (Turn ι)) : (s.through log).WellFormed := h.serveAll _

end Store

/-- Programs that run on one store, each as far as it has come. -/
structure Pool (ι α : Type) where
  store : Store
  runs : ι → Program α

namespace Pool

variable {ι α : Type} [DecidableEq ι]

/-- The pool when one of its programs has come further, and the store as it is then. -/
def advance (P : Pool ι α) (i : ι) (p : Program α) (s : Store) : Pool ι α :=
  ⟨s, fun j => if j = i then p else P.runs j⟩

@[simp] lemma advance_store (P : Pool ι α) (i : ι) (p : Program α) (s : Store) : (P.advance i p s).store = s := rfl

@[simp] lemma advance_runs_self (P : Pool ι α) (i : ι) (p : Program α) (s : Store) : (P.advance i p s).runs i = p := by
  simp [advance]

lemma advance_runs_of_ne {i j : ι} (h : j ≠ i) (P : Pool ι α) (p : Program α) (s : Store) :
    (P.advance i p s).runs j = P.runs j := by
  simp [advance, h]

/-- The programs of a pool go on, in any order and as far as they like. Others may make calls on the store at any time,
and the relationship service may give any replies. -/
inductive Steps : Pool ι α → List (Turn ι) → Pool ι α → Prop
  | refl (P : Pool ι α) : Steps P [] P
  | call {P Q : Pool ι α} {i : ι} {c : Store.Call} {next : c.Reply → Program α} {log : List (Turn ι)}
      (hi : P.runs i = .ask (.store c) next)
      (h : Steps (P.advance i (next (P.store.serve c).1) (P.store.serve c).2) log Q) : Steps P (.call i c :: log) Q
  | exchange {P Q : Pool ι α} {i : ι} {c : Relations.Call} {next : Relations.Reply → Program α} {log : List (Turn ι)}
      (hi : P.runs i = .ask (.relations c) next) (reply : Relations.Reply)
      (h : Steps (P.advance i (next reply) P.store) log Q) : Steps P (.exchange i (c, reply) :: log) Q
  | other {P Q : Pool ι α} (c : Store.Call) {log : List (Turn ι)} (h : Steps ⟨(P.store.serve c).2, P.runs⟩ log Q) :
      Steps P (.other c :: log) Q

variable {P Q : Pool ι α} {log front rest : List (Turn ι)}

lemma Steps.store_eq (h : Steps P log Q) : Q.store = P.store.through log := by
  induction h with
  | refl P => rfl
  | call hi h ih => exact ih
  | exchange hi reply h ih => exact ih
  | other c h ih => exact ih

/-- **A program of a pool** runs on a store that it shares with all others. -/
theorem Steps.reaches (h : Steps P log Q) (i : ι) :
    Program.Reaches (P.runs i) P.store (Turn.view i log) (Q.runs i) := by
  induction h with
  | refl P => exact .refl _ _
  | @call P Q j c next log hj h ih =>
    by_cases hij : j = i
    · subst hij
      rw [advance_runs_self] at ih
      rw [hj, Turn.view_call_self]
      exact .own ih
    · rw [advance_runs_of_ne (Ne.symm hij)] at ih
      simpa [Turn.view, Turn.seenBy, hij] using Program.Reaches.other c ih
  | @exchange P Q j c next log hj reply h ih =>
    by_cases hij : j = i
    · subst hij
      rw [advance_runs_self] at ih
      rw [hj]
      simpa [Turn.view, Turn.seenBy] using Program.Reaches.exchange reply ih
    · rw [advance_runs_of_ne (Ne.symm hij)] at ih
      simpa [Turn.view, Turn.seenBy, hij] using ih
  | other c h ih => exact .other c ih

lemma Steps.runs_of_done {i : ι} {a : α} (h : Steps P log Q) (hi : P.runs i = .done a) : Q.runs i = .done a := by
  have hreaches := h.reaches i
  rw [hi] at hreaches
  exact hreaches.of_done.2

/-- A log is cut where the pool may be looked at. -/
lemma Steps.cut (h : Steps P (front ++ rest) Q) : ∃ R, Steps P front R ∧ Steps R rest Q := by
  induction front generalizing P with
  | nil => exact ⟨P, .refl P, h⟩
  | cons t front ih =>
    cases h with
    | call hi h =>
      obtain ⟨R, hfront, hrest⟩ := ih h
      exact ⟨R, .call hi hfront, hrest⟩
    | exchange hi reply h =>
      obtain ⟨R, hfront, hrest⟩ := ih h
      exact ⟨R, .exchange hi reply hfront, hrest⟩
    | other c h =>
      obtain ⟨R, hfront, hrest⟩ := ih h
      exact ⟨R, .other c hfront, hrest⟩

/-! ### Replaying a log -/

/-- The pool behind a log, if its programs ask for what the log says. -/
def replay : Pool ι α → List (Turn ι) → Option (Pool ι α)
  | P, [] => some P
  | P, .call i c :: log =>
    match P.runs i with
    | .ask (.store d) next =>
      if d = c then (P.advance i (next (P.store.serve d).1) (P.store.serve d).2).replay log else none
    | _ => none
  | P, .exchange i (c, reply) :: log =>
    match P.runs i with
    | .ask (.relations d) next => if d = c then (P.advance i (next reply) P.store).replay log else none
    | _ => none
  | P, .other c :: log => replay ⟨(P.store.serve c).2, P.runs⟩ log

/-- **A log says how far each program of a pool has come.** -/
theorem steps_iff_replay : Steps P log Q ↔ P.replay log = some Q := by
  constructor
  · intro h
    induction h with
    | refl P => rfl
    | call hi h ih => simpa only [replay, hi, if_true] using ih
    | exchange hi reply h ih => simpa only [replay, hi, if_true] using ih
    | other c h ih => exact ih
  · intro h
    induction log generalizing P with
    | nil =>
      cases h
      exact .refl _
    | cons t log ih =>
      cases t with
      | call i c =>
        simp only [replay] at h
        split at h
        · next d next hi =>
          split at h
          · next hc =>
            subst hc
            exact .call hi (ih h)
          · cases h
        · cases h
      | exchange i e =>
        simp only [replay] at h
        split at h
        · next d next hi =>
          split at h
          · next hc =>
            subst hc
            exact .exchange hi _ (ih h)
          · cases h
        · cases h
      | other c => exact .other c (ih h)

end Pool

end Gatehouse
