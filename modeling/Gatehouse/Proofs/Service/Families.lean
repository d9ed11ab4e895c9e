import Gatehouse.Proofs.Program.Keeps
import Gatehouse.Proofs.Service.Operation
import Gatehouse.Proofs.Store.Frame

/-!
# Families of an account behind a run

Families are linked to accounts and unlinked again, among anything else that happens in a run.

* `LinkChange`, `standing` — the changes of the links of one account, and the families whose last change is a link, in
  the order of these links; `standing_append` says what one more change does to them;
* `Store.Links` — every account is linked to the families that stand by a log of changes; a call that changes no link
  keeps this, and one that does keeps it for the log with the change added;
* `Trace.linkChanges` — the changes that a run has made, by which every operation keeps the links;
* `families_behind_run` — so that the changes decide what the next link or unlinking of an account comes to.
-/

namespace Gatehouse

open Program (inMemory)

/-! ## Changes of links -/

/-- A change of the links of an account. -/
inductive LinkChange
  | linked (familyId : Int)
  | unlinked (familyId : Int)
  deriving DecidableEq

namespace LinkChange

def familyId : LinkChange → Int
  | linked f => f
  | unlinked f => f

/-- The last change about a family is a link. The changes are in the order of time. -/
def LastLinks (changes : List LinkChange) (f : Int) : Prop :=
  ∃ front behind, changes = front ++ .linked f :: behind ∧ ∀ c ∈ behind, c.familyId ≠ f

/-- The families whose last change is a link, in the order of these links. The changes are in the order of time. -/
def standing : List LinkChange → List Int
  | [] => []
  | .linked f :: later => if ∃ c ∈ later, c.familyId = f then standing later else f :: standing later
  | .unlinked _ :: later => standing later

/-- What a change adds to the families that stand. -/
def added : LinkChange → List Int
  | linked f => [f]
  | unlinked _ => []

variable {changes later : List LinkChange} {c : LinkChange} {f : Int}

lemma lastLinks_cons :
    LastLinks (c :: later) f ↔ LastLinks later f ∨ c = .linked f ∧ ∀ d ∈ later, d.familyId ≠ f := by
  constructor
  · rintro ⟨front, behind, he, hbehind⟩
    cases front with
    | nil =>
      cases he
      exact .inr ⟨rfl, hbehind⟩
    | cons first front =>
      cases he
      exact .inl ⟨front, behind, rfl, hbehind⟩
  · rintro (⟨front, behind, rfl, hbehind⟩ | ⟨rfl, hlater⟩)
    · exact ⟨c :: front, behind, rfl, hbehind⟩
    · exact ⟨[], later, rfl, hlater⟩

lemma mem_standing_iff : f ∈ standing changes ↔ LastLinks changes f := by
  induction changes with
  | nil => simp [standing, LastLinks]
  | cons c later ih =>
    rw [lastLinks_cons, ← ih]
    cases c with
    | unlinked g => simp [standing]
    | linked g =>
      by_cases hlater : ∃ d ∈ later, d.familyId = g
      · obtain ⟨d, hd, hg⟩ := hlater
        rw [standing, if_pos ⟨d, hd, hg⟩]
        refine ⟨.inl, ?_⟩
        rintro (hf | ⟨hc, hnone⟩)
        · exact hf
        · cases hc
          exact absurd hg (hnone d hd)
      · rw [standing, if_neg hlater, List.mem_cons]
        push Not at hlater
        constructor
        · rintro (rfl | hf)
          · exact .inr ⟨rfl, hlater⟩
          · exact .inl hf
        · rintro (hf | ⟨hc, -⟩)
          · exact .inr hf
          · cases hc
            exact .inl rfl

/-- **One more change** takes its family from where it stands, and a link puts it at the end. -/
theorem standing_append (changes : List LinkChange) (c : LinkChange) :
    standing (changes ++ [c]) = (standing changes).filter (· ≠ c.familyId) ++ c.added := by
  induction changes with
  | nil => cases c <;> simp [standing, added]
  | cons d later ih =>
    cases d with
    | unlinked g => exact ih
    | linked g =>
      simp only [List.cons_append, standing, ih]
      by_cases hlater : ∃ e ∈ later, e.familyId = g
      · obtain ⟨e, he, hg⟩ := hlater
        rw [if_pos ⟨e, List.mem_append_left _ he, hg⟩, if_pos ⟨e, he, hg⟩]
      · rw [if_neg hlater]
        by_cases hc : c.familyId = g
        · rw [if_pos ⟨c, List.mem_append_right _ List.mem_cons_self, hc⟩, List.filter_cons_of_neg (by simp [hc])]
        · rw [if_neg ?_, List.filter_cons_of_pos (by simpa using Ne.symm hc), List.cons_append]
          rintro ⟨e, he, hg⟩
          rcases List.mem_append.1 he with he | he
          · exact hlater ⟨e, he, hg⟩
          · cases List.mem_singleton.1 he
            exact hc hg

lemma standing_linked (h : f ∉ standing changes) : standing (changes ++ [.linked f]) = standing changes ++ [f] := by
  rw [standing_append, added, List.filter_eq_self.2]
  intro g hg
  exact decide_eq_true fun he : g = f => h (he ▸ hg)

lemma standing_unlinked (h : (standing changes).Nodup) :
    standing (changes ++ [.unlinked f]) = (standing changes).erase f := by
  rw [standing_append, added, List.append_nil, h.erase_eq_filter]
  exact List.filter_congr fun g _ => decide_not.trans (congrArg not (decide_eq_decide.2 Iff.rfl))

end LinkChange

open LinkChange (standing LastLinks)

/-! ## One call -/

namespace Store

/-- What a call that succeeds changes in the links of the account of `id`. -/
def Call.linkChange? (id : Int) : Call → Option LinkChange
  | .linkFamily i f => if i = id then some (.linked f) else none
  | .unlinkFamily i f => if i = id then some (.unlinked f) else none
  | _ => none

/-- Every account is linked to the families that stand by a log of changes of links, in which nothing is about an id
that was not given out. -/
structure Links (log : Int → List LinkChange) (s : Store) : Prop where
  wellFormed : s.WellFormed
  standing : ∀ id a, s.account? id = some a → a.familyIds = standing (log id)
  id_le : ∀ id, log id ≠ [] → id ≤ s.lastId

variable {s : Store} {log : Int → List LinkChange} {id : Int} {a b : Account}

lemma Call.Revises.familyIds_eq {c : Call} {changes : List LinkChange} (h : c.Revises s id a b)
    (ha : a.familyIds = LinkChange.standing changes) (hnodup : a.familyIds.Nodup) :
    b.familyIds = LinkChange.standing (changes ++ (c.linkChange? id).toList) := by
  cases c with
  | linkFamily i f =>
    obtain ⟨rfl, hf, rfl⟩ := h
    rw [ha] at hf
    simp only [Call.linkChange?, if_true, Option.toList, LinkChange.standing_linked hf, ha]
  | unlinkFamily i f =>
    obtain ⟨rfl, -, rfl⟩ := h
    rw [ha] at hnodup
    simp only [Call.linkChange?, if_true, Option.toList, LinkChange.standing_unlinked hnodup, ha]
  | setProfile i profile => obtain ⟨-, -, rfl⟩ := h; simpa [Call.linkChange?] using ha
  | setPasswordHash i hash => obtain ⟨-, rfl⟩ := h; simpa [Call.linkChange?] using ha
  | setRole i role => obtain ⟨-, rfl⟩ := h; simpa [Call.linkChange?] using ha
  | _ => exact h.elim

lemma Call.Revises.linkChange?_of_ne {c : Call} {j : Int} (h : c.Revises s id a b) (hj : j ≠ id) :
    c.linkChange? j = none := by
  cases c with
  | linkFamily i f => exact if_neg fun he : i = j => hj (he.symm.trans h.1)
  | unlinkFamily i f => exact if_neg fun he : i = j => hj (he.symm.trans h.1)
  | _ => rfl

namespace Links

variable (h : s.Links log)
include h

lemma put {c : Call} (ha : s.account? id = some a) (hr : c.Revises s id a b) :
    (s.put id b).Links fun i => log i ++ (c.linkChange? i).toList := by
  have hnodup : a.familyIds.Nodup := h.wellFormed.nodup_families _ (mem_of_account? ha)
  refine ⟨h.wellFormed.put ha hr.id_eq hr.email (hr.nodup_families hnodup), fun j x hx => ?_, fun j hj => ?_⟩
  · by_cases hid : j = id
    · subst hid
      rw [account?_put_self ha] at hx
      cases hx
      exact hr.familyIds_eq (h.standing j a ha) hnodup
    · rw [account?_put_of_ne hid] at hx
      rw [hr.linkChange?_of_ne hid, Option.toList_none, List.append_nil]
      exact h.standing j x hx
  · by_cases hid : j = id
    · subst hid
      exact h.wellFormed.id_le _ (mem_of_account? ha)
    · rw [hr.linkChange?_of_ne hid, Option.toList_none, List.append_nil] at hj
      exact h.id_le j hj

lemma serve {c : Call} (hc : ∀ i, c.linkChange? i = none) : (s.serve c).2.Links log := by
  rcases serve_cases s c with hs | ⟨n, -, hn, hs⟩ | ⟨id, a, b, ha, hr, hs⟩ | ⟨id, a, -, -, hs⟩ <;> rw [hs]
  · exact h
  · have hlast : (s.lastId : Int) ≤ (s.add n).2.lastId := Int.ofNat_le.2 (Nat.le_succ _)
    refine ⟨h.wellFormed.add hn, fun j x hx => ?_, fun j hj => Int.le_trans (h.id_le j hj) hlast⟩
    rw [account?_add] at hx
    cases hold : s.account? j with
    | some a =>
      rw [hold] at hx
      cases hx
      exact h.standing j _ hold
    | none =>
      rw [hold, Option.none_or] at hx
      split at hx
      · next hnew =>
        -- the id of a new account was not given out, so that no change can be about it
        have hlog : log j = [] := by_contra fun hne => by have := h.id_le j hne; omega
        cases hx
        rw [hlog]
        rfl
      · cases hx
  · simpa only [hc, Option.toList_none, List.append_nil] using h.put ha hr
  · refine ⟨h.wellFormed.erase id, fun j x hx => ?_, h.id_le⟩
    rw [account?_erase] at hx
    split at hx
    · cases hx
    · exact h.standing j x hx

/-- A change that takes effect is added to the log, where it is the effect of a call. -/
lemma change {c : Call} {g : Account → Except Fault Account} (hg : ∀ a b, g a = .ok b → c.Revises s id a b)
    (hok : (s.change id g).1 = .ok ()) : (s.change id g).2.Links fun i => log i ++ (c.linkChange? i).toList := by
  rcases change_cases s id g with ⟨-, hs⟩ | ⟨a, fault, -, -, hs⟩ | ⟨a, b, ha, hb, hs⟩ <;> rw [hs] at hok ⊢
  · cases hok
  · cases hok
  · exact h.put ha (hg a b hb)

/-- What a link comes to is decided by the last change about the family. -/
lemma serve_linkFamily_reply (ha : s.account? id = some a) (f : Int) :
    (LastLinks (log id) f → (s.serve (.linkFamily id f)).1 = .error .alreadyLinked) ∧
    (¬LastLinks (log id) f → (s.serve (.linkFamily id f)).1 = .ok ()) := by
  rw [← LinkChange.mem_standing_iff, ← h.standing id a ha]
  refine ⟨fun hf => ?_, fun hf => serve_linkFamily_eq_ok ha hf⟩
  simp only [Store.serve, Store.change, ha, Store.linked, List.contains_iff_mem.2 hf, if_true]

lemma serve_unlinkFamily_reply (ha : s.account? id = some a) (f : Int) :
    (LastLinks (log id) f → (s.serve (.unlinkFamily id f)).1 = .ok ()) ∧
    (¬LastLinks (log id) f → (s.serve (.unlinkFamily id f)).1 = .error .notLinked) := by
  rw [← LinkChange.mem_standing_iff, ← h.standing id a ha]
  refine ⟨fun hf => ?_, fun hf => ?_⟩
  · simp only [Store.serve, Store.change, ha, Store.unlinked, List.contains_iff_mem.2 hf, if_true]
  · simp only [Store.serve, Store.change, ha, Store.unlinked, List.contains_iff_mem, hf, if_false]

end Links

lemma links_empty : empty.Links fun _ => [] :=
  ⟨wellFormed_empty, nofun, fun _ h => absurd rfl h⟩

end Store

/-! ## A run -/

/-- What an event changed in the links of the account of `id`. -/
def Event.linkChange? (id : Int) : Event → Option LinkChange
  | ⟨.addFamilyLink i f, _, .ok _⟩ => if i = id then some (.linked f) else none
  | ⟨.removeFamilyLink i f, _, .ok _⟩ => if i = id then some (.unlinked f) else none
  | _ => none

def Operation.ChangesNoLink : Operation → Prop
  | addFamilyLink .. | removeFamilyLink .. => False
  | _ => True

lemma Operation.May.linkChange?_eq_none {o : Operation} {c : Store.Call} (hc : o.May (.store c))
    (ho : o.ChangesNoLink) (id : Int) : c.linkChange? id = none := by
  cases o <;> cases c <;> first | rfl | exact ho.elim | exact hc.elim

lemma Event.linkChange?_of_changesNoLink {o : Operation} (ho : o.ChangesNoLink) (s : Store)
    (outcome : Except Fault o.Answer) (id : Int) : Event.linkChange? id ⟨o, s, outcome⟩ = none := by
  cases o <;> first | rfl | exact ho.elim

namespace Trace

variable {ρ : Type} {scheme : Password.Scheme} {authority : Token.Authority} {client : Relations.Client ρ} {t : Trace ρ}

/-- The changes that a run has made in the links of the account of `id`, in the order of time. -/
def linkChanges (t : Trace ρ) (id : Int) : List LinkChange := t.history.reverse.filterMap (·.linkChange? id)

lemma linkChanges_perform (o : Operation) :
    (t.perform scheme authority client o).linkChanges =
      fun id => t.linkChanges id ++ ((t.event scheme authority client o).linkChange? id).toList := by
  funext id
  show ((t.event scheme authority client o :: t.history).reverse).filterMap _ = _
  rw [List.reverse_cons, List.filterMap_append]
  refine congrArg (t.linkChanges id ++ ·) ?_
  cases he : (t.event scheme authority client o).linkChange? id with
  | none => rw [List.filterMap_cons_none he]; rfl
  | some c => rw [List.filterMap_cons_some he]; rfl

/-- **Every operation keeps the links** by the changes that the run has made. -/
theorem links_perform (h : t.store.Links t.linkChanges) (o : Operation) :
    (t.perform scheme authority client o).store.Links (t.perform scheme authority client o).linkChanges := by
  rw [linkChanges_perform]
  have hother : o.ChangesNoLink → (t.perform scheme authority client o).store.Links fun id =>
      t.linkChanges id ++ ((t.event scheme authority client o).linkChange? id).toList := by
    intro ho
    simp only [event, Event.linkChange?_of_changesNoLink ho, Option.toList_none, List.append_nil]
    have hmakes : (o.action scheme authority).Makes o.May := o.makes
    exact Program.run_keeps (hmakes.keeps fun c hc s hs => hs.serve (hc.linkChange?_eq_none ho)) client h t.peer
  cases o with
  | addFamilyLink id f =>
    have hrun : ((Operation.addFamilyLink id f).action scheme authority).runWith (inMemory client) (t.store, t.peer) =
        ((t.store.serve (.linkFamily id f)).1, ((t.store.serve (.linkFamily id f)).2, t.peer)) := rfl
    rw [store_perform hrun, event_eq hrun]
    cases hreply : (t.store.serve (.linkFamily id f)).1 with
    | error fault =>
      rw [Store.serve_eq_error hreply]
      simpa only [Event.linkChange?, Option.toList_none, List.append_nil] using h
    | ok _ => exact h.change (c := .linkFamily id f) (fun a b hb => ⟨rfl, Store.linked_eq_ok_iff.1 hb⟩) hreply
  | removeFamilyLink id f =>
    have hrun : ((Operation.removeFamilyLink id f).action scheme authority).runWith (inMemory client)
        (t.store, t.peer) =
        ((t.store.serve (.unlinkFamily id f)).1, ((t.store.serve (.unlinkFamily id f)).2, t.peer)) := rfl
    rw [store_perform hrun, event_eq hrun]
    cases hreply : (t.store.serve (.unlinkFamily id f)).1 with
    | error fault =>
      rw [Store.serve_eq_error hreply]
      simpa only [Event.linkChange?, Option.toList_none, List.append_nil] using h
    | ok _ => exact h.change (c := .unlinkFamily id f) (fun a b hb => ⟨rfl, Store.unlinked_eq_ok_iff.1 hb⟩) hreply
  | _ => exact hother trivial

lemma links_run (peer : ρ) (ops : List Operation) :
    (run scheme authority client peer ops).store.Links (run scheme authority client peer ops).linkChanges :=
  run_induction (I := fun t => t.store.Links t.linkChanges) Store.links_empty (fun _ o h => links_perform h o) ops

end Trace

/-- **Families behind any run of operations on the empty store.** An account that exists is linked to the families
whose last change in the run is a link, in the order of these links. It is linked to one more unless the last change
about this family is a link, and unlinked from one only if it is; so says the answer. A link or an unlinking that
fails, of whatever account, leaves everything as it was. -/
theorem families_behind_run {ρ : Type} (scheme : Password.Scheme) (authority : Token.Authority)
    (client : Relations.Client ρ) (peer : ρ) (ops : List Operation) :
    let t := Trace.run scheme authority client peer ops
    let link (id f : Int) := (Service.addFamilyLink id f).runWith (inMemory client) (t.store, t.peer)
    let unlink (id f : Int) := (Service.removeFamilyLink id f).runWith (inMemory client) (t.store, t.peer)
    (∀ id a, t.store.account? id = some a →
      a.familyIds = standing (t.linkChanges id) ∧
      ∀ f, (f ∈ a.familyIds ↔ LastLinks (t.linkChanges id) f) ∧
        ((link id f).1 = .error .alreadyLinked ↔ LastLinks (t.linkChanges id) f) ∧
        ((link id f).1 = .ok () ↔ ¬LastLinks (t.linkChanges id) f) ∧
        ((unlink id f).1 = .error .notLinked ↔ ¬LastLinks (t.linkChanges id) f) ∧
        ((unlink id f).1 = .ok () ↔ LastLinks (t.linkChanges id) f)) ∧
    ∀ id f fault,
      ((link id f).1 = .error fault → (link id f).2 = (t.store, t.peer)) ∧
      ((unlink id f).1 = .error fault → (unlink id f).2 = (t.store, t.peer)) := by
  intro t link unlink
  have h : t.store.Links t.linkChanges := Trace.links_run peer ops
  refine ⟨fun id a ha => ⟨h.standing id a ha, fun f => ?_⟩, fun id f fault => ⟨fun he => ?_, fun he => ?_⟩⟩
  · have hlink : (LastLinks (t.linkChanges id) f → (link id f).1 = .error .alreadyLinked) ∧
        (¬LastLinks (t.linkChanges id) f → (link id f).1 = .ok ()) := h.serve_linkFamily_reply ha f
    have hunlink : (LastLinks (t.linkChanges id) f → (unlink id f).1 = .ok ()) ∧
        (¬LastLinks (t.linkChanges id) f → (unlink id f).1 = .error .notLinked) := h.serve_unlinkFamily_reply ha f
    refine ⟨?_, ?_⟩
    · rw [h.standing id a ha, LinkChange.mem_standing_iff]
    · by_cases hlast : LastLinks (t.linkChanges id) f
      · simp [hlast, hlink.1 hlast, hunlink.1 hlast]
      · simp [hlast, hlink.2 hlast, hunlink.2 hlast]
  · exact Prod.ext (Store.serve_eq_error (c := .linkFamily id f) he) rfl
  · exact Prod.ext (Store.serve_eq_error (c := .unlinkFamily id f) he) rfl

/-- Removing a link keeps the order of the others, and linking the family again puts it at the end. -/
theorem families_behind_run_relinked :
    let scheme : Password.Scheme := ⟨"", ⟨fun p _ _ => some (List.replicate p.tagLength 0), by
      rintro p - - tag h
      cases h
      exact List.length_replicate⟩⟩
    let occasion : Occasion := ⟨Moment.utc 0, Vector.replicate _ 0⟩
    let registration : Registration := ⟨⟨"a@b.example", "", "", ""⟩, "secret"⟩
    let client : Relations.Client Unit := fun _ r => (.ok (), r)
    let t := Trace.run scheme ⟨[], 0⟩ client ()
      [.signUp occasion registration, .addFamilyLink 1 10, .addFamilyLink 1 20, .addFamilyLink 1 30,
        .removeFamilyLink 1 20, .removeFamilyLink 1 40, .addFamilyLink 1 20, .addFamilyLink 1 10]
    ∃ a, t.store.account? 1 = some a ∧ a.familyIds = [10, 30, 20] ∧
      ((Service.removeFamilyLink 1 20).runWith (inMemory client) (t.store, t.peer)).1 = .ok () ∧
      ((Service.removeFamilyLink 1 40).runWith (inMemory client) (t.store, t.peer)).1 = .error .notLinked := by
  intro scheme occasion registration client t
  have hfamilies : (t.store.account? 1).map (·.familyIds) = some [10, 30, 20] := by decide +kernel
  obtain ⟨a, ha, hids⟩ := Option.map_eq_some_iff.1 hfamilies
  have hrun := ((families_behind_run scheme ⟨[], 0⟩ client () _).1 1 a ha).2
  obtain ⟨hmem, -, -, -, hunlinked⟩ := hrun 20
  obtain ⟨hmem', -, -, hrefused, -⟩ := hrun 40
  have hlast : LastLinks (t.linkChanges 1) 20 := hmem.1 (by rw [hids]; decide)
  have hnot : ¬LastLinks (t.linkChanges 1) 40 := fun h => absurd (hmem'.2 h) (by rw [hids]; decide)
  exact ⟨a, ha, hids, hunlinked.2 hlast, hrefused.2 hnot⟩

end Gatehouse
