import Gatehouse.Proofs.Program.Locality
import Gatehouse.Proofs.Service.Administrator
import Gatehouse.Proofs.Service.Overlap

/-!
# What patches do to a profile

* `Profile.get_foldl_patched` — behind a sequence of patches a field holds the last value that was given for it;
* `Store.WellFormed.heldByOther_patched` — the address that an account is to have behind a patch is held by another
  account exactly if the patch gives an address that is;
* `Service.updateProfile_of_some` — so that a change of a profile ends in one of two ways where there is an account;
* `Service.account?_updateProfiles` — changes of profiles, one after another, apply to a profile those patches of it
  that were not refused;
* `Service.updateProfile_exact` — all of this for any store that a sequence of calls leaves.
-/

namespace Gatehouse

open Program (inMemory)

/-! ## Patches -/

namespace Profile

variable {p q current patch : Profile} {f : Field}

lemma ext_get (h : ∀ f, p.get f = q.get f) : p = q := by
  obtain ⟨email, phoneNumber, name, surname⟩ := p
  have hemail : email = q.email := h .email
  have hphoneNumber : phoneNumber = q.phoneNumber := h .phoneNumber
  have hname : name = q.name := h .name
  have hsurname : surname = q.surname := h .surname
  rw [hemail, hphoneNumber, hname, hsurname]

lemma patched_of_empty (h : ∀ f, patch.get f = "") : current.patched patch = current :=
  ext_get fun f => get_patched_of_eq (h f)

lemma patched_patched (current patch : Profile) : (current.patched patch).patched patch = current.patched patch := by
  refine ext_get fun f => ?_
  by_cases hf : patch.get f = ""
  · rw [get_patched_of_eq hf]
  · rw [get_patched_of_ne hf, get_patched_of_ne hf]

/-- The last value that some patches give for a field, or another one if they give none. -/
def lastGiven (f : Field) (patches : List Profile) (original : String) : String :=
  ((patches.map fun patch => patch.get f).filter fun value => value ≠ "").getLastD original

lemma lastGiven_cons (f : Field) (patch : Profile) (patches : List Profile) (original : String) :
    lastGiven f (patch :: patches) original =
      lastGiven f patches (if patch.get f = "" then original else patch.get f) := by
  unfold lastGiven
  by_cases hf : patch.get f = ""
  · simp [hf]
  · rw [if_neg hf, List.map_cons, List.filter_cons_of_pos (by simpa using hf), List.getLastD_cons]

/-- **Behind a sequence of patches** a field holds the last value that was given for it, or the one that it had. -/
theorem get_foldl_patched (f : Field) (patches : List Profile) (current : Profile) :
    (patches.foldl patched current).get f = lastGiven f patches (current.get f) := by
  induction patches generalizing current with
  | nil => rfl
  | cons patch patches ih =>
    rw [List.foldl_cons, ih, lastGiven_cons]
    by_cases hf : patch.get f = ""
    · rw [if_pos hf, get_patched_of_eq hf]
    · rw [if_neg hf, get_patched_of_ne hf]

end Profile

/-! ## Email addresses -/

namespace Store

variable {s : Store} {id : Int} {a : Account} {email : String}

/-- Some account other than that of `id` holds an email address. -/
def HeldBesides (s : Store) (id : Int) (email : String) : Prop :=
  ∃ j b, j ≠ id ∧ s.account? j = some b ∧ b.profile.email = email

/-- **An address that comes out of a patch** is held by another account exactly if it is the patch that gives it, and
another account holds it. -/
theorem WellFormed.heldByOther_patched (hs : s.WellFormed) (ha : s.account? id = some a) (patch : Profile) :
    s.heldByOther id (a.profile.patched patch).email = true ↔ patch.email ≠ "" ∧ s.HeldBesides id patch.email := by
  by_cases hemail : patch.email = ""
  · have hkept : (a.profile.patched patch).email = a.profile.email := Profile.get_patched_of_eq (f := .email) hemail
    rw [hkept, hs.heldByOther_own ha]
    simp [hemail]
  · have hgiven : (a.profile.patched patch).email = patch.email := Profile.get_patched_of_ne (f := .email) hemail
    rw [hgiven, hs.heldByOther_eq_true_iff]
    exact ⟨fun h => ⟨hemail, h⟩, fun h => h.2⟩

end Store

/-! ## Changes of a profile -/

namespace Service

variable {ρ : Type} {s : Store} {id : Int} {a : Account} (client : Relations.Client ρ)

lemma updateProfile_of_none (hid : s.account? id = none) (patch : Profile) (r : ρ) :
    (updateProfile id patch).runWith (inMemory client) (s, r) = (.error .accountNotFound, (s, r)) :=
  Action.runWith_bind_error (Action.runWith_account_of_none hid r) _

/-- **A change of a profile that is there** is refused and leaves everything as it was, if the patch gives an address
that another account holds; otherwise it applies the patch. -/
theorem updateProfile_of_some (hs : s.WellFormed) (ha : s.account? id = some a) (patch : Profile) (r : ρ) :
    let run := (updateProfile id patch).runWith (inMemory client) (s, r)
    (patch.email ≠ "" ∧ s.HeldBesides id patch.email → run = (.error .accountExists, (s, r))) ∧
      (¬ (patch.email ≠ "" ∧ s.HeldBesides id patch.email) →
        run = (.ok (), (s.put id { a with profile := a.profile.patched patch }, r))) := by
  intro run
  have hrun : run = (Action.store (.setProfile id (a.profile.patched patch))).runWith (inMemory client) (s, r) :=
    Action.runWith_bind_ok (Action.runWith_account_of_some ha r) _
  rw [Action.runWith_store, Store.serve_setProfile_of_some ha] at hrun
  rw [← hs.heldByOther_patched ha]
  constructor
  · intro hheld
    rw [hrun, if_pos hheld]
  · intro hfree
    rw [hrun, if_neg hfree]

/-- **The three ends of a change of a profile.** -/
theorem updateProfile_cases (hs : s.WellFormed) (id : Int) (patch : Profile) (r : ρ) :
    let run := (updateProfile id patch).runWith (inMemory client) (s, r)
    (s.account? id = none ∧ run = (.error .accountNotFound, (s, r))) ∨
    (s.account? id ≠ none ∧ (patch.email ≠ "" ∧ s.HeldBesides id patch.email) ∧
      run = (.error .accountExists, (s, r))) ∨
    ∃ a, s.account? id = some a ∧ ¬ (patch.email ≠ "" ∧ s.HeldBesides id patch.email) ∧
      (s.put id { a with profile := a.profile.patched patch }).WellFormed ∧
      run = (.ok (), (s.put id { a with profile := a.profile.patched patch }, r)) := by
  intro run
  cases ha : s.account? id with
  | none => exact .inl ⟨rfl, updateProfile_of_none client ha patch r⟩
  | some a =>
    obtain ⟨hclash, happlied⟩ := updateProfile_of_some client hs ha patch r
    by_cases hheld : patch.email ≠ "" ∧ s.HeldBesides id patch.email
    · exact .inr (.inl ⟨by simp, hheld, hclash hheld⟩)
    · have hfree : s.heldByOther id (a.profile.patched patch).email = false := by
        rwa [← Bool.not_eq_true, hs.heldByOther_patched ha]
      have hfamilies : a.familyIds.Nodup := hs.nodup_families (id, a) (Store.mem_of_account? ha)
      exact .inr (.inr ⟨a, rfl, hheld, hs.put ha rfl (.inr hfree) hfamilies, happlied hheld⟩)

/-- To repeat a change of a profile comes to the same end and changes nothing more. -/
lemma updateProfile_again (hs : s.WellFormed) (id : Int) (patch : Profile) (r : ρ) :
    let run := (updateProfile id patch).runWith (inMemory client)
    run (run (s, r)).2 = run (s, r) := by
  intro run
  rcases updateProfile_cases client hs id patch r with
    ⟨-, hrun⟩ | ⟨-, -, hrun⟩ | ⟨a, ha, hheld, hu, hrun⟩
  · have hrun : run (s, r) = (.error .accountNotFound, (s, r)) := hrun
    rw [hrun, hrun]
  · have hrun : run (s, r) = (.error .accountExists, (s, r)) := hrun
    rw [hrun, hrun]
  · -- behind the change the record is there, and the patch has nothing left to do
    let b : Account := { a with profile := a.profile.patched patch }
    have hb : (s.put id b).account? id = some b := Store.account?_put_self ha
    have hstill : ¬ (patch.email ≠ "" ∧ (s.put id b).HeldBesides id patch.email) := by
      rintro ⟨hemail, j, c, hj, hc, he⟩
      rw [Store.account?_put_of_ne hj] at hc
      exact hheld ⟨hemail, j, c, hj, hc, he⟩
    have hsame : { b with profile := b.profile.patched patch } = b := by
      show { a with profile := (a.profile.patched patch).patched patch } = b
      rw [Profile.patched_patched]
    have hrun : run (s, r) = (.ok (), (s.put id b, r)) := hrun
    have hagain : run (s.put id b, r) =
        (.ok (), ((s.put id b).put id { b with profile := b.profile.patched patch }, r)) :=
      (updateProfile_of_some client hu hb patch r).2 hstill
    rw [hrun, hagain, hsame, hu.put_self hb]

/-! ## One change after another -/

/-- Changes profiles one after another, whatever becomes of each change. -/
def updateProfiles : List (Int × Profile) → Store × ρ → Store × ρ
  | [], state => state
  | (id, patch) :: updates, state =>
    updateProfiles updates ((updateProfile id patch).runWith (inMemory client) state).2

/-- Those patches of an account that are not refused when profiles are changed one after another. -/
def applied (id : Int) : List (Int × Profile) → Store × ρ → List Profile
  | [], _ => []
  | (i, patch) :: updates, state =>
    let (outcome, next) := (updateProfile i patch).runWith (inMemory client) state
    if i = id ∧ outcome.isOk then patch :: applied id updates next else applied id updates next

/-- One change of a profile keeps the account of `id`, with the patch if it is one of `id` that is not refused. -/
lemma account?_updateProfile (hs : s.WellFormed) (ha : s.account? id = some a) (i : Int) (patch : Profile) (r : ρ) :
    let run := (updateProfile i patch).runWith (inMemory client) (s, r)
    run.2.1.WellFormed ∧ run.2.1.account? id =
      some (if i = id ∧ run.1.isOk then { a with profile := a.profile.patched patch } else a) := by
  intro run
  rcases updateProfile_cases client hs i patch r with ⟨-, hrun⟩ | ⟨-, -, hrun⟩ | ⟨x, hx, -, hu, hrun⟩
  · have hrun : run = (.error .accountNotFound, (s, r)) := hrun
    rw [hrun, if_neg fun h => Bool.false_ne_true h.2]
    exact ⟨hs, ha⟩
  · have hrun : run = (.error .accountExists, (s, r)) := hrun
    rw [hrun, if_neg fun h => Bool.false_ne_true h.2]
    exact ⟨hs, ha⟩
  · have hrun : run = (.ok (), (s.put i { x with profile := x.profile.patched patch }, r)) := hrun
    rw [hrun]
    refine ⟨hu, ?_⟩
    by_cases hi : i = id
    · subst hi
      cases ha.symm.trans hx
      rw [if_pos ⟨rfl, rfl⟩]
      exact Store.account?_put_self ha
    · rw [if_neg fun h => hi h.1]
      exact (Store.account?_put_of_ne (Ne.symm hi)).trans ha

/-- **Changes of profiles, one after another,** apply to a profile those patches of it that were not refused, and leave
the rest of the record as it is. -/
theorem account?_updateProfiles (hs : s.WellFormed) (ha : s.account? id = some a) (updates : List (Int × Profile))
    (r : ρ) :
    (updateProfiles client updates (s, r)).1.account? id =
      some { a with profile := (applied client id updates (s, r)).foldl Profile.patched a.profile } := by
  induction updates generalizing s a r with
  | nil => exact ha
  | cons update updates ih =>
    obtain ⟨i, patch⟩ := update
    obtain ⟨hwell, hb⟩ := account?_updateProfile client hs ha i patch r
    rw [updateProfiles, applied]
    rcases hrun : (updateProfile i patch).runWith (inMemory client) (s, r) with ⟨outcome, u, p⟩
    rw [hrun] at hwell hb
    dsimp only at hwell hb ⊢
    rw [ih hwell hb]
    by_cases happlied : i = id ∧ outcome.isOk
    · rw [if_pos happlied, if_pos happlied, List.foldl_cons]
    · rw [if_neg happlied, if_neg happlied]

/-- **What a change of a profile does,** on any store that a sequence of calls leaves, for any id and any patch. It
fails since there is no such account exactly if there is none, and for a clash exactly if there is one and the patch
gives an email address that another account holds; so a patch without an address never clashes. It does not fail in any
other way, and a failure leaves everything as it was. A success replaces the profile of the account, and nothing else:
each field is that of the patch, or what it was where the patch has none; so a patch without values changes nothing at
all. To repeat the change comes to the same end and changes nothing more. And behind any changes of profiles, of this
account and of others, one after another, each field holds the last value that those changes of this account gave for
it which were not refused, or the value that it had. -/
theorem updateProfile_exact (calls : List Store.Call) (r : ρ) (id : Int)
    (patch : Profile) :
    let s := Store.empty.serveAll calls
    let run := (updateProfile id patch).runWith (inMemory client)
    ((run (s, r)).1 = .error .accountNotFound ↔ s.account? id = none) ∧
    ((run (s, r)).1 = .error .accountExists ↔
      s.account? id ≠ none ∧ patch.email ≠ "" ∧ s.HeldBesides id patch.email) ∧
    (patch.email = "" → (run (s, r)).1 ≠ .error .accountExists) ∧
    (∀ fault, (run (s, r)).1 = .error fault →
      (fault = .accountNotFound ∨ fault = .accountExists) ∧ (run (s, r)).2 = (s, r)) ∧
    ((run (s, r)).1 = .ok () → ∃ a u profile, s.account? id = some a ∧ (run (s, r)).2 = (u, r) ∧
      u.account? id = some { a with profile } ∧ Store.KeepsOthers id s u ∧
      ∀ f, profile.get f = if patch.get f = "" then a.profile.get f else patch.get f) ∧
    ((∀ f, patch.get f = "") → s.account? id ≠ none → run (s, r) = (.ok (), (s, r))) ∧
    run (run (s, r)).2 = run (s, r) ∧
    ∀ a updates, s.account? id = some a → ∃ profile,
      (updateProfiles client updates (s, r)).1.account? id = some { a with profile } ∧
      ∀ f, profile.get f = Profile.lastGiven f (applied client id updates (s, r)) (a.profile.get f) := by
  intro s run
  have hs : s.WellFormed := Store.wellFormed_empty.serveAll calls
  have hsequence : ∀ a updates, s.account? id = some a → ∃ profile,
      (updateProfiles client updates (s, r)).1.account? id = some { a with profile } ∧
      ∀ f, profile.get f = Profile.lastGiven f (applied client id updates (s, r)) (a.profile.get f) := by
    intro a updates ha
    exact ⟨_, account?_updateProfiles client hs ha updates r, fun f => Profile.get_foldl_patched f _ _⟩
  have hagain : run (run (s, r)).2 = run (s, r) := updateProfile_again client hs id patch r
  rcases updateProfile_cases client hs id patch r with
    ⟨hid, hrun⟩ | ⟨hid, hheld, hrun⟩ | ⟨a, ha, hheld, -, hrun⟩
  · have hrun : run (s, r) = (.error .accountNotFound, (s, r)) := hrun
    refine ⟨?_, ?_, ?_, ?_, ?_, ?_, hagain, hsequence⟩ <;> simp [hrun, hid]
  · have hrun : run (s, r) = (.error .accountExists, (s, r)) := hrun
    refine ⟨?_, ?_, ?_, ?_, ?_, ?_, hagain, hsequence⟩
    · simp [hrun, hid]
    · simp [hrun, hid, hheld.1, hheld.2]
    · exact fun hemail => absurd hemail hheld.1
    · simp [hrun]
    · simp [hrun]
    · exact fun hempty => absurd (hempty .email) hheld.1
  · have hrun : run (s, r) = (.ok (), (s.put id { a with profile := a.profile.patched patch }, r)) := hrun
    refine ⟨?_, ?_, ?_, ?_, ?_, ?_, hagain, hsequence⟩
    · simp [hrun, ha]
    · rw [hrun]
      constructor
      · intro h
        cases h
      · intro h
        exact absurd h.2 hheld
    · simp [hrun]
    · simp [hrun]
    · intro _
      refine ⟨a, _, _, ha, by rw [hrun], Store.account?_put_self ha, ⟨rfl, fun j hj => Store.account?_put_of_ne hj⟩, ?_⟩
      intro f
      by_cases hf : patch.get f = ""
      · rw [if_pos hf, Profile.get_patched_of_eq hf]
      · rw [if_neg hf, Profile.get_patched_of_ne hf]
    · intro hempty _
      rw [hrun, Profile.patched_of_empty hempty, hs.put_self ha]

/-- Two accounts, and changes of the first one's name, of the second one's address, of both for the first one, which is
refused, and of its phone number: it has the name from the first change and the phone number from the last. -/
theorem updateProfile_exact_refused :
    let calls : List Store.Call := [.create ⟨⟨"a@x.com", "1", "a", "b"⟩, "h", Moment.utc 0⟩,
      .create ⟨⟨"c@x.com", "2", "c", "d"⟩, "h", Moment.utc 0⟩]
    let updates : List (Int × Profile) := [(1, ⟨"", "", "Ann", ""⟩), (2, ⟨"e@x.com", "", "", ""⟩),
      (1, ⟨"e@x.com", "", "Eve", ""⟩), (1, ⟨"", "5", "", ""⟩)]
    let client : Relations.Client Unit := fun _ r => (.ok (), r)
    ((updateProfiles client updates (Store.empty.serveAll calls, ())).1.account? 1).map Account.profile =
      some ⟨"a@x.com", "5", "Ann", "b"⟩ := by
  intro calls updates client
  let s := Store.empty.serveAll calls
  obtain ⟨a, ha, hprofile⟩ : ∃ a, s.account? 1 = some a ∧ a.profile = ⟨"a@x.com", "1", "a", "b"⟩ :=
    ⟨_, rfl, by decide +kernel⟩
  have happlied : applied client 1 updates (s, ()) = [⟨"", "", "Ann", ""⟩, ⟨"", "5", "", ""⟩] := by decide +kernel
  obtain ⟨-, -, -, -, -, -, -, hsequence⟩ := updateProfile_exact client calls () 1 ⟨"", "", "", ""⟩
  obtain ⟨profile, hb, hlast⟩ := hsequence a updates ha
  rw [hb]
  refine congrArg some (Profile.ext_get fun f => ?_)
  rw [hlast, happlied, hprofile]
  cases f <;> decide +kernel

end Service

end Gatehouse
