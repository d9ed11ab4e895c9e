import Gatehouse.Proofs.Store.Frame

/-!
# Stores that agree on a part of every account

* `AgreeBy` — two stores have accounts under the same ids, and each account looks alike in both, as far as a view of it
  shows;
* `AgreeBy.put`, `AgreeBy.put_left`, `AgreeBy.add` — changes that keep two stores alike;
* `AgreeBy.heldByOther_eq` — stores that agree on ids and email addresses answer alike whether an address is taken.
-/

namespace Gatehouse.Store

variable {β : Type} {f : Account → β} {s u : Store} {id : Int} {a b : Account}

/-- Two stores have accounts under the same ids, and a view shows the same of both. -/
def AgreeBy (f : Account → β) (s u : Store) : Prop := ∀ id, (s.account? id).map f = (u.account? id).map f

namespace AgreeBy

lemma refl (f : Account → β) (s : Store) : s.AgreeBy f s := fun _ => rfl

lemma symm (h : s.AgreeBy f u) : u.AgreeBy f s := fun id => (h id).symm

lemma eq (h : s.AgreeBy f u) (ha : s.account? id = some a) (hb : u.account? id = some b) : f a = f b := by
  have := h id
  rw [ha, hb] at this
  exact Option.some.inj this

lemma exists_some (h : s.AgreeBy f u) (ha : s.account? id = some a) : ∃ b, u.account? id = some b ∧ f b = f a := by
  have := h id
  rw [ha] at this
  exact Option.map_eq_some_iff.1 this.symm

lemma eq_none (h : s.AgreeBy f u) (ha : s.account? id = none) : u.account? id = none := by
  have := h id
  rw [ha] at this
  exact Option.map_eq_none_iff.1 this.symm

lemma put (h : s.AgreeBy f u) (hab : f a = f b) (id : Int) : (s.put id a).AgreeBy f (u.put id b) := by
  intro j
  rw [account?_put, account?_put]
  split
  · have hid := h id
    cases hs : s.account? id with
    | none => rw [h.eq_none hs]; rfl
    | some x =>
      obtain ⟨y, hy, -⟩ := h.exists_some hs
      rw [hy]
      exact congrArg some hab
  · exact h j

lemma put_left (h : s.AgreeBy f u) (ha : s.account? id = some a) (hab : f b = f a) : (s.put id b).AgreeBy f u := by
  intro j
  rw [account?_put]
  split
  · next hj => rw [← h j, hj, ha]; exact congrArg some hab
  · exact h j

lemma add (h : s.AgreeBy f u) (hlast : s.lastId = u.lastId) {n m : NewAccount}
    (hnm : ∀ id, f (n.withId id) = f (m.withId id)) : (s.add n).2.AgreeBy f (u.add m).2 := by
  intro j
  rw [account?_add, account?_add, hlast]
  cases hs : s.account? j with
  | none =>
    rw [h.eq_none hs]
    split
    · exact congrArg some (hnm _)
    · rfl
  | some x =>
    obtain ⟨y, hy, hxy⟩ := h.exists_some hs
    rw [hy]
    exact congrArg some hxy.symm

/-- Who agree on ids and email addresses, where no id is used twice, answer alike whether others hold an address. -/
lemma heldByOther_eq (h : s.AgreeBy f u) (hs : (s.accounts.map Prod.fst).Nodup) (hu : (u.accounts.map Prod.fst).Nodup)
    (hf : ∀ a b, f a = f b → a.id = b.id ∧ a.profile.email = b.profile.email) (id : Int) (email : String) :
    s.heldByOther id email = u.heldByOther id email := by
  have hheld : ∀ {s u : Store}, s.AgreeBy f u → (s.accounts.map Prod.fst).Nodup → (u.accounts.map Prod.fst).Nodup →
      s.heldByOther id email = true → u.heldByOther id email = true := by
    intro s u h hs hu hheld
    obtain ⟨⟨j, a⟩, hm, he⟩ := List.any_eq_true.1 hheld
    obtain ⟨b, hb, hab⟩ := h.exists_some ((account?_eq_some_iff hs).2 hm)
    obtain ⟨hid, hemail⟩ := hf b a hab
    refine List.any_eq_true.2 ⟨(j, b), (account?_eq_some_iff hu).1 hb, ?_⟩
    rw [hid, hemail]
    exact he
  exact Bool.eq_iff_iff.2 ⟨hheld h hs hu, hheld h.symm hu hs⟩

end AgreeBy

end Gatehouse.Store
