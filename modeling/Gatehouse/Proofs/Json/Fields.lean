import Gatehouse.Json.Record
import Gatehouse.Proofs.Json.Skip

/-!
# What is read of a record

A record that is read is an object or a list of the grammar, and what its draft holds is what the members of the
object, or the items of the list, say.

* `Takes` — what a reader makes of a tree;
* `isSound_record` — **a record is an object or a list,** collected member after member or item after item;
* `Treats`, `Belongs` — a field of the draft belongs to a key;
* `Folds.field`, `Places.field` — a field that is set comes from the one member with its key, or from the item in
  its place; and a field that is not set has no member (`Folds.field_of_none`).
-/

namespace Gatehouse.Json

variable {α δ : Type}

open Reader (IsSound Folds IsMemberSound bind_ok_iff pure_ok_iff throw_ok_iff)

/-- A reader makes something of a tree: it gives that for a text that is the tree. -/
def Takes (r : Reader α) (t : Tree) (a : α) : Prop :=
  ∃ text rest, r text = (.ok a, rest) ∧ Stands (.value t) text rest

lemma Reader.IsSound.of_takes {r : Reader α} {P : α → Tree → Prop} (h : IsSound r P) {t : Tree} {a : α}
    (ht : Takes r t a) : P a t := by
  obtain ⟨text, rest, hr, hs⟩ := ht
  obtain ⟨t', hs', hp⟩ := h hr
  obtain ⟨rfl, -⟩ := hs.value_unique hs'
  exact hp

lemma takes_field {key : String} {presence : Presence} {get : δ → Option α} {put : α → δ → δ} {value : Reader α}
    {draft draft' : δ} {t : Tree} (h : Takes ((Member.field key presence get put value).read draft) t draft') :
    ∃ a, Takes value t a ∧ draft' = put a draft := by
  obtain ⟨text, rest, hr, hs⟩ := h
  obtain ⟨a, mid, hvalue, hput⟩ := bind_ok_iff.1 hr
  obtain ⟨rfl, rfl⟩ := pure_ok_iff.1 hput
  exact ⟨a, ⟨text, mid, hvalue, hs⟩, rfl⟩

lemma isSound_field {key : String} {presence : Presence} {get : δ → Option α} {put : α → δ → δ} {value : Reader α}
    {P : α → Tree → Prop} (h : IsSound value P) (draft : δ) :
    IsSound ((Member.field key presence get put value).read draft) fun _ _ => True := by
  intro text rest draft' hr
  obtain ⟨a, mid, hvalue, hput⟩ := bind_ok_iff.1 hr
  obtain ⟨-, rfl⟩ := pure_ok_iff.1 hput
  obtain ⟨t, ht, -⟩ := h hvalue
  exact ⟨t, ht, trivial⟩

/-! ## Members and items -/

/-- What becomes of a draft when a member is read: the member of the record with its key takes the value, if there is
one and the draft does not have it yet. -/
def Joins (members : List (Member δ)) (name : String) (draft : δ) (t : Tree) (draft' : δ) : Prop :=
  (∃ m ∈ members, m.key = name ∧ m.isSet draft = false ∧ Takes (m.read draft) t draft') ∨
    ((∀ m ∈ members, m.key ≠ name) ∧ draft' = draft)

/-- What becomes of a draft when items are read in the places of the members. -/
inductive Places : List (Member δ) → δ → List Tree → δ → Prop
  | nil (draft : δ) : Places [] draft [] draft
  | item {m : Member δ} {members : List (Member δ)} {draft draft' last : δ} {t : Tree} {items : List Tree} :
      Takes (m.read draft) t draft' → Places members draft' items last → Places (m :: members) draft (t :: items) last
  | absent {m : Member δ} {members : List (Member δ)} {draft last : δ} :
      m.presence = .defaulted → Places members draft [] last → Places (m :: members) draft [] last

/-- Every member of a record takes values. -/
def AllSound (members : List (Member δ)) : Prop := ∀ m ∈ members, ∀ draft, IsSound (m.read draft) fun _ _ => True

variable {members : List (Member δ)}

lemma isMemberSound_member (h : AllSound members) : IsMemberSound (Record.member members) (Joins members) := by
  intro name draft draft' text rest hr
  unfold Record.member at hr
  cases hfind : members.find? (·.key == name) with
  | none =>
    rw [hfind] at hr
    obtain ⟨_, mid, hcolon, hr⟩ := bind_ok_iff.1 hr
    obtain ⟨_, behind, hskip, hr⟩ := bind_ok_iff.1 hr
    obtain ⟨rfl, rfl⟩ := pure_ok_iff.1 hr
    obtain ⟨t, ht, -⟩ := isSound_skip hskip
    refine ⟨mid, t, Reader.colon_ok hcolon, ht, .inr ⟨fun m hm => ?_, rfl⟩⟩
    simpa using List.find?_eq_none.1 hfind m hm
  | some m =>
    rw [hfind] at hr
    dsimp only at hr
    rw [Reader.guard_ok_iff] at hr
    obtain ⟨hset, hr⟩ := hr
    obtain ⟨_, mid, hcolon, hread⟩ := bind_ok_iff.1 hr
    have hm := List.mem_of_find?_eq_some hfind
    obtain ⟨t, ht, -⟩ := h m hm draft hread
    refine ⟨mid, t, Reader.colon_ok hcolon, ht, .inl ⟨m, hm, ?_, by simpa using hset, mid, rest, hread, ht⟩⟩
    simpa using List.find?_some hfind

lemma positions_ok (h : AllSound members) {isFirst : Bool} {draft last : δ} {text mid rest : Bytes} {u : Unit}
    (hr : Record.positions members isFirst draft text = (.ok last, mid)) (hend : Reader.endList mid = (.ok u, rest)) :
    ∃ items, Stands (.items isFirst items) text rest ∧ Places members draft items last := by
  induction members generalizing isFirst draft text with
  | nil =>
    obtain ⟨rfl, rfl⟩ := pure_ok_iff.1 hr
    exact ⟨[], .endItems (Reader.endList_ok hend), .nil _⟩
  | cons m members ih =>
    have hrest : AllSound members := fun m hm => h m (List.mem_cons_of_mem _ hm)
    rw [Record.positions, bind_ok_iff] at hr
    obtain ⟨more, behind, hmore, hr⟩ := hr
    rcases Reader.hasItem_ok hmore with ⟨rfl, hclose, hbehind⟩ | ⟨rfl, parted, hparted, rfl⟩
    · rw [if_neg Bool.false_ne_true] at hr
      split at hr
      · rename_i hdefaulted
        obtain ⟨items, hitems, hplaces⟩ := ih hrest hr
        -- nothing but the closing bracket stands there
        have hnone : Stands (.items isFirst []) behind behind.tail := .endItems (by rw [hbehind]; rfl)
        obtain ⟨he, rfl⟩ := hitems.unique hnone rfl
        cases he
        exact ⟨[], .endItems hclose, .absent hdefaulted hplaces⟩
      · exact (throw_ok_iff.1 hr).elim
    · obtain ⟨draft', behind, hread, hpositions⟩ := bind_ok_iff.1 hr
      obtain ⟨t, ht, -⟩ := h m List.mem_cons_self draft hread
      obtain ⟨items, hitems, hplaces⟩ := ih hrest hpositions
      exact ⟨t :: items, .item hparted ht.of_behindBlanks hitems, .item ⟨_, _, hread, ht⟩ hplaces⟩

/-- **A record is an object or a list.** -/
theorem isSound_record (h : AllSound members) (start : δ) : IsSound (Record.read members start) fun draft t =>
    (∃ ms, t = .object ms ∧ Folds (Joins members) start ms draft) ∨
      ∃ items, t = .list items ∧ Places members start items draft := by
  intro text rest draft hr
  rw [Record.read, peek_bind] at hr
  split at hr
  · rename_i hb
    rw [advance_bind] at hr
    obtain ⟨mid, hobject, hclose⟩ := Reader.closedBy_eq_ok hr
    rw [Reader.get_bind] at hobject
    obtain ⟨draft', behind, hmembers, hall⟩ := bind_ok_iff.1 hobject
    obtain ⟨ms, hms, hbehind, hstands⟩ := Reader.membersFrom_ok (isMemberSound_member h) hmembers
    split at hall
    · obtain ⟨rfl, rfl⟩ := pure_ok_iff.1 hall
      rw [hbehind] at hclose
      rw [← Reader.eq_of_endObject hclose] at hstands
      exact ⟨.object ms, .object (eq_cons_of_head? hb) hstands, .inl ⟨ms, rfl, hms⟩⟩
    · exact (throw_ok_iff.1 hall).elim
  split at hr
  · rename_i hb
    rw [advance_bind] at hr
    obtain ⟨mid, hpositions, hclose⟩ := Reader.closedBy_eq_ok hr
    obtain ⟨items, hitems, hplaces⟩ := positions_ok h hpositions hclose
    exact ⟨.list items, .list (eq_cons_of_head? hb) hitems, .inr ⟨items, rfl, hplaces⟩⟩
  · exact (Reader.refuse_ne_ok hr).elim

/-! ## What all members keep -/

/-- Every member of a record keeps a property of the draft, whatever it takes. -/
def Preserves (members : List (Member δ)) (Inv : δ → Prop) : Prop :=
  ∀ m ∈ members, ∀ ⦃draft t draft'⦄, Takes (m.read draft) t draft' → Inv draft → Inv draft'

section Preserves

variable {Inv : δ → Prop} (hkeeps : Preserves members Inv)
include hkeeps

lemma Reader.Folds.preserves {start last : δ} {ms : List (Bytes × Tree)} (h : Folds (Joins members) start ms last)
    (hstart : Inv start) : Inv last := by
  induction h with
  | nil => exact hstart
  | cons _ hjoins _ ih =>
    apply ih
    rcases hjoins with ⟨m, hm, -, -, htakes⟩ | ⟨-, rfl⟩
    · exact hkeeps m hm htakes hstart
    · exact hstart

lemma Places.preserves {start last : δ} {items : List Tree} (h : Places members start items last)
    (hstart : Inv start) : Inv last := by
  induction h with
  | nil => exact hstart
  | item htakes _ ih =>
    exact ih (fun m hm => hkeeps m (List.mem_cons_of_mem _ hm)) (hkeeps _ List.mem_cons_self htakes hstart)
  | absent _ _ ih => exact ih (fun m hm => hkeeps m (List.mem_cons_of_mem _ hm)) hstart

/-- **A record that is read has what all its members keep,** in either form. -/
theorem isSound_record_of_preserves (h : AllSound members) {start : δ} (hstart : Inv start) :
    IsSound (Record.read members start) fun draft _ => Inv draft := by
  intro text rest draft hr
  obtain ⟨t, ht, hform⟩ := isSound_record h start hr
  refine ⟨t, ht, ?_⟩
  rcases hform with ⟨ms, -, hfolds⟩ | ⟨items, -, hplaces⟩
  · exact hfolds.preserves hkeeps hstart
  · exact hplaces.preserves hkeeps hstart

end Preserves

/-! ## One field -/

/-- A member treats a field of the draft as the field of a key: a member with that key sets it, to something related
to the value that it takes, unless it is set; another member leaves it alone. -/
structure Treats (m : Member δ) (key : String) (get : δ → Option α) (P : α → Tree → Prop) : Prop where
  isSet : m.key = key → ∀ draft, m.isSet draft = (get draft).isSome
  sets : m.key = key → ∀ {draft t draft'}, Takes (m.read draft) t draft' → ∃ a, get draft' = some a ∧ P a t
  keeps : m.key ≠ key → ∀ {draft t draft'}, Takes (m.read draft) t draft' → get draft' = get draft

/-- A field of the draft belongs to a key: all members treat it so. -/
def Belongs (members : List (Member δ)) (key : String) (get : δ → Option α) (P : α → Tree → Prop) : Prop :=
  ∀ m ∈ members, Treats m key get P

variable {key : String} {get : δ → Option α} {P : α → Tree → Prop}

lemma treats_field {presence : Presence} {put : α → δ → δ} {value : Reader α} (hvalue : IsSound value P)
    (hget : ∀ a draft, get (put a draft) = some a) : Treats (.field key presence get put value) key get P where
  isSet := fun _ _ => rfl
  sets := by
    intro _ draft t draft' htakes
    obtain ⟨a, ha, rfl⟩ := takes_field htakes
    exact ⟨a, hget a draft, hvalue.of_takes ha⟩
  keeps := fun hk => absurd rfl hk

lemma treats_other {β : Type} {key' : String} {presence : Presence} {get' : δ → Option β} {put : β → δ → δ}
    {value : Reader β} (hk : key' ≠ key) (hput : ∀ b draft, get (put b draft) = get draft) :
    Treats (.field key' presence get' put value) key get P where
  isSet := fun he => absurd he hk
  sets := fun he => absurd he hk
  keeps := by
    intro _ draft t draft' htakes
    obtain ⟨b, -, rfl⟩ := takes_field htakes
    exact hput b draft

/-- A field is set by the member that it belongs to, and kept where another one is read. -/
lemma Joins.field (hb : Belongs members key get P) (hkey : ∃ m ∈ members, m.key = key) {name : String}
    {draft draft' : δ} {t : Tree} (h : Joins members name draft t draft') :
    (name = key ∧ get draft = none ∧ ∃ a, get draft' = some a ∧ P a t) ∨ (name ≠ key ∧ get draft' = get draft) := by
  rcases h with ⟨m, hm, rfl, hset, htakes⟩ | ⟨hno, rfl⟩
  · by_cases hk : m.key = key
    · rw [(hb m hm).isSet hk, Option.isSome_eq_false_iff, Option.isNone_iff_eq_none] at hset
      exact .inl ⟨hk, hset, (hb m hm).sets hk htakes⟩
    · exact .inr ⟨hk, (hb m hm).keeps hk htakes⟩
  · obtain ⟨m, hm, hk⟩ := hkey
    exact .inr ⟨fun he => hno m hm (hk.trans he.symm), rfl⟩

/-- A field that is set stays as it is, and no member with its key follows. -/
lemma Reader.Folds.field_of_some (hb : Belongs members key get P) (hkey : ∃ m ∈ members, m.key = key) {start last : δ}
    {ms : List (Bytes × Tree)} (h : Folds (Joins members) start ms last) {a : α} (ha : get start = some a) :
    get last = some a ∧ ∀ m ∈ ms, ¬ Spells m.1 key := by
  induction h with
  | nil => exact ⟨ha, by simp⟩
  | cons hspells hjoins _ ih =>
    rcases hjoins.field hb hkey with ⟨-, hnone, -⟩ | ⟨hne, hkeep⟩
    · rw [hnone] at ha
      cases ha
    · obtain ⟨hlast, hno⟩ := ih (hkeep.trans ha)
      refine ⟨hlast, fun m hm => ?_⟩
      rcases List.mem_cons.1 hm with rfl | hm
      · exact fun hk => hne (hspells.unique hk)
      · exact hno m hm

lemma Holds.cons {body : Bytes} {t t' : Tree} {ms : List (Bytes × Tree)} (h : Holds ms key t)
    (hb : ¬ Spells body key) : Holds ((body, t') :: ms) key t := by
  obtain ⟨front, body', behind, rfl, hs, hno⟩ := h
  refine ⟨(body, t') :: front, body', behind, rfl, hs, fun m hm => ?_⟩
  rcases List.mem_cons.1 hm with rfl | hm
  · exact hb
  · exact hno m hm

/-- **A field that is set comes from the one member with its key.** -/
theorem Reader.Folds.field (hb : Belongs members key get P) (hkey : ∃ m ∈ members, m.key = key) {start last : δ}
    {ms : List (Bytes × Tree)} (h : Folds (Joins members) start ms last) (hstart : get start = none) {a : α}
    (ha : get last = some a) : ∃ t, Holds ms key t ∧ P a t := by
  induction h with
  | nil =>
    rw [hstart] at ha
    cases ha
  | cons hspells hjoins hfolds ih =>
    rcases hjoins.field hb hkey with ⟨rfl, -, a', ha', hp⟩ | ⟨hne, hkeep⟩
    · obtain ⟨hlast, hno⟩ := hfolds.field_of_some hb hkey ha'
      cases hlast.symm.trans ha
      exact ⟨_, ⟨[], _, _, rfl, hspells, hno⟩, hp⟩
    · obtain ⟨t, ht, hp⟩ := ih (hkeep.trans hstart) ha
      exact ⟨t, ht.cons fun hk => hne (hspells.unique hk), hp⟩

/-- **A field that is not set** has no member with its key. -/
theorem Reader.Folds.field_of_none (hb : Belongs members key get P) (hkey : ∃ m ∈ members, m.key = key)
    {start last : δ} {ms : List (Bytes × Tree)} (h : Folds (Joins members) start ms last) (hlast : get last = none) :
    ∀ m ∈ ms, ¬ Spells m.1 key := by
  induction h with
  | nil => simp
  | cons hspells hjoins hfolds ih =>
    rcases hjoins.field hb hkey with ⟨-, -, a, ha, -⟩ | ⟨hne, -⟩
    · rw [(hfolds.field_of_some hb hkey ha).1] at hlast
      cases hlast
    · intro m hm
      rcases List.mem_cons.1 hm with rfl | hm
      · exact fun hk => hne (hspells.unique hk)
      · exact ih hlast m hm

lemma Reader.Folds.exists_spells {σ : Type} {Q : String → σ → Tree → σ → Prop} {start last : σ}
    {ms : List (Bytes × Tree)} (h : Folds Q start ms last) : ∀ m ∈ ms, ∃ name, Spells m.1 name := by
  induction h with
  | nil => simp
  | cons hspells _ _ ih =>
    intro m hm
    rcases List.mem_cons.1 hm with rfl | hm
    · exact ⟨_, hspells⟩
    · exact ih m hm

lemma Belongs.tail {m : Member δ} (hb : Belongs (m :: members) key get P) : Belongs members key get P :=
  fun m hm => hb m (List.mem_cons_of_mem _ hm)

lemma Places.keeps (hb : Belongs members key get P) (hkey : ∀ m ∈ members, m.key ≠ key) {start last : δ}
    {items : List Tree} (h : Places members start items last) : get last = get start := by
  induction h with
  | nil => rfl
  | item htakes _ ih =>
    rw [ih hb.tail fun m hm => hkey m (List.mem_cons_of_mem _ hm)]
    exact (hb _ List.mem_cons_self).keeps (hkey _ List.mem_cons_self) htakes
  | absent _ _ ih => exact ih hb.tail fun m hm => hkey m (List.mem_cons_of_mem _ hm)

/-- **A field that is set comes from the item in the place of its member.** -/
theorem Places.field (hb : Belongs members key get P) (hnodup : (members.map (·.key)).Nodup) {start last : δ}
    {items : List Tree} (h : Places members start items last) (hstart : get start = none) {a : α}
    (ha : get last = some a) : ∃ t, items[(members.map (·.key)).idxOf key]? = some t ∧ P a t := by
  induction h with
  | nil =>
    rw [hstart] at ha
    cases ha
  | @item m members draft draft' last t items htakes hplaces ih =>
    rw [List.map_cons, List.nodup_cons] at hnodup
    by_cases hk : m.key = key
    · obtain ⟨a', ha', hp⟩ := (hb m List.mem_cons_self).sets hk htakes
      have hlast := hplaces.keeps hb.tail fun m' hm' he =>
        hnodup.1 (List.mem_map.2 ⟨m', hm', he.trans hk.symm⟩)
      rw [hlast, ha'] at ha
      cases ha
      exact ⟨t, by simp [hk], hp⟩
    · obtain ⟨t', ht', hp⟩ := ih hb.tail hnodup.2 (((hb m List.mem_cons_self).keeps hk htakes).trans hstart) ha
      exact ⟨t', by simpa [List.idxOf_cons, hk] using ht', hp⟩
  | @absent m members draft last _ hplaces ih =>
    rw [List.map_cons, List.nodup_cons] at hnodup
    obtain ⟨t, ht, -⟩ := ih hb.tail hnodup.2 hstart ha
    simp at ht

lemma Places.length {start last : δ} {items : List Tree} (h : Places members start items last)
    (hp : ∀ m ∈ members, m.presence ≠ .defaulted) : items.length = members.length := by
  induction h with
  | nil => rfl
  | item _ _ ih => simpa using ih fun m hm => hp m (List.mem_cons_of_mem _ hm)
  | absent hd _ _ => exact absurd hd (hp _ List.mem_cons_self)

end Gatehouse.Json
