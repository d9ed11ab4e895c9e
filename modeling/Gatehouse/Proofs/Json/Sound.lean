import Gatehouse.Json.Value
import Gatehouse.Proofs.Json.Lexical
import Mathlib.Data.List.DropRight

/-!
# What readers take is JSON

A reader that succeeds has taken a value of the grammar, and what it gives is what the tree of that value says.

* `Reader.IsSound` — a reader is sound for a relation between what it gives and the tree of what it has taken;
* `isSound_string`, `isSound_natWord`, `isSound_word`, `isSound_nullable`, `isSound_variant` — readers of single values;
* `isSound_listOf`, `isSound_objectOf`, `isSound_value` — lists, objects and values of any kind.
-/

namespace Gatehouse.Json

variable {α σ : Type} {text rest : Bytes}

/-! ## White space and literals -/

lemma behindBlanks_idem (text : Bytes) : behindBlanks (behindBlanks text) = behindBlanks text :=
  List.dropWhile_idempotent _ text

lemma Stands.of_behindBlanks {t : Tree} (h : Stands (.value t) (behindBlanks text) rest) :
    Stands (.value t) text rest := by
  cases h with
  | literal he => exact .literal (behindBlanks_idem text ▸ he)
  | number hn => exact .number (behindBlanks_idem text ▸ hn)
  | string he hb => exact .string (behindBlanks_idem text ▸ he) hb
  | list he hi => exact .list (behindBlanks_idem text ▸ he) hi
  | object he hi => exact .object (behindBlanks_idem text ▸ he) hi

lemma eq_cons_of_head? {b : UInt8} (h : text.head? = some b) : text = b :: text.tail :=
  List.eq_cons_of_mem_head? h

lemma literalTail_ok {b : UInt8} {u : Unit} (hb : startsLiteral b = true) (h : literalTail b text = (.ok u, rest)) :
    ∃ l : Literal, b = l.first ∧ text = l.tail ++ rest := by
  unfold literalTail at h
  split at h
  · exact ⟨.null, ‹_›, expectAll_ok_iff.1 h⟩
  split at h
  · exact ⟨.true, ‹_›, expectAll_ok_iff.1 h⟩
  · have hfirst : b = 102 := by simpa [startsLiteral, *] using hb
    exact ⟨.false, hfirst, expectAll_ok_iff.1 h⟩

lemma literal_stands {b : UInt8} {u : Unit} (hb : startsLiteral b = true) (hblank : (behindBlanks text).head? = some b)
    (h : literalTail b (behindBlanks text).tail = (.ok u, rest)) :
    ∃ l : Literal, b = l.first ∧ Stands (.value (.literal l)) text rest := by
  obtain ⟨l, hl, htail⟩ := literalTail_ok hb h
  exact ⟨l, hl, .literal (by rw [← hl, ← htail]; exact eq_cons_of_head? hblank)⟩

lemma Literal.eq_null {l : Literal} (h : 110 = l.first) : l = .null := by
  cases l with
  | null => rfl
  | true => exact absurd h (by decide)
  | false => exact absurd h (by decide)

namespace Reader

/-- What a reader takes is a value, and what it gives is related to the tree of that value. -/
def IsSound (r : Reader α) (P : α → Tree → Prop) : Prop :=
  ∀ ⦃text rest : Bytes⦄ ⦃a : α⦄, r text = (.ok a, rest) → ∃ t, Stands (.value t) text rest ∧ P a t

lemma exists_of_readAll {r : Reader α} {a : α} (h : readAll r text = .ok a) :
    ∃ rest, r text = (.ok a, rest) ∧ behindBlanks rest = [] := by
  unfold Json.readAll at h
  split at h
  · rename_i rest hread
    split at h
    · rename_i hblank
      cases h
      exact ⟨rest, hread, List.dropWhile_eq_nil_iff.2 (by simpa using hblank)⟩
    · cases h
  · cases h

/-- A whole text that is read is a whole text of the grammar. -/
lemma IsSound.readAll {r : Reader α} {P : α → Tree → Prop} (h : IsSound r P) {a : α}
    (hr : readAll r text = .ok a) : ∃ t, IsText text t ∧ P a t := by
  obtain ⟨rest, hread, hblank⟩ := exists_of_readAll hr
  obtain ⟨t, ht, hp⟩ := h hread
  exact ⟨t, ⟨rest, ht, hblank⟩, hp⟩

lemma refuse_ne_ok {a : α} : (refuse : Reader α) text ≠ (.ok a, rest) := by
  intro h
  rw [refuse, peekByte_bind] at h
  cases hb : text.head? with
  | none =>
    rw [hb] at h
    exact throw_ok_iff.1 h
  | some b =>
    rw [hb] at h
    dsimp only at h
    split at h
    · simp [advance_bind, bind_ok_iff, throw_ok_iff] at h
    split at h
    · simp [advance_bind, bind_ok_iff, throw_ok_iff] at h
    split at h
    · simp [bind_ok_iff, throw_ok_iff] at h
    split at h
    · simp [advance_bind, bind_ok_iff, throw_ok_iff] at h
    split at h <;> exact throw_ok_iff.1 h

/-! ## Single values -/

theorem isSound_string : IsSound string fun s t => t.IsString s := by
  intro text rest s h
  rw [string, peek_bind] at h
  split at h
  · rename_i hq
    obtain ⟨body, htail, hbody⟩ := stringTail_ok h
    refine ⟨.string body, .string ?_ hbody.isBody, body, rfl, hbody⟩
    rw [eq_cons_of_head? hq, htail]
  · exact (refuse_ne_ok h).elim

lemma number_stands (negative : Bool) {k : Number} {behind : Bytes}
    (hblank : behindBlanks text = if negative then 45 :: behind else behind)
    (h : number negative behind = (.ok k, rest)) :
    ∃ t, Stands (.value t) text rest ∧ ∀ n, k = .natural n → t.IsNatural n := by
  obtain ⟨m, hsign, hm, hnat⟩ := number_ok h
  refine ⟨.number m, .number ?_, fun n hn => ⟨m, rfl, hnat n hn⟩⟩
  rw [hblank]
  cases negative with
  | true => exact .negative rfl hsign hm
  | false => exact .positive hsign hm

theorem isSound_anyNumber : IsSound anyNumber fun k t => ∀ n, k = .natural n → t.IsNatural n := by
  intro text rest k h
  rw [anyNumber, peek_bind] at h
  split at h
  · rename_i hminus
    exact number_stands true (eq_cons_of_head? hminus) h
  · split at h
    · exact number_stands false rfl h
    · exact (refuse_ne_ok h).elim

theorem isSound_natWord : IsSound natWord fun n t => t.IsNatural n := by
  intro text rest n h
  obtain ⟨k, mid, hk, h⟩ := bind_ok_iff.1 h
  obtain ⟨t, ht, hnat⟩ := isSound_anyNumber hk
  cases k with
  | natural n' =>
    obtain ⟨rfl, rfl⟩ := pure_ok_iff.1 h
    exact ⟨t, ht, hnat _ rfl⟩
  | negative _ => exact (throw_ok_iff.1 h).elim
  | real => exact (throw_ok_iff.1 h).elim

lemma anyNumber_negative {n : Nat} (h : anyNumber text = (.ok (.negative n), rest)) :
    0 < n ∧ n ≤ 0x8000000000000000 := by
  rw [anyNumber, peek_bind] at h
  split at h
  · rw [advance_bind] at h
    exact number_negative h
  · split at h
    · exact number_negative h
    · exact (refuse_ne_ok h).elim

theorem isSound_word : IsSound word fun n _ => Text.IsWord n := by
  intro text rest n h
  obtain ⟨k, mid, hk, h⟩ := bind_ok_iff.1 h
  obtain ⟨t, ht, -⟩ := isSound_anyNumber hk
  cases k with
  | natural m =>
    dsimp only at h
    split at h
    · next hlt =>
      obtain ⟨rfl, rfl⟩ := pure_ok_iff.1 h
      refine ⟨t, ht, ?_⟩
      unfold Text.IsWord Text.minWord Text.maxWord
      omega
    · exact (throw_ok_iff.1 h).elim
  | negative m =>
    obtain ⟨hpos, hle⟩ := anyNumber_negative hk
    obtain ⟨rfl, rfl⟩ := pure_ok_iff.1 h
    refine ⟨t, ht, ?_⟩
    unfold Text.IsWord Text.minWord Text.maxWord
    omega
  | real => exact (throw_ok_iff.1 h).elim

lemma null_ok {u : Unit} (h : null text = (.ok u, rest)) : Stands (.value (.literal .null)) text rest := by
  rw [null, peek_bind] at h
  split at h
  · rename_i hn
    obtain ⟨l, hl, ht⟩ := literal_stands (by decide) hn h
    rwa [Literal.eq_null hl] at ht
  · exact (refuse_ne_ok h).elim

theorem isSound_nullable {r : Reader α} {P : α → Tree → Prop} (hr : IsSound r P) :
    IsSound (nullable r) fun o t => (o = none → t = .literal .null) ∧ ∀ a, o = some a → P a t := by
  intro text rest o h
  rw [nullable, peek_bind] at h
  split at h
  · rename_i hn
    rw [advance_bind, bind_ok_iff] at h
    obtain ⟨_, mid, hl, h⟩ := h
    obtain ⟨rfl, rfl⟩ := pure_ok_iff.1 h
    obtain ⟨l, hfirst, ht⟩ := literal_stands (by decide) hn hl
    exact ⟨_, ht, fun _ => by rw [Literal.eq_null hfirst], by simp⟩
  · obtain ⟨a, mid, ha, h⟩ := bind_ok_iff.1 h
    obtain ⟨rfl, rfl⟩ := pure_ok_iff.1 h
    obtain ⟨t, ht, hp⟩ := hr ha
    exact ⟨t, ht.of_behindBlanks, by simp, by simpa using hp⟩

lemma isSound_named {ofName? : String → Option α} :
    IsSound (named ofName?) fun a t => ∃ name, ofName? name = some a ∧ t.IsString name := by
  intro text rest a h
  obtain ⟨name, mid, hname, h⟩ := bind_ok_iff.1 h
  obtain ⟨t, ht, hs⟩ := isSound_string hname
  cases ha : ofName? name with
  | none =>
    rw [ha] at h
    exact (throw_ok_iff.1 h).elim
  | some a' =>
    rw [ha] at h
    obtain ⟨rfl, rfl⟩ := pure_ok_iff.1 h
    exact ⟨t, ht, name, ha, hs⟩

lemma eq_cons_of_advance {b : UInt8} {u : Unit}
    (h : (do if (← peek) = some b then advance else throw .malformed : Reader Unit) text = (.ok u, rest)) :
    behindBlanks text = b :: rest := by
  rw [peek_bind] at h
  split at h
  · rename_i hb
    cases h
    exact eq_cons_of_head? hb
  · exact (throw_ok_iff.1 h).elim

lemma colon_ok {u : Unit} (h : colon text = (.ok u, rest)) : behindBlanks text = 58 :: rest := eq_cons_of_advance h

lemma endObject_ok {u : Unit} (h : endObject text = (.ok u, rest)) : behindBlanks text = 125 :: rest :=
  eq_cons_of_advance h

lemma endList_ok {u : Unit} (h : endList text = (.ok u, rest)) : behindBlanks text = 93 :: rest := by
  rw [endList, peek_bind] at h
  split at h
  · rename_i hc
    cases h
    exact eq_cons_of_head? hc
  · dsimp only at h
    split at h
    · simp [advance_bind, peek_bind, throw_ok_iff] at h
    · exact (throw_ok_iff.1 h).elim

theorem isSound_variant {ofName? : String → Option α} :
    IsSound (variant ofName?) fun a t => ∃ name, ofName? name = some a ∧ t.Names name := by
  intro text rest a h
  rw [variant, peek_bind] at h
  split at h
  · rename_i hb
    simp only [advance_bind, bind_ok_iff] at h
    obtain ⟨a', mid, hnamed, _, value, hcolon, _, behind, hnull, _, _, hend, h⟩ := h
    obtain ⟨rfl, rfl⟩ := pure_ok_iff.1 h
    obtain ⟨_, ht, name, ha, body, rfl, hs⟩ := isSound_named hnamed
    refine ⟨.object [(body, .literal .null)], .object (eq_cons_of_head? hb) ?_, name, ha, .inr ⟨body, rfl, hs⟩⟩
    cases ht with
    | string he hbody =>
      exact .member rfl ⟨_, _, he, rfl, hbody, colon_ok hcolon⟩ (null_ok hnull) (.endMembers (endObject_ok hend))
  · split at h
    · obtain ⟨t, ht, name, ha, hs⟩ := isSound_named h
      exact ⟨t, ht.of_behindBlanks, name, ha, .inl hs⟩
    · exact (throw_ok_iff.1 h).elim

/-! ## Lists -/

lemma closedBy_eq_ok {inside : Reader α} {close : Reader Unit} {a : α}
    (h : closedBy inside close text = (.ok a, rest)) :
    ∃ mid, inside text = (.ok a, mid) ∧ close mid = (.ok (), rest) := by
  unfold closedBy at h
  split at h
  · rename_i a' mid hinside
    split at h
    · rename_i hclose
      cases h
      exact ⟨mid, hinside, hclose⟩
    · cases h
  · cases h

/-- Either the closing bracket is next, or an item is, whose comma has been taken. -/
lemma hasItem_ok {isFirst more : Bool} (h : hasItem isFirst text = (.ok more, rest)) :
    (more = false ∧ behindBlanks text = 93 :: rest.tail ∧ rest = 93 :: rest.tail) ∨
      (more = true ∧ ∃ parted, IsParted isFirst text parted ∧ rest = behindBlanks parted) := by
  rw [hasItem, peek_bind] at h
  cases hb : (behindBlanks text).head? with
  | none =>
    rw [hb] at h
    exact (throw_ok_iff.1 h).elim
  | some b =>
    rw [hb] at h
    dsimp only at h
    split at h
    · rename_i hclose
      obtain ⟨rfl, rfl⟩ := pure_ok_iff.1 h
      rw [hclose] at hb
      exact .inl ⟨rfl, eq_cons_of_head? hb, eq_cons_of_head? hb⟩
    · split at h
      · rename_i hfirst
        obtain ⟨rfl, rfl⟩ := pure_ok_iff.1 h
        exact .inr ⟨rfl, text, by rw [IsParted, if_pos hfirst], rfl⟩
      · rename_i hfirst
        split at h
        · rename_i hcomma
          rw [advance_bind, peek_bind] at h
          cases hb' : (behindBlanks (behindBlanks text).tail).head? with
          | none =>
            rw [hb'] at h
            exact (throw_ok_iff.1 h).elim
          | some b' =>
            rw [hb'] at h
            dsimp only at h
            split at h
            · exact (throw_ok_iff.1 h).elim
            · obtain ⟨rfl, rfl⟩ := pure_ok_iff.1 h
              rw [hcomma] at hb
              exact .inr ⟨rfl, _, by rw [IsParted, if_neg hfirst]; exact eq_cons_of_head? hb, rfl⟩
        · exact (throw_ok_iff.1 h).elim

lemma itemsFrom_ok {item : Reader α} {P : α → Tree → Prop} (hitem : IsSound item P) {fuel : Bytes} {found as : List α}
    (h : itemsFrom item fuel found text = (.ok as, rest)) :
    ∃ as' ts, as = found.reverse ++ as' ∧ List.Forall₂ P as' ts ∧ rest = 93 :: rest.tail ∧
      Stands (.items found.isEmpty ts) text rest.tail := by
  -- the loop has seen no item yet just when it has found none, so `found` tells whether a comma must come first
  induction fuel generalizing found text with
  | nil => exact (throw_ok_iff.1 h).elim
  | cons u fuel ih =>
    rw [itemsFrom, bind_ok_iff] at h
    obtain ⟨more, mid, hmore, h⟩ := h
    rcases hasItem_ok hmore with ⟨rfl, hclose, hmid⟩ | ⟨rfl, parted, hparted, rfl⟩
    · obtain ⟨rfl, rfl⟩ := pure_ok_iff.1 h
      exact ⟨[], [], by simp, .nil, hmid, .endItems hclose⟩
    · obtain ⟨a, behind, ha, htail⟩ := bind_ok_iff.1 h
      obtain ⟨t, ht, hp⟩ := hitem ha
      obtain ⟨as', ts, rfl, hps, hrest, hts⟩ := ih htail
      exact ⟨a :: as', t :: ts, by simp, .cons hp hps, hrest, .item hparted ht.of_behindBlanks hts⟩

lemma eq_of_endList {u : Unit} {behind : Bytes} (h : endList (93 :: behind) = (.ok u, rest)) : rest = behind :=
  (List.cons.inj (endList_ok h)).2.symm

/-- **A list of items of one kind.** -/
theorem isSound_listOf {item : Reader α} {P : α → Tree → Prop} (hitem : IsSound item P) :
    IsSound (listOf item) fun as t => ∃ ts, t = .list ts ∧ List.Forall₂ P as ts := by
  intro text rest as h
  rw [listOf, peek_bind] at h
  split at h
  · rename_i hb
    rw [advance_bind] at h
    obtain ⟨mid, hitems, hclose⟩ := closedBy_eq_ok h
    rw [get_bind] at hitems
    obtain ⟨as', ts, rfl, hps, hmid, hts⟩ := itemsFrom_ok hitem hitems
    rw [hmid] at hclose
    rw [← eq_of_endList hclose] at hts
    exact ⟨.list ts, .list (eq_cons_of_head? hb) hts, ts, rfl, by simpa using hps⟩
  · exact (refuse_ne_ok h).elim

/-! ## Objects -/

/-- Either the closing brace is next, or a key is, behind the comma that parts it. -/
lemma hasMember_ok {isFirst more : Bool} (h : hasMember isFirst text = (.ok more, rest)) :
    (more = false ∧ behindBlanks text = 125 :: rest.tail ∧ rest = 125 :: rest.tail) ∨
      (more = true ∧ ∃ parted, IsParted isFirst text parted ∧ behindBlanks parted = 34 :: rest.tail) := by
  rw [hasMember, peek_bind] at h
  cases hb : (behindBlanks text).head? with
  | none =>
    rw [hb] at h
    exact (throw_ok_iff.1 h).elim
  | some b =>
    rw [hb] at h
    dsimp only at h
    split at h
    · rename_i hclose
      obtain ⟨rfl, rfl⟩ := pure_ok_iff.1 h
      rw [hclose] at hb
      exact .inl ⟨rfl, eq_cons_of_head? hb, eq_cons_of_head? hb⟩
    · -- with a comma in front of it and without one, the quote of a key is looked for in the same way
      have hkey : ∀ {parted : Bytes}, (do
          if (← peek) = some 34 then pure true else throw .malformed : Reader Bool) parted = (.ok more, rest) →
          more = true ∧ behindBlanks parted = 34 :: rest.tail := by
        intro parted hk
        rw [peek_bind] at hk
        split at hk
        · rename_i hq
          obtain ⟨rfl, rfl⟩ := pure_ok_iff.1 hk
          exact ⟨rfl, eq_cons_of_head? hq⟩
        · exact (throw_ok_iff.1 hk).elim
      split at h
      · rename_i hfirst
        split at h
        · rename_i hcomma
          rw [hcomma] at hb
          rw [advance_bind] at h
          obtain ⟨hmore, hq⟩ := hkey h
          refine .inr ⟨hmore, _, ?_, hq⟩
          rw [IsParted, if_neg (by simpa using hfirst)]
          exact eq_cons_of_head? hb
        · obtain ⟨_, _, ht, -⟩ := bind_ok_iff.1 h
          exact (throw_ok_iff.1 ht).elim
      · rename_i hfirst
        obtain ⟨hmore, hq⟩ := hkey h
        refine .inr ⟨hmore, text, ?_, by rwa [behindBlanks_idem] at hq⟩
        rw [IsParted, if_pos (by simpa using hfirst)]

/-- What a reader of members makes of one after another, from one state to another. -/
inductive Folds (Q : String → σ → Tree → σ → Prop) : σ → List (Bytes × Tree) → σ → Prop
  | nil (state : σ) : Folds Q state [] state
  | cons {body : Bytes} {name : String} {t : Tree} {members : List (Bytes × Tree)} {start mid last : σ} :
      Spells body name → Q name start t mid → Folds Q mid members last → Folds Q start ((body, t) :: members) last

/-- A reader of members takes the colon and a value, to which the states before and behind it are related. -/
def IsMemberSound (member : String → σ → Reader σ) (Q : String → σ → Tree → σ → Prop) : Prop :=
  ∀ ⦃name : String⦄ ⦃start last : σ⦄ ⦃text rest : Bytes⦄, member name start text = (.ok last, rest) →
    ∃ value t, behindBlanks text = 58 :: value ∧ Stands (.value t) value rest ∧ Q name start t last

variable {member : String → σ → Reader σ} {Q : String → σ → Tree → σ → Prop}

lemma membersFrom_ok (hmember : IsMemberSound member Q) {fuel : Bytes} {isFirst : Bool} {start last : σ}
    (h : membersFrom member fuel isFirst start text = (.ok last, rest)) :
    ∃ ms, Folds Q start ms last ∧ rest = 125 :: rest.tail ∧ Stands (.members isFirst ms) text rest.tail := by
  induction fuel generalizing isFirst start text with
  | nil => exact (throw_ok_iff.1 h).elim
  | cons u fuel ih =>
    rw [membersFrom, bind_ok_iff] at h
    obtain ⟨more, mid, hmore, h⟩ := h
    rcases hasMember_ok hmore with ⟨rfl, hclose, hmid⟩ | ⟨rfl, parted, hparted, hq⟩
    · obtain ⟨rfl, rfl⟩ := pure_ok_iff.1 h
      exact ⟨[], .nil _, hmid, .endMembers hclose⟩
    · obtain ⟨name, behind, hkey, htail⟩ := bind_ok_iff.1 h
      obtain ⟨state, behind', hstate, htail⟩ := bind_ok_iff.1 htail
      rw [key, advance_bind] at hkey
      obtain ⟨body, hbody, hspells⟩ := stringTail_ok hkey
      obtain ⟨value, t, hcolon, ht, hQ⟩ := hmember hstate
      obtain ⟨ms, hms, hrest, hstands⟩ := ih htail
      exact ⟨(body, t) :: ms, .cons hspells hQ hms, hrest,
        .member hparted ⟨_, _, hq, hbody, hspells.isBody, hcolon⟩ ht hstands⟩

lemma eq_of_endObject {u : Unit} {behind : Bytes} (h : endObject (125 :: behind) = (.ok u, rest)) : rest = behind :=
  (List.cons.inj (endObject_ok h)).2.symm

/-- **An object,** each of whose members a reader takes with its key. -/
theorem isSound_objectOf (hmember : IsMemberSound member Q) (start : σ) :
    IsSound (objectOf member start) fun last t => ∃ ms, t = .object ms ∧ Folds Q start ms last := by
  intro text rest last h
  rw [objectOf, peek_bind] at h
  split at h
  · rename_i hb
    rw [advance_bind] at h
    obtain ⟨mid, hmembers, hclose⟩ := closedBy_eq_ok h
    rw [get_bind] at hmembers
    obtain ⟨ms, hms, hmid, hstands⟩ := membersFrom_ok hmember hmembers
    rw [hmid] at hclose
    rw [← eq_of_endObject hclose] at hstands
    exact ⟨.object ms, .object (eq_cons_of_head? hb) hstands, ms, rfl, hms⟩
  · exact (refuse_ne_ok h).elim

/-! ## Values of any kind -/

lemma scalar_ok {v : Value} (h : scalar (behindBlanks text) = (.ok v, rest)) : ∃ t, Stands (.value t) text rest := by
  rw [scalar, peekByte_bind] at h
  cases hb : (behindBlanks text).head? with
  | none =>
    rw [hb] at h
    exact (throw_ok_iff.1 h).elim
  | some b =>
    have hblank := eq_cons_of_head? hb
    rw [hb] at h
    dsimp only at h
    split at h
    · rename_i hn
      rw [advance_bind, bind_ok_iff] at h
      obtain ⟨_, mid, hl, h⟩ := h
      obtain ⟨-, rfl⟩ := pure_ok_iff.1 h
      obtain ⟨l, -, ht⟩ := literal_stands (by rw [hn]; decide) hb hl
      exact ⟨_, ht⟩
    split at h
    · rename_i hs
      rw [advance_bind, bind_ok_iff] at h
      obtain ⟨_, mid, hl, h⟩ := h
      obtain ⟨-, rfl⟩ := pure_ok_iff.1 h
      obtain ⟨l, -, ht⟩ := literal_stands hs hb hl
      exact ⟨_, ht⟩
    split at h
    · rename_i hminus
      rw [advance_bind, bind_ok_iff] at h
      obtain ⟨k, mid, hk, h⟩ := h
      obtain ⟨-, rfl⟩ := pure_ok_iff.1 h
      obtain ⟨t, ht, -⟩ := number_stands true (by rw [hblank, hminus]; rfl) hk
      exact ⟨t, ht⟩
    split at h
    · obtain ⟨k, mid, hk, htail⟩ := bind_ok_iff.1 h
      obtain ⟨-, rfl⟩ := pure_ok_iff.1 htail
      obtain ⟨t, ht, -⟩ := number_stands false rfl hk
      exact ⟨t, ht⟩
    split at h
    · rename_i hq
      rw [advance_bind, bind_ok_iff] at h
      obtain ⟨s, mid, hs, h⟩ := h
      obtain ⟨-, rfl⟩ := pure_ok_iff.1 h
      obtain ⟨body, htail, hbody⟩ := stringTail_ok hs
      exact ⟨.string body, .string (by rw [hblank, hq, htail]) hbody.isBody⟩
    · exact (throw_ok_iff.1 h).elim

lemma isSound_pairsOf {value : Reader Value} {P : Value → Tree → Prop} (hvalue : IsSound value P) :
    IsSound (pairsOf value) fun _ t => ∃ ms, t = .object ms := by
  have hmember : IsMemberSound (fun name found => do
      colon
      let v ← value
      pure ((name, v) :: found)) fun _ _ _ _ => True := by
    intro name start last text rest h
    obtain ⟨_, mid, hcolon, htail⟩ := bind_ok_iff.1 h
    obtain ⟨v, behind, hv, hpure⟩ := bind_ok_iff.1 htail
    obtain ⟨-, rfl⟩ := pure_ok_iff.1 hpure
    obtain ⟨t, ht, -⟩ := hvalue hv
    exact ⟨mid, t, colon_ok hcolon, ht, trivial⟩
  intro text rest found h
  obtain ⟨last, mid, hlast, hpure⟩ := bind_ok_iff.1 h
  obtain ⟨-, rfl⟩ := pure_ok_iff.1 hpure
  obtain ⟨t, ht, ms, rfl, -⟩ := isSound_objectOf hmember [] hlast
  exact ⟨_, ht, ms, rfl⟩

/-- **A value of any kind.** -/
theorem isSound_value (nesting : Nat) : IsSound (value nesting) fun _ _ => True := by
  induction nesting with
  | zero =>
    intro text rest v h
    rw [value, peek_bind] at h
    split at h
    · exact (throw_ok_iff.1 h).elim
    · obtain ⟨t, ht⟩ := scalar_ok h
      exact ⟨t, ht, trivial⟩
  | succ nesting ih =>
    intro text rest v h
    rw [value, peek_bind] at h
    split at h
    · obtain ⟨_, mid, hlist, htail⟩ := bind_ok_iff.1 h
      obtain ⟨-, rfl⟩ := pure_ok_iff.1 htail
      obtain ⟨t, ht, -⟩ := isSound_listOf ih hlist
      exact ⟨t, ht.of_behindBlanks, trivial⟩
    split at h
    · obtain ⟨_, mid, hpairs, htail⟩ := bind_ok_iff.1 h
      obtain ⟨-, rfl⟩ := pure_ok_iff.1 htail
      obtain ⟨t, ht, -⟩ := isSound_pairsOf ih hpairs
      exact ⟨t, ht.of_behindBlanks, trivial⟩
    · obtain ⟨t, ht⟩ := scalar_ok h
      exact ⟨t, ht, trivial⟩

end Reader

end Gatehouse.Json
