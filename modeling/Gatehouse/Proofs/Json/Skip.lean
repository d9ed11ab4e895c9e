import Gatehouse.Proofs.Json.Sound

/-!
# What is skipped is JSON

Skipping a value follows the open brackets on a stack, where the grammar follows the tree.

* `Closes` — what the open brackets still ask for behind a value;
* `skipFrom_ok` — what is due is taken: a value first, if one is, and then all that the open brackets ask for;
* `isSound_skip` — **what is skipped is a value,** however deep.
-/

namespace Gatehouse.Json

variable {text rest : Bytes}

/-! ## Brackets -/

/-- What the open brackets still ask for behind a value, innermost first: items or members up to the closing
bracket. -/
def Closes : List Bracket → (text rest : Bytes) → Prop
  | [], text, rest => text = rest
  | .list :: brackets, text, rest => ∃ ts mid, Stands (.items false ts) text mid ∧ Closes brackets mid rest
  | .object :: brackets, text, rest => ∃ ms mid, Stands (.members false ms) text mid ∧ Closes brackets mid rest

/-- The key of a member in an object, nothing in a list. -/
def IsKeyIn : Bracket → (text rest : Bytes) → Prop
  | .list, text, rest => text = rest
  | .object, text, rest => ∃ body, IsKey text body rest

variable {bracket : Bracket} {brackets : List Bracket} {u : Unit}

lemma skipKey_ok (h : skipKey bracket text = (.ok u, rest)) : IsKeyIn bracket text rest := by
  cases bracket with
  | list => exact (Reader.pure_ok_iff.1 h).2
  | object =>
    rw [skipKey, peek_bind, Reader.bind_ok_iff] at h
    obtain ⟨_, quoted, hquote, h⟩ := h
    rw [Reader.get_bind, Reader.bind_ok_iff] at h
    obtain ⟨_, behind, hskip, h⟩ := h
    rw [peek_bind] at h
    obtain ⟨body, hbody, hisBody⟩ := skipString_ok hskip
    exact ⟨body, quoted, behind, expect_ok_iff.1 hquote, hbody, hisBody, expect_ok_iff.1 h⟩

lemma Closes.close {mid : Bytes} (hclose : behindBlanks text = bracket.close :: mid) (h : Closes brackets mid rest) :
    Closes (bracket :: brackets) text rest := by
  cases bracket with
  | list => exact ⟨[], mid, .endItems hclose, h⟩
  | object => exact ⟨[], mid, .endMembers hclose, h⟩

lemma Closes.next {parted value mid : Bytes} {t : Tree} (hcomma : behindBlanks text = 44 :: parted)
    (hkey : IsKeyIn bracket parted value) (ht : Stands (.value t) value mid)
    (h : Closes (bracket :: brackets) mid rest) : Closes (bracket :: brackets) text rest := by
  cases bracket with
  | list =>
    obtain ⟨ts, mid', hts, hrest⟩ := h
    cases hkey
    exact ⟨t :: ts, mid', .item hcomma ht hts, hrest⟩
  | object =>
    obtain ⟨ms, mid', hms, hrest⟩ := h
    obtain ⟨body, hbody⟩ := hkey
    exact ⟨(body, t) :: ms, mid', .member hcomma hbody ht hms, hrest⟩

def Bracket.opening : Bracket → UInt8
  | list => 91
  | object => 123

lemma exists_stands_empty {inside : Bytes} (hopen : behindBlanks text = bracket.opening :: inside)
    (hclose : behindBlanks inside = bracket.close :: rest) : ∃ t, Stands (.value t) text rest := by
  cases bracket with
  | list => exact ⟨.list [], .list hopen (.endItems hclose)⟩
  | object => exact ⟨.object [], .object hopen (.endMembers hclose)⟩

/-- A bracket with an item or a member is a value where it is closed. -/
lemma exists_stands_bracket {inside value mid : Bytes} {t : Tree}
    (hopen : behindBlanks text = bracket.opening :: inside) (hkey : IsKeyIn bracket (behindBlanks inside) value)
    (ht : Stands (.value t) value mid) (h : Closes (bracket :: brackets) mid rest) :
    ∃ t mid', Stands (.value t) text mid' ∧ Closes brackets mid' rest := by
  cases bracket with
  | list =>
    obtain ⟨ts, mid', hts, hrest⟩ := h
    cases hkey
    exact ⟨.list (t :: ts), mid', .list hopen (.item rfl ht.of_behindBlanks hts), hrest⟩
  | object =>
    obtain ⟨ms, mid', hms, hrest⟩ := h
    obtain ⟨body, quoted, behind, hq, hbody⟩ := hkey
    rw [behindBlanks_idem] at hq
    exact ⟨.object ((body, t) :: ms), mid', .object hopen (.member rfl ⟨quoted, behind, hq, hbody⟩ ht hms), hrest⟩

/-! ## The loop -/

lemma skipStart_ok {o : Option Bracket} (h : skipStart text = (.ok o, rest)) :
    (∃ bracket, o = some bracket ∧ behindBlanks text = bracket.opening :: rest) ∨
      (o = none ∧ ∃ t, Stands (.value t) text rest) := by
  rw [skipStart, peek_bind] at h
  cases hb : (behindBlanks text).head? with
  | none =>
    rw [hb] at h
    exact (Reader.throw_ok_iff.1 h).elim
  | some b =>
    have hblank := eq_cons_of_head? hb
    rw [hb] at h
    dsimp only at h
    split at h
    · obtain ⟨_, mid, hk, hpure⟩ := Reader.bind_ok_iff.1 h
      obtain ⟨rfl, rfl⟩ := Reader.pure_ok_iff.1 hpure
      obtain ⟨m, hsign, hm⟩ := skipNumber_ok hk false
      exact .inr ⟨rfl, .number m, .number (.positive hsign hm)⟩
    rw [advance_bind] at h
    split at h
    · rename_i hopen
      obtain ⟨rfl, rfl⟩ := Reader.pure_ok_iff.1 h
      exact .inl ⟨.list, rfl, by rw [hblank, hopen]; rfl⟩
    split at h
    · rename_i hopen
      obtain ⟨rfl, rfl⟩ := Reader.pure_ok_iff.1 h
      exact .inl ⟨.object, rfl, by rw [hblank, hopen]; rfl⟩
    split at h
    · rename_i hs
      obtain ⟨_, mid, hl, hpure⟩ := Reader.bind_ok_iff.1 h
      obtain ⟨rfl, rfl⟩ := Reader.pure_ok_iff.1 hpure
      obtain ⟨l, -, ht⟩ := literal_stands hs hb hl
      exact .inr ⟨rfl, _, ht⟩
    split at h
    · rename_i hq
      rw [Reader.get_bind] at h
      obtain ⟨_, mid, hskip, hpure⟩ := Reader.bind_ok_iff.1 h
      obtain ⟨rfl, rfl⟩ := Reader.pure_ok_iff.1 hpure
      obtain ⟨body, hbody, hisBody⟩ := skipString_ok hskip
      exact .inr ⟨rfl, .string body, .string (by rw [hblank, hq, hbody]) hisBody⟩
    split at h
    · rename_i hminus
      obtain ⟨_, mid, hk, hpure⟩ := Reader.bind_ok_iff.1 h
      obtain ⟨rfl, rfl⟩ := Reader.pure_ok_iff.1 hpure
      obtain ⟨m, hsign, hm⟩ := skipNumber_ok hk true
      exact .inr ⟨rfl, .number m, .number (.negative (hminus ▸ hblank) hsign hm)⟩
    · obtain ⟨_, _, hthrow, -⟩ := Reader.bind_ok_iff.1 h
      exact (Reader.throw_ok_iff.1 hthrow).elim

lemma skipOpening_ok {more : Bool} (h : skipOpening bracket text = (.ok more, rest)) :
    (more = false ∧ behindBlanks text = bracket.close :: rest) ∨
      (more = true ∧ IsKeyIn bracket (behindBlanks text) rest) := by
  rw [skipOpening, peek_bind] at h
  split at h
  · rename_i hclose
    rw [advance_bind] at h
    obtain ⟨rfl, rfl⟩ := Reader.pure_ok_iff.1 h
    exact .inl ⟨rfl, eq_cons_of_head? hclose⟩
  · obtain ⟨_, mid, hkey, hpure⟩ := Reader.bind_ok_iff.1 h
    obtain ⟨rfl, rfl⟩ := Reader.pure_ok_iff.1 hpure
    exact .inr ⟨rfl, skipKey_ok hkey⟩

/-- What is due is taken: a value first, if one is, and then all that the open brackets ask for. -/
lemma skipFrom_ok {fuel : Bytes} {isDue : Bool} (h : skipFrom fuel isDue brackets text = (.ok u, rest)) :
    if isDue then ∃ t mid, Stands (.value t) text mid ∧ Closes brackets mid rest else Closes brackets text rest := by
  induction fuel generalizing isDue brackets text with
  | nil => exact (Reader.throw_ok_iff.1 h).elim
  | cons _ fuel ih =>
    -- behind a value, either no bracket is open or the loop goes on
    have hend : ∀ {brackets : List Bracket} {text : Bytes},
        (if brackets.isEmpty then pure () else skipFrom fuel false brackets : Reader Unit) text = (.ok u, rest) →
        Closes brackets text rest := by
      intro brackets text h
      cases brackets with
      | nil => exact (Reader.pure_ok_iff.1 h).2
      | cons => simpa using ih h
    cases isDue with
    | true =>
      rw [if_pos rfl]
      rw [skipFrom, Reader.bind_ok_iff] at h
      obtain ⟨o, mid, hstart, h⟩ := h
      rcases skipStart_ok hstart with ⟨bracket, rfl, hopen⟩ | ⟨rfl, t, ht⟩
      · obtain ⟨more, behind, hmore, h⟩ := Reader.bind_ok_iff.1 h
        rcases skipOpening_ok hmore with ⟨rfl, hclose⟩ | ⟨rfl, hkey⟩
        · obtain ⟨t, ht⟩ := exists_stands_empty hopen hclose
          exact ⟨t, behind, ht, hend h⟩
        · obtain ⟨t, mid', ht, hcloses⟩ := by simpa using ih h
          exact exists_stands_bracket hopen hkey ht hcloses
      · exact ⟨t, mid, ht, hend h⟩
    | false =>
      cases brackets with
      | nil => exact (Reader.pure_ok_iff.1 h).2
      | cons bracket brackets =>
        rw [skipFrom, peek_bind, advance_bind] at h
        split at h
        · rename_i hcomma
          obtain ⟨_, mid, hkey, h⟩ := Reader.bind_ok_iff.1 h
          obtain ⟨t, mid', ht, hcloses⟩ := by simpa using ih h
          exact .next (eq_cons_of_head? hcomma) (skipKey_ok hkey) ht hcloses
        split at h
        · rename_i hclose
          exact .close (eq_cons_of_head? hclose) (hend h)
        · exact (Reader.throw_ok_iff.1 h).elim

/-- **What is skipped is a value,** however deep. -/
theorem isSound_skip : Reader.IsSound skip fun _ _ => True := by
  intro text rest u h
  rw [skip, Reader.get_bind] at h
  obtain ⟨t, mid, ht, rfl⟩ := skipFrom_ok h
  exact ⟨t, ht, trivial⟩

end Gatehouse.Json
