import Gatehouse.Moment.Rfc3339
import Gatehouse.Proofs.Bytes
import Gatehouse.Proofs.Moment.Calendar
import Gatehouse.Proofs.Text.Integer
import Mathlib.Data.List.DropRight
import Mathlib.Data.Nat.Digits.Defs

/-!
# RFC 3339 text both ways

* `Piece.Parses`, `Piece.Gives` — what a piece takes off the front of any text, and what it can give at all;
* `parses_padded`, `fractionPiece_fraction` — numbers of a fixed width and fractions are read back;
* `parses_date`, `parses_clock`, `parses_offset` — and so are dates, times of day and offsets;
* `Moment.IsCivil` — the moments that have a text: a year of four digits, an offset in minutes under a day;
* `ofRfc3339?_toRfc3339`, `isCivil_of_ofRfc3339?` — a written moment is read back, and only such moments are read.
-/

namespace Gatehouse.Moment

open Text (IsDigits)

namespace Piece

variable {α β : Type} {p : Piece α} {f : α → Piece β}

/-! ## Pieces of a text -/

/-- A piece takes what was written off the front of a text, whatever stands behind it. -/
def Parses (p : Piece α) (written : List Char) (a : α) : Prop :=
  ∀ rest, p (asciiBytes written ++ rest) = some (a, rest)

/-- Whatever a piece gives is of a kind. -/
def Gives (p : Piece α) (P : α → Prop) : Prop := ∀ ⦃text rest : Bytes⦄ ⦃a : α⦄, p text = some (a, rest) → P a

lemma bind_eq (p : Piece α) (f : α → Piece β) (text : Bytes) :
    (p >>= f) text = (p text).bind fun r => f r.1 r.2 := rfl

lemma bind_some_iff {text rest : Bytes} {b : β} :
    (p >>= f) text = some (b, rest) ↔ ∃ a mid, p text = some (a, mid) ∧ f a mid = some (b, rest) := by
  rw [bind_eq, Option.bind_eq_some_iff]
  constructor
  · rintro ⟨⟨a, mid⟩, hp, hf⟩
    exact ⟨a, mid, hp, hf⟩
  · rintro ⟨a, mid, hp, hf⟩
    exact ⟨⟨a, mid⟩, hp, hf⟩

lemma pure_some_iff {a a' : α} {text rest : Bytes} :
    (pure a : Piece α) text = some (a', rest) ↔ a = a' ∧ text = rest := by
  show some (a, text) = _ ↔ _
  simp

lemma guard_some_iff {c : Prop} [Decidable c] {text rest : Bytes} {u : Unit} :
    (guard c : Piece Unit) text = some (u, rest) ↔ c ∧ text = rest := by
  by_cases hc : c
  · rw [guard, if_pos hc, pure_some_iff]
    simp [hc]
  · rw [guard, if_neg hc]
    show none = _ ↔ _
    simp [hc]

lemma Parses.bind_eq {written : List Char} {a : α} (h : Parses p written a) (rest : Bytes) :
    (p >>= f) (asciiBytes written ++ rest) = f a rest := by
  rw [Piece.bind_eq, h rest]
  rfl

lemma asciiBytes_append (cs ds : List Char) : asciiBytes (cs ++ ds) = asciiBytes cs ++ asciiBytes ds := List.map_append

lemma Parses.bind {written behind : List Char} {a : α} {b : β} (h : Parses p written a) (hf : Parses (f a) behind b) :
    Parses (p >>= f) (written ++ behind) b := by
  intro rest
  rw [asciiBytes_append, List.append_assoc, h.bind_eq]
  exact hf rest

lemma parses_pure (a : α) : Parses (pure a) [] a := fun _ => rfl

lemma parses_guard {c : Prop} [Decidable c] (h : c) : Parses (guard c) [] () :=
  fun _ => guard_some_iff.2 ⟨h, rfl⟩

lemma parses_nextByte (c : Char) : Parses nextByte [c] (UInt8.ofNat c.toNat) := fun _ => rfl

lemma parses_mark {c : Char} (h : c.toNat < 128) : Parses (mark c) [c] () := by
  apply Parses.bind (parses_nextByte c)
  apply parses_guard
  rw [UInt8.toNat_ofNat']
  omega

end Piece

open Piece

/-! ## Numbers -/

lemma digitValue?_digitChar {d : Nat} (hd : d < 10) : digitValue? (UInt8.ofNat (Nat.digitChar d).toNat) = some d := by
  have hcode : (Nat.digitChar d).toNat = d + 48 := by
    rw [Nat.toNat_digitChar_of_lt_ten hd]
    omega
  have hbyte : (UInt8.ofNat (d + 48)).toNat = d + 48 := by
    rw [UInt8.toNat_ofNat']
    omega
  have hdigit : (48 ≤ UInt8.ofNat (d + 48) && UInt8.ofNat (d + 48) ≤ 57) = true := by
    rw [Bool.and_eq_true, decide_eq_true_eq, decide_eq_true_eq, UInt8.le_iff_toNat_le, UInt8.le_iff_toNat_le, hbyte]
    exact ⟨Nat.le_add_left 48 d, Nat.add_le_add_right (Nat.le_of_lt_succ hd) 48⟩
  rw [digitValue?, hcode, if_pos hdigit, hbyte, Nat.add_sub_cancel]

/-- **Digits are read** as the number that they make up. -/
lemma parses_digits {ds : List Char} (h : ∀ c ∈ ds, c.isDigit = true) :
    Parses (digits ds.length) ds (Nat.ofDigitChars 10 ds 0) := by
  -- a reader of digits asks for the last one last
  induction ds using List.reverseRecOn with
  | nil => exact parses_pure 0
  | append_singleton ds c ih =>
    obtain ⟨d, hd, rfl⟩ := Text.exists_digitChar (h c (by simp))
    have hfront := ih fun c hc => h c (List.mem_append_left _ hc)
    have hlast : Parses (do
        let low ← (digitValue? (← nextByte) : Option Nat)
        pure (10 * Nat.ofDigitChars 10 ds 0 + low)) [Nat.digitChar d] (10 * Nat.ofDigitChars 10 ds 0 + d) := by
      intro rest
      rw [(parses_nextByte (Nat.digitChar d)).bind_eq, digitValue?_digitChar hd]
      rfl
    rw [List.length_append, List.length_singleton, Nat.ofDigitChars_append,
      Nat.ofDigitChars_cons_digitChar_of_lt_ten hd, Nat.ofDigitChars_nil]
    exact hfront.bind hlast

lemma padded_spec {width n : Nat} (hwidth : 0 < width) (h : n < 10 ^ width) :
    (padded width n).length = width ∧ (∀ c ∈ padded width n, c.isDigit = true) ∧
      Nat.ofDigitChars 10 (padded width n) 0 = n := by
  have hlength := Nat.toDigits_length 10 n width hwidth h
  refine ⟨?_, ?_, ?_⟩
  · unfold padded
    rw [List.length_append, List.length_replicate]
    omega
  · intro c hc
    rcases List.mem_append.1 hc with hzero | hdigit
    · rw [(List.mem_replicate.1 hzero).2]
      decide
    · exact Text.isDigit_of_mem_toDigits hdigit
  · unfold padded
    rw [Nat.ofDigitChars_append, Nat.ofDigitChars_replicate_zero]
    simp

lemma parses_padded {width n : Nat} (hwidth : 0 < width) (h : n < 10 ^ width) :
    Parses (digits width) (padded width n) n := by
  obtain ⟨hlength, hdigits, hvalue⟩ := padded_spec hwidth h
  have hparses := parses_digits hdigits
  rwa [hlength, hvalue] at hparses

lemma gives_digits (width : Nat) : Gives (digits width) (· < 10 ^ width) := by
  induction width with
  | zero =>
    intro text rest n h
    obtain ⟨rfl, -⟩ := pure_some_iff.1 h
    exact Nat.one_pos
  | succ width ih =>
    intro text rest n h
    obtain ⟨high, mid, hhigh, h⟩ := bind_some_iff.1 h
    obtain ⟨b, behind, -, h⟩ := bind_some_iff.1 h
    obtain ⟨low, behind', hlow, h⟩ := bind_some_iff.1 h
    obtain ⟨rfl, -⟩ := pure_some_iff.1 h
    have hbound := ih hhigh
    have hdigit : low < 10 := by
      have hvalue : digitValue? b = some low := by
        cases hv : digitValue? b with
        | none =>
          rw [hv] at hlow
          cases hlow
        | some d =>
          rw [hv] at hlow
          cases hlow
          rfl
      unfold digitValue? at hvalue
      split at hvalue
      · next hb =>
        have hb : 48 ≤ b.toNat ∧ b.toNat ≤ 57 := by simpa [UInt8.le_iff_toNat_le] using hb
        cases hvalue
        omega
      · cases hvalue
    rw [Nat.pow_succ]
    omega

/-! ## Fractions -/

/-- What may stand behind a fraction of a second: nothing that could belong to it. -/
def EndsFraction (rest : Bytes) : Prop := ∀ b ∈ rest.head?, digitValue? b = none ∧ b ≠ 46

/-- **The digits of a fraction count** as if they were followed by zeros. -/
lemma nanosOf_digits {ds : List Char} (h : ∀ c ∈ ds, c.isDigit = true) {places : Nat} (hplaces : ds.length ≤ places)
    {rest : Bytes} (hrest : EndsFraction rest) : nanosOf (10 ^ places / 10) (asciiBytes ds ++ rest) =
      (Nat.ofDigitChars 10 (ds ++ List.replicate (places - ds.length) '0') 0, rest) := by
  induction ds generalizing places with
  | nil =>
    have hnone : nanosOf (10 ^ places / 10) rest = (0, rest) := by
      rcases rest with _ | ⟨b, rest⟩
      · rfl
      · rw [nanosOf, (hrest b rfl).1]
    rw [List.nil_append, Nat.ofDigitChars_replicate_zero]
    simpa [asciiBytes] using hnone
  | cons c ds ih =>
    obtain ⟨hc, hds⟩ := List.forall_mem_cons.1 h
    obtain ⟨d, hd, rfl⟩ := Text.exists_digitChar hc
    obtain ⟨places, rfl⟩ : ∃ k, places = k + 1 := ⟨places - 1, by simp at hplaces; omega⟩
    have hplaces : ds.length ≤ places := by simpa using hplaces
    have hvalue : Nat.ofDigitChars 10 (ds ++ List.replicate (places - ds.length) '0') d =
        d * 10 ^ places + Nat.ofDigitChars 10 (ds ++ List.replicate (places - ds.length) '0') 0 := by
      rw [Nat.ofDigitChars_eq_ofDigitChars_zero, List.length_append, List.length_replicate,
        Nat.add_sub_cancel' hplaces, Nat.mul_comm]
    have hbytes : asciiBytes (Nat.digitChar d :: ds) ++ rest =
        UInt8.ofNat (Nat.digitChar d).toNat :: (asciiBytes ds ++ rest) := rfl
    rw [hbytes, nanosOf, digitValue?_digitChar hd]
    dsimp only
    rw [Nat.pow_succ, Nat.mul_div_cancel _ (by decide), ih hds hplaces, List.cons_append, List.length_cons,
      Nat.add_sub_add_right, Nat.ofDigitChars_cons_digitChar_of_lt_ten hd, Nat.mul_zero, Nat.zero_add, hvalue]

/-- The digits of a fraction that are written, and the zeros that are left out. -/
lemma exists_fraction {nanos : Nat} (hpos : nanos ≠ 0) (h : nanos < 10 ^ 9) : ∃ ds : List Char,
    fraction nanos = '.' :: ds ∧ ds ≠ [] ∧ ds.length ≤ 9 ∧ (∀ c ∈ ds, c.isDigit = true) ∧
      Nat.ofDigitChars 10 (ds ++ List.replicate (9 - ds.length) '0') 0 = nanos := by
  obtain ⟨hlength, hdigits, hvalue⟩ := padded_spec (by decide) h
  have hparts : (padded 9 nanos).rdropWhile (· == '0') ++ (padded 9 nanos).rtakeWhile (· == '0') = padded 9 nanos :=
    List.rdropWhile_append_rtakeWhile
  have hzeros : ∀ c ∈ (padded 9 nanos).rtakeWhile (· == '0'), c = '0' := by
    intro c hc
    simpa using List.mem_rtakeWhile_imp hc
  have hsum := congrArg List.length hparts
  rw [List.length_append, hlength] at hsum
  rw [List.eq_replicate_iff.2 ⟨rfl, hzeros⟩,
    show ((padded 9 nanos).rtakeWhile (· == '0')).length = 9 - ((padded 9 nanos).rdropWhile (· == '0')).length from by
      omega] at hparts
  refine ⟨(padded 9 nanos).rdropWhile (· == '0'), ?_, ?_, by omega, ?_, ?_⟩
  · rw [fraction, if_neg hpos]
    rfl
  · intro hnil
    rw [← hvalue, ← hparts, hnil, List.nil_append, Nat.ofDigitChars_replicate_zero] at hpos
    simp at hpos
  · intro c hc
    exact hdigits c ((List.rdropWhile_prefix _ _).subset hc)
  · rw [hparts, hvalue]

/-- **A fraction of a second is read back.** -/
theorem fractionPiece_fraction {nanos : Nat} (h : nanos < 10 ^ 9) {rest : Bytes} (hrest : EndsFraction rest) :
    fractionPiece (asciiBytes (fraction nanos) ++ rest) = some (nanos, rest) := by
  by_cases hzero : nanos = 0
  · rw [hzero]
    show fractionPiece rest = _
    unfold fractionPiece
    split
    · exact absurd rfl (hrest 46 rfl).2
    · rfl
  · obtain ⟨ds, htext, hne, hlength, hdigits, hvalue⟩ := exists_fraction hzero h
    obtain ⟨c, ds, rfl⟩ := List.exists_cons_of_ne_nil hne
    obtain ⟨d, hd, rfl⟩ := Text.exists_digitChar (hdigits c List.mem_cons_self)
    have hnanos := nanosOf_digits hdigits hlength hrest
    rw [hvalue] at hnanos
    have hdigit : (digitValue? (UInt8.ofNat (Nat.digitChar d).toNat)).isSome = true := by
      rw [digitValue?_digitChar hd]
      rfl
    rw [htext]
    exact (if_pos hdigit).trans (congrArg some hnanos)

/-! ## Dates, times of day and offsets -/

def dateText (d : Date) : List Char := padded 4 d.year.toNat ++ '-' :: padded 2 d.month ++ '-' :: padded 2 d.day

/-- **A date is read back.** -/
lemma parses_date {d : Date} (h : d.IsValid) (hlow : 0 ≤ d.year) (hhigh : d.year ≤ 9999) :
    Parses datePiece (dateText d) d := by
  have hmonths := h.month_le
  have hdays := h.day_le_31
  have hyear : Parses (digits 4) (padded 4 d.year.toNat) d.year.toNat := parses_padded (by decide) (by omega)
  have hmonth : Parses (digits 2) (padded 2 d.month) d.month := parses_padded (by decide) (by omega)
  have hday : Parses (digits 2) (padded 2 d.day) d.day := parses_padded (by decide) (by omega)
  have hdash : Parses (mark '-') ['-'] () := parses_mark (by decide)
  have hcast : (d.year.toNat : Int) = d.year := Int.toNat_of_nonneg hlow
  have hdate : Parses (do
      guard (1 ≤ d.month ∧ d.month ≤ 12 ∧ 1 ≤ d.day ∧ d.day ≤ Date.monthLength (d.year.toNat : Int) d.month)
      pure ⟨(d.year.toNat : Int), d.month, d.day⟩) ([] ++ []) d := by
    rw [hcast]
    exact (parses_guard ⟨h.one_le_month, h.month_le, h.one_le_day, h.day_le⟩).bind (parses_pure d)
  have hall : Parses datePiece (padded 4 d.year.toNat ++ (['-'] ++ (padded 2 d.month ++ (['-'] ++
      (padded 2 d.day ++ ([] ++ [])))))) d :=
    hyear.bind (hdash.bind (hmonth.bind (hdash.bind (hday.bind hdate))))
  simpa [dateText] using hall

/-- **A time of day is read back.** -/
lemma parses_clock {second : Nat} (h : second < 86400) : Parses clockPiece (clockText second) (second, false) := by
  have hhour : Parses (digits 2) (padded 2 (second / 3600)) (second / 3600) := parses_padded (by decide) (by omega)
  have hminute : Parses (digits 2) (padded 2 (second / 60 % 60)) (second / 60 % 60) :=
    parses_padded (by decide) (by omega)
  have hsecond : Parses (digits 2) (padded 2 (second % 60)) (second % 60) := parses_padded (by decide) (by omega)
  have hcolon : Parses (mark ':') [':'] () := parses_mark (by decide)
  have hsum : second / 3600 * 3600 + second / 60 % 60 * 60 + min (second % 60) 59 = second := by omega
  have hleap : (second % 60 == 60) = false := by
    rw [beq_eq_false_iff_ne]
    omega
  have hclock : Parses (do
      guard (second / 3600 ≤ 23 ∧ second / 60 % 60 ≤ 59 ∧ second % 60 ≤ 60)
      pure (second / 3600 * 3600 + second / 60 % 60 * 60 + min (second % 60) 59, second % 60 == 60)) ([] ++ [])
      (second, false) := by
    rw [hsum, hleap]
    exact (parses_guard (by omega)).bind (parses_pure _)
  have hall : Parses clockPiece (padded 2 (second / 3600) ++ ([':'] ++ (padded 2 (second / 60 % 60) ++ ([':'] ++
      (padded 2 (second % 60) ++ ([] ++ [])))))) (second, false) :=
    hhour.bind (hcolon.bind (hminute.bind (hcolon.bind (hsecond.bind hclock))))
  simpa [clockText] using hall

lemma parses_hoursMinutes {offset : Nat} (hlt : offset < 24 * 3600) (hminutes : offset % 60 = 0) (sign : UInt8) :
    Parses (do
      let hour ← digits 2
      mark ':'
      let minute ← digits 2
      guard (hour ≤ 23 ∧ minute ≤ 59)
      let seconds : Int := hour * 3600 + minute * 60
      pure (if sign = 45 then -seconds else seconds))
      (padded 2 (offset / 60 / 60) ++ ':' :: padded 2 (offset / 60 % 60))
      (if sign = 45 then -(offset : Int) else offset) := by
  have hhour : Parses (digits 2) (padded 2 (offset / 60 / 60)) (offset / 60 / 60) :=
    parses_padded (by decide) (by omega)
  have hminute : Parses (digits 2) (padded 2 (offset / 60 % 60)) (offset / 60 % 60) :=
    parses_padded (by decide) (by omega)
  have hcolon : Parses (mark ':') [':'] () := parses_mark (by decide)
  have hsum : ((offset / 60 / 60 : Nat) : Int) * 3600 + ((offset / 60 % 60 : Nat) : Int) * 60 = offset := by omega
  have hrest : Parses (do
      guard (offset / 60 / 60 ≤ 23 ∧ offset / 60 % 60 ≤ 59)
      let seconds : Int := ((offset / 60 / 60 : Nat) : Int) * 3600 + ((offset / 60 % 60 : Nat) : Int) * 60
      pure (if sign = 45 then -seconds else seconds)) ([] ++ []) (if sign = 45 then -(offset : Int) else offset) := by
    rw [hsum]
    exact (parses_guard (by omega)).bind (parses_pure _)
  have hparts : padded 2 (offset / 60 / 60) ++ ':' :: padded 2 (offset / 60 % 60) =
      padded 2 (offset / 60 / 60) ++ ([':'] ++ (padded 2 (offset / 60 % 60) ++ ([] ++ []))) := by simp
  rw [hparts]
  exact hhour.bind (hcolon.bind (hminute.bind hrest))

/-- **An offset in minutes is read back.** -/
lemma parses_offset {offset : Int} (hlt : offset.natAbs < 24 * 3600) (hminutes : offset % 60 = 0) :
    Parses offsetPiece (offsetText offset) offset := by
  have hbody := parses_hoursMinutes hlt (show offset.natAbs % 60 = 0 by omega)
  by_cases hzero : offset = 0
  · rw [hzero]
    exact fun _ => rfl
  · rw [offsetText, if_neg hzero]
    by_cases hneg : offset < 0
    · have hvalue : -(offset.natAbs : Int) = offset := by omega
      have hminus : Parses offsetPiece (['-'] ++ ([] ++ _)) (-(offset.natAbs : Int)) :=
        (parses_nextByte '-').bind ((parses_guard (.inr rfl)).bind (hbody 45))
      rw [hvalue] at hminus
      rw [if_pos hneg]
      exact hminus
    · have hvalue : (offset.natAbs : Int) = offset := by omega
      have hplus : Parses offsetPiece (['+'] ++ ([] ++ _)) (offset.natAbs : Int) :=
        (parses_nextByte '+').bind ((parses_guard (.inl rfl)).bind (hbody 43))
      rw [hvalue] at hplus
      rw [if_neg hneg]
      exact hplus

lemma endsFraction_offset (offset : Int) : EndsFraction (asciiBytes (offsetText offset)) := by
  unfold offsetText
  split
  · rintro _ ⟨⟩
    decide
  · dsimp only
    split <;> (rintro _ ⟨⟩; decide)

lemma gives_date : Gives datePiece fun d => d.IsValid ∧ 0 ≤ d.year ∧ d.year ≤ 9999 := by
  intro text rest d h
  obtain ⟨year, mid, hyear, h⟩ := bind_some_iff.1 h
  obtain ⟨_, mid, -, h⟩ := bind_some_iff.1 h
  obtain ⟨month, mid, -, h⟩ := bind_some_iff.1 h
  obtain ⟨_, mid, -, h⟩ := bind_some_iff.1 h
  obtain ⟨day, mid, -, h⟩ := bind_some_iff.1 h
  obtain ⟨_, mid, hguard, h⟩ := bind_some_iff.1 h
  obtain ⟨⟨h1, h12, hday, hlength⟩, -⟩ := guard_some_iff.1 hguard
  obtain ⟨rfl, -⟩ := pure_some_iff.1 h
  have hfour : year < 10 ^ 4 := gives_digits 4 hyear
  exact ⟨⟨h1, h12, hday, hlength⟩, Int.natCast_nonneg year, by dsimp only; omega⟩

/-- A time of day that is read lies within the day, a leap second included. -/
lemma gives_clock : Gives clockPiece fun c => c.1 < 86400 := by
  intro text rest c h
  obtain ⟨hour, mid, -, h⟩ := bind_some_iff.1 h
  obtain ⟨_, mid, -, h⟩ := bind_some_iff.1 h
  obtain ⟨minute, mid, -, h⟩ := bind_some_iff.1 h
  obtain ⟨_, mid, -, h⟩ := bind_some_iff.1 h
  obtain ⟨second, mid, -, h⟩ := bind_some_iff.1 h
  obtain ⟨_, mid, hguard, h⟩ := bind_some_iff.1 h
  obtain ⟨hbounds, -⟩ := guard_some_iff.1 hguard
  obtain ⟨rfl, -⟩ := pure_some_iff.1 h
  dsimp only
  omega

lemma gives_offset : Gives offsetPiece fun o => o.natAbs < 24 * 3600 ∧ o % 60 = 0 := by
  intro text rest o h
  obtain ⟨sign, mid, -, h⟩ := bind_some_iff.1 h
  split at h
  · obtain ⟨rfl, -⟩ := pure_some_iff.1 h
    decide
  · obtain ⟨_, mid, -, h⟩ := bind_some_iff.1 h
    obtain ⟨hour, mid, -, h⟩ := bind_some_iff.1 h
    obtain ⟨_, mid, -, h⟩ := bind_some_iff.1 h
    obtain ⟨minute, mid, -, h⟩ := bind_some_iff.1 h
    obtain ⟨_, mid, hguard, h⟩ := bind_some_iff.1 h
    obtain ⟨hbounds, -⟩ := guard_some_iff.1 hguard
    obtain ⟨rfl, -⟩ := pure_some_iff.1 h
    split <;> omega

/-! ## Moments -/

/-- A moment that RFC 3339 can tell: in a year of four digits, at an offset in whole minutes of less than a day. -/
structure IsCivil (m : Moment) : Prop where
  year_nonneg : 0 ≤ m.date.year
  year_le : m.date.year ≤ 9999
  offset_lt : m.offset.natAbs < 24 * 3600
  offset_minutes : m.offset % 60 = 0

def civilText (m : Moment) : List Char :=
  dateText m.date ++ 'T' :: clockText m.secondOfDay ++ fraction m.nanos ++ offsetText m.offset

lemma toRfc3339_of_isCivil {m : Moment} (h : m.IsCivil) : m.toRfc3339 = .ok (String.ofList m.civilText) := by
  have hyear : ¬ (m.date.year < 0 ∨ 9999 < m.date.year) := by
    have := h.year_nonneg
    have := h.year_le
    omega
  unfold toRfc3339
  dsimp only
  rw [if_neg hyear, if_neg (Nat.not_le_of_lt h.offset_lt), if_neg (fun hne => hne h.offset_minutes)]
  rfl

/-- **Exactly these moments have a text.** -/
theorem exists_toRfc3339_iff {m : Moment} : (∃ text, m.toRfc3339 = .ok text) ↔ m.IsCivil := by
  constructor
  · rintro ⟨text, h⟩
    unfold toRfc3339 at h
    dsimp only at h
    split at h
    · cases h
    next hyear =>
    split at h
    · cases h
    next hoffset =>
    split at h
    · cases h
    next hminutes =>
    exact ⟨by omega, by omega, by omega, by omega⟩
  · intro h
    exact ⟨_, toRfc3339_of_isCivil h⟩

lemma localSeconds_eq (m : Moment) : m.localSeconds = m.date.dayNumber * 86400 + m.secondOfDay := by
  rw [date, Date.dayNumber_ofDayNumber, secondOfDay, Int.toNat_of_nonneg (Int.fmod_nonneg_of_pos _ (by decide))]
  exact (Int.fdiv_mul_add_fmod _ _).symm

lemma secondOfDay_lt (m : Moment) : m.secondOfDay < 86400 := by
  have hpos := Int.fmod_nonneg_of_pos m.localSeconds (show (0 : Int) < 86400 by decide)
  have hlt := Int.fmod_lt_of_pos m.localSeconds (show (0 : Int) < 86400 by decide)
  unfold secondOfDay
  omega

/-- The date of a moment is that of its day, whatever its time of day. -/
lemma year_of_localSeconds {m : Moment} {d : Date} {second : Nat} (hd : d.IsValid) (hs : second < 86400)
    (h : m.localSeconds = d.dayNumber * 86400 + second) : m.date.year = d.year := by
  have hday : m.localSeconds.fdiv 86400 = d.dayNumber := by
    rw [h, Int.fdiv_eq_ediv_of_nonneg _ (by decide)]
    omega
  rw [date, hday, Date.year_ofDayNumber hd]

lemma lt_128_of_mem_padded {width n : Nat} {c : Char} (hc : c ∈ padded width n) : c.toNat < 128 := by
  rcases List.mem_append.1 hc with hzero | hdigit
  · rw [(List.mem_replicate.1 hzero).2]
    decide
  · obtain ⟨d, hd, rfl⟩ := Text.exists_digitChar (Text.isDigit_of_mem_toDigits hdigit)
    rw [Nat.toNat_digitChar_of_lt_ten hd]
    omega

lemma lt_128_of_mem_fraction {nanos : Nat} {c : Char} (hc : c ∈ fraction nanos) : c.toNat < 128 := by
  unfold fraction at hc
  split at hc
  · cases hc
  · rcases List.mem_cons.1 hc with rfl | hc
    · decide
    · have hmem := (List.dropWhile_suffix _).subset (List.mem_reverse.1 hc)
      exact lt_128_of_mem_padded (List.mem_reverse.1 hmem)

lemma lt_128_of_mem_offsetText {offset : Int} {c : Char} (hc : c ∈ offsetText offset) : c.toNat < 128 := by
  unfold offsetText at hc
  split at hc
  · rw [List.mem_singleton.1 hc]
    decide
  · simp only [List.mem_append, List.mem_cons] at hc
    rcases hc with (rfl | hc) | rfl | hc
    · split <;> decide
    · exact lt_128_of_mem_padded hc
    · decide
    · exact lt_128_of_mem_padded hc

lemma utf8_civilText (m : Moment) : utf8 (String.ofList m.civilText) = asciiBytes m.civilText := by
  rw [utf8_ofList]
  apply charBytes_ascii
  intro c hc
  simp only [civilText, dateText, clockText, List.mem_append, List.mem_cons] at hc
  rcases hc with ((((hc | rfl | hc) | rfl | hc) | rfl | (hc | rfl | hc) | rfl | hc) | hc) | hc
  any_goals exact lt_128_of_mem_padded hc
  any_goals decide
  · exact lt_128_of_mem_fraction hc
  · exact lt_128_of_mem_offsetText hc

/-- **A written moment is read back,** the same instant held at the same offset. -/
theorem ofRfc3339?_toRfc3339 {m : Moment} (h : m.IsCivil) : ofRfc3339? (utf8 (String.ofList m.civilText)) = some m := by
  have hdate := parses_date (Date.isValid_ofDayNumber _) h.year_nonneg h.year_le
  have hclock := parses_clock m.secondOfDay_lt
  have hfraction := fractionPiece_fraction m.nanos_lt (endsFraction_offset m.offset)
  have hoffset : offsetPiece (asciiBytes (offsetText m.offset)) = some (m.offset, []) := by
    have := parses_offset h.offset_lt h.offset_minutes []
    rwa [List.append_nil] at this
  have hseconds : m.date.dayNumber * 86400 + m.secondOfDay - m.offset = m.seconds := by
    rw [← localSeconds_eq, localSeconds, Int.add_sub_cancel]
  have htext : asciiBytes m.civilText = asciiBytes (dateText m.date) ++ (asciiBytes ['T'] ++
      (asciiBytes (clockText m.secondOfDay) ++ (asciiBytes (fraction m.nanos) ++ asciiBytes (offsetText m.offset)))) := by
    simp [civilText, asciiBytes]
  have hlast : (if h : m.nanos < 1000000000 then
      pure ⟨m.date.dayNumber * 86400 + m.secondOfDay - m.offset, m.nanos, m.offset, h⟩ else failure : Piece Moment) [] =
        some (m, []) := by
    rw [dif_pos m.nanos_lt]
    simp only [hseconds]
    rfl
  rw [utf8_civilText, htext]
  apply Option.bind_eq_some_iff.2
  refine ⟨(m, []), ?_, rfl⟩
  apply bind_some_iff.2
  refine ⟨_, _, hdate _, bind_some_iff.2 ⟨_, _, parses_nextByte 'T' _, ?_⟩⟩
  exact bind_some_iff.2 ⟨_, _, hclock _, bind_some_iff.2 ⟨_, _, hfraction, bind_some_iff.2 ⟨_, _, hoffset, hlast⟩⟩⟩

/-- **Every moment that is read has a text.** -/
theorem isCivil_of_ofRfc3339? {text : Bytes} {m : Moment} (h : ofRfc3339? text = some m) : m.IsCivil := by
  obtain ⟨⟨moment, rest⟩, hread, h⟩ := Option.bind_eq_some_iff.1 h
  obtain ⟨date, mid, hdate, hread⟩ := bind_some_iff.1 hread
  obtain ⟨_, mid, -, hread⟩ := bind_some_iff.1 hread
  obtain ⟨⟨second, isLeap⟩, mid, hclock, hread⟩ := bind_some_iff.1 hread
  obtain ⟨nanos, mid, -, hread⟩ := bind_some_iff.1 hread
  obtain ⟨offset, mid, hoffset, hread⟩ := bind_some_iff.1 hread
  obtain ⟨hvalid, hlow, hhigh⟩ := gives_date hdate
  obtain ⟨hlt, hminutes⟩ := gives_offset hoffset
  have hsecond := gives_clock hclock
  -- a leap second is read as the second in front of it, so that the local clock shows the date that was written
  obtain ⟨hseconds, hoffset⟩ : moment.seconds = date.dayNumber * 86400 + second - offset ∧ moment.offset = offset := by
    split at hread
    · obtain ⟨_, mid, -, hread⟩ := bind_some_iff.1 hread
      obtain ⟨rfl, -⟩ := pure_some_iff.1 hread
      exact ⟨rfl, rfl⟩
    · split at hread
      · obtain ⟨rfl, -⟩ := pure_some_iff.1 hread
        exact ⟨rfl, rfl⟩
      · cases hread
  obtain ⟨_, -, h⟩ := Option.bind_eq_some_iff.1 h
  cases h
  have hyear : m.date.year = date.year := by
    apply year_of_localSeconds hvalid hsecond
    rw [localSeconds, hseconds, hoffset, Int.sub_add_cancel]
  rw [← hoffset] at hlt hminutes
  exact ⟨hyear ▸ hlow, hyear ▸ hhigh, hlt, hminutes⟩

end Gatehouse.Moment
