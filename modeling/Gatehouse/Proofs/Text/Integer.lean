import Gatehouse.Text.Integer
import Mathlib.Tactic.Lemma

/-!
# Decimal text both ways

* `head?_toDigits_ne_zero`, `le_ofDigitChars` — the decimal digits of a number start with no zero in vain, and more
  digits make no smaller number;
* `toDigits_of_digits?` — digits that start with no zero in vain are those of the number that they are read as;
* `whole?_decimal`, `word?_decimal` — a whole number is read back from its decimal text, as a word if it is one;
* `word?_eq_some_iff`, `natWord?_eq_some_iff` — which texts are read as words at all: digits and nothing else, behind a
  sign or by themselves.
-/

namespace Gatehouse.Text

/-! ## Digits -/

lemma isDigit_of_mem_toDigits {n : Nat} {c : Char} (hc : c ∈ Nat.toDigits 10 n) : c.isDigit = true :=
  Nat.isDigit_of_mem_toDigits (by decide) (by decide) hc

lemma exists_digitChar {c : Char} (hc : c.isDigit = true) : ∃ d, d < 10 ∧ c = Nat.digitChar d := by
  have hbounds : 48 ≤ c.toNat ∧ c.toNat ≤ 57 := by
    simpa [Char.isDigit, UInt32.le_iff_toNat_le] using hc
  refine ⟨c.toNat - 48, by omega, Char.toNat_inj.1 ?_⟩
  rw [Nat.toNat_digitChar_of_lt_ten (by omega)]
  omega

lemma head?_toDigits_ne_zero {n : Nat} (h : 0 < n) : (Nat.toDigits 10 n).head? ≠ some '0' := by
  induction n using Nat.strongRecOn with
  | ind n ih =>
    rw [Nat.toDigits_eq_if (by decide)]
    split
    · simp
      omega
    · rw [List.head?_append, Option.or_of_isSome (by simp [List.isSome_head?])]
      exact ih (n / 10) (by omega) (by omega)

lemma le_ofDigitChars (ds : List Char) (n : Nat) : n ≤ Nat.ofDigitChars 10 ds n := by
  rw [Nat.ofDigitChars_eq_ofDigitChars_zero]
  have : 1 * n ≤ 10 ^ ds.length * n := Nat.mul_le_mul_right n (Nat.pow_pos (by decide))
  omega

lemma digits?_toDigits (n : Nat) : digits? (Nat.toDigits 10 n) = some n := by
  have hall : (Nat.toDigits 10 n).all Char.isDigit = true :=
    List.all_eq_true.2 fun _ => isDigit_of_mem_toDigits
  have hne : (Nat.toDigits 10 n).isEmpty = false := by simp
  simp [digits?, hall, hne]

lemma toDigits_append {cs : List Char} (hcs : ∀ c ∈ cs, c.isDigit = true) {n : Nat} (hn : 0 < n) :
    Nat.toDigits 10 n ++ cs = Nat.toDigits 10 (Nat.ofDigitChars 10 cs n) := by
  induction cs generalizing n with
  | nil => rw [List.append_nil, Nat.ofDigitChars_nil]
  | cons c cs ih =>
    obtain ⟨hc, hrest⟩ := List.forall_mem_cons.1 hcs
    obtain ⟨d, hd, rfl⟩ : ∃ d, d < 10 ∧ c = Nat.digitChar d := exists_digitChar hc
    rw [Nat.ofDigitChars_cons_digitChar_of_lt_ten hd, ← ih hrest (by omega),
      ← Nat.toDigits_append_toDigits (by decide) hn hd, Nat.toDigits_of_lt_base hd, List.append_assoc]
    rfl

/-- **Digits that start with no zero in vain** are those of the number that they are read as. -/
theorem toDigits_of_digits? {cs : List Char} {n : Nat} (h : digits? cs = some n)
    (hzero : ¬ (cs.head? = some '0' ∧ 1 < cs.length)) : Nat.toDigits 10 n = cs := by
  unfold digits? at h
  split at h
  · cases h
  next hdigits =>
    cases h
    cases cs with
    | nil => exact absurd rfl hdigits
    | cons c cs =>
      have hall : ∀ x ∈ c :: cs, x.isDigit = true := by simpa using hdigits
      obtain ⟨hc, hrest⟩ := List.forall_mem_cons.1 hall
      obtain ⟨d, hd, rfl⟩ : ∃ d, d < 10 ∧ c = Nat.digitChar d := exists_digitChar hc
      rw [Nat.ofDigitChars_cons_digitChar_of_lt_ten hd, Nat.mul_zero, Nat.zero_add]
      by_cases hpos : 0 < d
      · rw [← toDigits_append hrest hpos, Nat.toDigits_of_lt_base hd]
        rfl
      · -- a zero stands alone
        obtain rfl : d = 0 := by omega
        cases cs with
        | nil => rfl
        | cons x cs => exact absurd ⟨rfl, by simp⟩ hzero

/-! ## Whole numbers -/

theorem whole?_decimal (n : Int) : whole? (decimal n) = some n := by
  cases n with
  | ofNat n =>
    have hd := digits?_toDigits n
    have hhead : ∀ c ∈ (Nat.toDigits 10 n).head?, c.isDigit = true := fun c hc =>
      isDigit_of_mem_toDigits (List.mem_of_mem_head? hc)
    rw [decimal]
    rcases hds : Nat.toDigits 10 n with _ | ⟨d, ds⟩
    · exact absurd hds Nat.toDigits_ne_nil
    · rw [hds] at hd hhead
      have hdig : d.isDigit = true := hhead d rfl
      unfold whole?
      split
      · next h => cases h; exact absurd hdig (by decide)
      · next h => cases h; exact absurd hdig (by decide)
      · rw [hd]; rfl
  | negSucc n =>
    show (digits? (Nat.toDigits 10 (n + 1))).map (fun n => -(n : Int)) = _
    rw [digits?_toDigits]
    rfl

theorem word?_decimal {n : Int} (h : IsWord n) : word? (String.ofList (decimal n)) = some n := by
  rw [word?, String.toList_ofList, whole?_decimal]
  simp [h]

/-- No other word is read from the decimal text of a whole number. -/
lemma eq_of_word?_decimal {n m : Int} (h : word? (String.ofList (decimal n)) = some m) : m = n := by
  rw [word?, String.toList_ofList, whole?_decimal] at h
  exact (Option.some.inj (Option.eq_some_of_filter_eq_some h)).symm

/-! ## Texts that are numbers -/

/-- Digits of a number, of which there is at least one. Zeros may stand in front. -/
structure IsDigits (cs : List Char) (n : Nat) : Prop where
  ne_nil : cs ≠ []
  isDigit : ∀ c ∈ cs, c.isDigit = true
  value : Nat.ofDigitChars 10 cs 0 = n

lemma digits?_eq_some_iff {cs : List Char} {n : Nat} : digits? cs = some n ↔ IsDigits cs n := by
  unfold digits?
  constructor
  · intro h
    split at h
    · cases h
    next hdigits =>
      simp only [Bool.or_eq_true, List.isEmpty_iff, Bool.not_eq_true', not_or, Bool.not_eq_false] at hdigits
      exact ⟨hdigits.1, List.all_eq_true.1 hdigits.2, Option.some.inj h⟩
  · intro h
    have hall : cs.all Char.isDigit = true := List.all_eq_true.2 h.isDigit
    have hne : cs.isEmpty = false := by simpa using h.ne_nil
    simp [hall, hne, h.value]

lemma IsDigits.ne_sign {cs rest : List Char} {n : Nat} {sign : Char} (h : IsDigits cs n)
    (hsign : sign.isDigit = false) : cs ≠ sign :: rest := by
  rintro rfl
  have := h.isDigit sign List.mem_cons_self
  rw [hsign] at this
  cases this

/-- A whole number that is not negative, in digits that may follow a plus sign. -/
def IsUnsigned (text : String) (n : Nat) : Prop :=
  ∃ ds, IsDigits ds n ∧ (text.toList = ds ∨ text.toList = '+' :: ds)

/-- A whole number, in digits that may follow a plus or a minus sign. -/
def IsSigned (text : String) (n : Int) : Prop :=
  (∃ m : Nat, IsUnsigned text m ∧ n = m) ∨ ∃ ds, ∃ m : Nat, IsDigits ds m ∧ text.toList = '-' :: ds ∧ n = -m

lemma whole?_eq_some_iff {text : String} {n : Int} : whole? text.toList = some n ↔ IsSigned text n := by
  constructor
  · intro h
    unfold whole? at h
    split at h
    · next rest htext =>
      obtain ⟨m, hm, rfl⟩ := Option.map_eq_some_iff.1 h
      exact .inl ⟨m, ⟨rest, digits?_eq_some_iff.1 hm, .inr htext⟩, rfl⟩
    · next rest htext =>
      obtain ⟨k, hk, rfl⟩ := Option.map_eq_some_iff.1 h
      obtain ⟨m, hm, hcast⟩ := Option.bind_eq_some_iff.1 hk
      obtain rfl : (m : Int) = k := Option.some.inj hcast
      exact .inr ⟨rest, m, digits?_eq_some_iff.1 hm, htext, rfl⟩
    · obtain ⟨m, hm, rfl⟩ := Option.map_eq_some_iff.1 h
      exact .inl ⟨m, ⟨_, digits?_eq_some_iff.1 hm, .inl rfl⟩, rfl⟩
  · rintro (⟨m, ⟨ds, hds, htext | htext⟩, rfl⟩ | ⟨ds, m, hds, htext, rfl⟩)
    · rw [htext]
      unfold whole?
      split
      · exact absurd rfl (hds.ne_sign (by decide))
      · exact absurd rfl (hds.ne_sign (by decide))
      · rw [digits?_eq_some_iff.2 hds]
        rfl
    · rw [htext]
      show (digits? ds).map Int.ofNat = _
      rw [digits?_eq_some_iff.2 hds]
      rfl
    · rw [htext]
      show (digits? ds).map (fun m => -(m : Int)) = _
      rw [digits?_eq_some_iff.2 hds]
      rfl

/-- **A text is read as a signed word** exactly if it is one of a whole number in the range of words. -/
theorem word?_eq_some_iff {text : String} {n : Int} : word? text = some n ↔ IsSigned text n ∧ IsWord n := by
  rw [word?, Option.filter_eq_some_iff, whole?_eq_some_iff]
  simp

/-- **A text is read as an unsigned word** exactly if it is one of a whole number under the end of the range. -/
theorem natWord?_eq_some_iff {text : String} {n : Nat} :
    natWord? text = some n ↔ IsUnsigned text n ∧ n < 0x10000000000000000 := by
  have hread : ∀ cs, (digits? cs).filter (· < 0x10000000000000000) = some n ↔
      IsDigits cs n ∧ n < 0x10000000000000000 := by
    intro cs
    rw [Option.filter_eq_some_iff, digits?_eq_some_iff]
    simp
  unfold natWord?
  dsimp only
  split
  · next rest htext =>
    rw [hread]
    constructor
    · intro h
      exact ⟨⟨rest, h.1, .inr htext⟩, h.2⟩
    · rintro ⟨⟨ds, hds, hsame | hsame⟩, hn⟩
      · exact absurd (hsame.symm.trans htext) (hds.ne_sign (by decide))
      · have : ds = rest := (List.cons.inj (hsame.symm.trans htext)).2
        exact ⟨this ▸ hds, hn⟩
  · next hplus =>
    rw [hread]
    constructor
    · intro h
      exact ⟨⟨_, h.1, .inl rfl⟩, h.2⟩
    · rintro ⟨⟨ds, hds, hsame | hsame⟩, hn⟩
      · exact ⟨hsame ▸ hds, hn⟩
      · exact absurd hsame (hplus ds)

end Gatehouse.Text
