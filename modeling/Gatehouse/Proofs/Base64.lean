import Gatehouse.Bytes
import Mathlib.Tactic.Lemma

/-!
# Base64 both ways

* `Alphabet.IsProper` — every number under 64 is read back from its digit; both alphabets are proper;
* `decode?_encode` — a byte string is read back from its digits;
* `eq_encode_of_decode?` — nothing else is read than the digits of a byte string;
* `exists_digit_of_mem_encode`, `length_encode` — what the digits of a byte string are, and how many.
-/

namespace Gatehouse.Base64

variable {a : Alphabet}

/-- Every number under 64 is read back from its digit. -/
def Alphabet.IsProper (a : Alphabet) : Prop := ∀ n < 64, a.value? (a.digit n) = some n

instance (a : Alphabet) : Decidable a.IsProper := inferInstanceAs (Decidable (∀ n < 64, _))

theorem standard_isProper : standard.IsProper := by decide +kernel

theorem urlSafe_isProper : urlSafe.IsProper := by decide +kernel

/-! ## Reading back -/

lemma bytes_of_sextets (x y z : UInt8) :
    UInt8.ofNat (x.toNat / 4 * 4 + (x.toNat % 4 * 16 + y.toNat / 16) / 16) = x ∧
    UInt8.ofNat ((x.toNat % 4 * 16 + y.toNat / 16) % 16 * 16 + (y.toNat % 16 * 4 + z.toNat / 64) / 4) = y ∧
    UInt8.ofNat ((y.toNat % 16 * 4 + z.toNat / 64) % 4 * 64 + z.toNat % 64) = z := by
  have hx := x.toNat_lt
  have hy := y.toNat_lt
  have hz := z.toNat_lt
  have e1 : x.toNat / 4 * 4 + (x.toNat % 4 * 16 + y.toNat / 16) / 16 = x.toNat := by omega
  have e2 : (x.toNat % 4 * 16 + y.toNat / 16) % 16 * 16 + (y.toNat % 16 * 4 + z.toNat / 64) / 4 = y.toNat := by
    omega
  have e3 : (y.toNat % 16 * 4 + z.toNat / 64) % 4 * 64 + z.toNat % 64 = z.toNat := by omega
  rw [e1, e2, e3]
  exact ⟨UInt8.ofNat_toNat, UInt8.ofNat_toNat, UInt8.ofNat_toNat⟩

/-- **A byte string is read back from its digits.** -/
theorem decode?_encode (h : a.IsProper) (bytes : Bytes) : decode? a (encode a bytes) = some bytes := by
  fun_induction encode a bytes with
  | case1 x y z rest ih =>
    have hx := x.toNat_lt
    have hy := y.toNat_lt
    have hz := z.toNat_lt
    obtain ⟨e1, e2, e3⟩ := bytes_of_sextets x y z
    rw [decode?, h _ (by omega), h _ (by omega), h _ (by omega), h _ (by omega), ih]
    show some (_ :: _ :: _ :: rest) = some _
    rw [e1, e2, e3]
  | case2 x y =>
    have hx := x.toNat_lt
    have hy := y.toNat_lt
    -- two bytes are three bytes of which the last is zero
    obtain ⟨e1, e2, -⟩ := bytes_of_sextets x y 0
    rw [decode?, h _ (by omega), h _ (by omega), h _ (by omega)]
    show (if y.toNat % 16 * 4 % 4 = 0 then some [_, _] else none) = some _
    rw [if_pos (by omega)]
    simpa using And.intro e1 e2
  | case3 x =>
    have hx := x.toNat_lt
    obtain ⟨e1, -, -⟩ := bytes_of_sextets x 0 0
    rw [decode?, h _ (by omega), h _ (by omega)]
    show (if x.toNat % 4 * 16 % 16 = 0 then some [_] else none) = some _
    rw [if_pos (by omega)]
    simpa using e1
  | case4 => rfl

/-! ## Nothing else is read -/

lemma digit_of_value? {c : Char} {n : Nat} (h : a.value? c = some n) : n < 64 ∧ a.digit n = c := by
  have hchar : ∀ {m : Nat}, m = c.toNat → Char.ofNat m = c := fun he => by rw [he, Char.ofNat_toNat]
  have hbounds : ∀ {x y : Char}, x ≤ c ∧ c ≤ y → x.toNat ≤ c.toNat ∧ c.toNat ≤ y.toNat := fun hc =>
    ⟨UInt32.le_iff_toNat_le.1 hc.1, UInt32.le_iff_toNat_le.1 hc.2⟩
  unfold Alphabet.value? at h
  unfold Alphabet.digit
  split at h
  · rename_i hc
    obtain ⟨hl, hu⟩ : 65 ≤ c.toNat ∧ c.toNat ≤ 90 := hbounds hc
    cases h
    exact ⟨by omega, by rw [if_pos (by omega)]; exact hchar (by omega)⟩
  split at h
  · rename_i hc
    obtain ⟨hl, hu⟩ : 97 ≤ c.toNat ∧ c.toNat ≤ 122 := hbounds hc
    cases h
    exact ⟨by omega, by rw [if_neg (by omega), if_pos (by omega)]; exact hchar (by omega)⟩
  split at h
  · rename_i hc
    obtain ⟨hl, hu⟩ : 48 ≤ c.toNat ∧ c.toNat ≤ 57 := hbounds hc
    cases h
    exact ⟨by omega, by rw [if_neg (by omega), if_neg (by omega), if_pos (by omega)]; exact hchar (by omega)⟩
  split at h
  · cases h
    exact ⟨by omega, ‹c = a.digit62›.symm⟩
  split at h
  · cases h
    exact ⟨by omega, ‹c = a.digit63›.symm⟩
  · cases h

lemma sextets_of_bytes {p q r s : Nat} (hp : p < 64) (hq : q < 64) (hr : r < 64) (hs : s < 64) :
    (UInt8.ofNat (p * 4 + q / 16)).toNat / 4 = p ∧
    (UInt8.ofNat (p * 4 + q / 16)).toNat % 4 * 16 + (UInt8.ofNat (q % 16 * 16 + r / 4)).toNat / 16 = q ∧
    (UInt8.ofNat (q % 16 * 16 + r / 4)).toNat % 16 * 4 + (UInt8.ofNat (r % 4 * 64 + s)).toNat / 64 = r ∧
    (UInt8.ofNat (r % 4 * 64 + s)).toNat % 64 = s := by
  simp only [UInt8.toNat_ofNat']
  omega

/-- **What is read are the digits of what it is read as.** -/
theorem eq_encode_of_decode? {digits : List Char} {bytes : Bytes} (h : decode? a digits = some bytes) :
    digits = encode a bytes := by
  fun_induction decode? a digits generalizing bytes with
  | case1 c d e f rest ih =>
    simp only [Option.bind_eq_bind, Option.bind_eq_some_iff, Option.pure_def, Option.some.injEq] at h
    obtain ⟨p, hp, q, hq, r, hr, s, hs, tail, htail, rfl⟩ := h
    obtain ⟨p_lt, rfl⟩ := digit_of_value? hp
    obtain ⟨q_lt, rfl⟩ := digit_of_value? hq
    obtain ⟨r_lt, rfl⟩ := digit_of_value? hr
    obtain ⟨s_lt, rfl⟩ := digit_of_value? hs
    obtain ⟨e1, e2, e3, e4⟩ := sextets_of_bytes p_lt q_lt r_lt s_lt
    rw [encode, e1, e2, e3, e4, ih htail]
  | case2 c d e =>
    simp only [Option.bind_eq_bind, Option.bind_eq_some_iff] at h
    obtain ⟨p, hp, q, hq, r, hr, h⟩ := h
    split at h
    · cases h
      obtain ⟨p_lt, rfl⟩ := digit_of_value? hp
      obtain ⟨q_lt, rfl⟩ := digit_of_value? hq
      obtain ⟨r_lt, rfl⟩ := digit_of_value? hr
      -- the third byte would be zero
      obtain ⟨e1, e2, e3, -⟩ := sextets_of_bytes p_lt q_lt r_lt (Nat.zero_lt_succ 63)
      have hzero : r % 4 * 64 + 0 = 0 := by omega
      rw [hzero] at e3
      rw [encode, e1, e2]
      simpa using congrArg a.digit e3.symm
    · cases h
  | case3 c d =>
    simp only [Option.bind_eq_bind, Option.bind_eq_some_iff] at h
    obtain ⟨p, hp, q, hq, h⟩ := h
    split at h
    · cases h
      obtain ⟨p_lt, rfl⟩ := digit_of_value? hp
      obtain ⟨q_lt, rfl⟩ := digit_of_value? hq
      obtain ⟨e1, e2, -⟩ := sextets_of_bytes p_lt q_lt (Nat.zero_lt_succ 63) (Nat.zero_lt_succ 63)
      have hzero : q % 16 * 16 + 0 / 4 = 0 := by omega
      rw [hzero] at e2
      rw [encode, e1]
      simpa using congrArg a.digit e2.symm
    · cases h
  | case4 => cases h
  | case5 => cases h; rfl

/-! ## The digits -/

theorem exists_digit_of_mem_encode {bytes : Bytes} {c : Char} (hc : c ∈ encode a bytes) :
    ∃ n < 64, c = a.digit n := by
  fun_induction encode a bytes with
  | case1 x y z rest ih =>
    have hx := x.toNat_lt
    have hy := y.toNat_lt
    have hz := z.toNat_lt
    simp only [List.mem_cons] at hc
    rcases hc with rfl | rfl | rfl | rfl | hc
    · exact ⟨_, by omega, rfl⟩
    · exact ⟨_, by omega, rfl⟩
    · exact ⟨_, by omega, rfl⟩
    · exact ⟨_, by omega, rfl⟩
    · exact ih hc
  | case2 x y =>
    have hx := x.toNat_lt
    have hy := y.toNat_lt
    simp only [List.mem_cons, List.not_mem_nil, or_false] at hc
    rcases hc with rfl | rfl | rfl <;> exact ⟨_, by omega, rfl⟩
  | case3 x =>
    have hx := x.toNat_lt
    simp only [List.mem_cons, List.not_mem_nil, or_false] at hc
    rcases hc with rfl | rfl <;> exact ⟨_, by omega, rfl⟩
  | case4 => simp at hc

lemma forall_mem_encode {P : Char → Prop} (h : ∀ n < 64, P (a.digit n)) (bytes : Bytes) :
    ∀ c ∈ encode a bytes, P c := by
  intro c hc
  obtain ⟨n, hn, rfl⟩ := exists_digit_of_mem_encode hc
  exact h n hn

theorem length_encode (bytes : Bytes) : (encode a bytes).length = (bytes.length * 4 + 2) / 3 := by
  fun_induction encode a bytes with
  | case1 x y z rest ih => simp only [List.length_cons, ih]; omega
  | case2 x y => simp
  | case3 x => simp
  | case4 => rfl

end Gatehouse.Base64
