import Gatehouse.Proofs.Json.Reader
import Gatehouse.Proofs.Text.Integer

/-!
# Reading what was written: numbers

* `takeDigits_digits`, `appendDigits_digits` — digits are taken up to what follows them, and make up their number;
* `number_toDigits` — and so they are behind a sign;
* `reads_natural`, `reads_word` — a written natural number of 64 bits is read back, and so is a word with its sign.
-/

namespace Gatehouse.Json

/-! ## Digits -/

lemma toNat_of_isDigit {c : Char} (h : c.isDigit = true) : 48 ≤ c.toNat ∧ c.toNat ≤ 57 := by
  simpa [Char.isDigit, UInt32.le_iff_toNat_le] using h

lemma toNat_digitByte {c : Char} (h : c.isDigit = true) : (UInt8.ofNat c.toNat).toNat = c.toNat := by
  have := toNat_of_isDigit h
  rw [UInt8.toNat_ofNat']
  omega

lemma isDigit_iff {b : UInt8} : isDigit b = true ↔ 48 ≤ b.toNat ∧ b.toNat ≤ 57 := by
  simp [isDigit, UInt8.le_iff_toNat_le]

lemma digitByte_ne_zero {c : Char} (h : c.isDigit = true) (hc : c ≠ '0') : UInt8.ofNat c.toNat ≠ 48 := by
  intro he
  have hc48 : c.toNat = 48 := by rw [← toNat_digitByte h, he]; rfl
  exact hc (by rw [← Char.ofNat_toNat c, hc48])

lemma append_digitByte {c : Char} (h : c.isDigit = true) (n : Nat) :
    n * 10 + ((UInt8.ofNat c.toNat).toNat - 48) = 10 * n + (c.toNat - '0'.toNat) := by
  rw [toNat_digitByte h, Nat.mul_comm]
  rfl

lemma isDigit_digitByte {c : Char} (h : c.isDigit = true) : isDigit (UInt8.ofNat c.toNat) = true := by
  rw [isDigit_iff, toNat_digitByte h]
  exact toNat_of_isDigit h

lemma isSpace_of_isDigit {b : UInt8} (h : isDigit b = true) : isSpace b = false := by
  rw [Bool.eq_false_iff]
  intro hb
  simp only [isSpace, Bool.or_eq_true, beq_iff_eq] at hb
  rcases hb with ((rfl | rfl) | rfl) | rfl <;> exact absurd h (by decide)

lemma charBytes_digits {ds : List Char} (h : ∀ c ∈ ds, c.isDigit = true) : charBytes ds = asciiBytes ds :=
  charBytes_ascii fun c hc => Nat.lt_of_le_of_lt (toNat_of_isDigit (h c hc)).2 (by decide)

lemma isDigit_eq_false_of_delimits {b : UInt8} {rest : Bytes} (h : Reader.Delimits (b :: rest)) :
    isDigit b = false ∧ b ≠ 46 ∧ isExponentLetter (some b) = false := by
  rcases h b rfl with rfl | rfl | rfl <;> decide

section Digits

variable {ds : List Char} (h : ∀ c ∈ ds, c.isDigit = true)
include h

lemma takeDigits_digits {rest : Bytes} (hr : Reader.Delimits rest) :
    takeDigits (asciiBytes ds ++ rest) = (.ok (asciiBytes ds), rest) := by
  have hds : ∀ b ∈ asciiBytes ds, isDigit b = true := by
    intro b hb
    obtain ⟨c, hc, rfl⟩ := List.mem_map.1 hb
    exact isDigit_digitByte (h c hc)
  have hrest : rest.takeWhile isDigit = [] ∧ rest.dropWhile isDigit = rest := by
    rcases rest with _ | ⟨b, rest⟩
    · exact ⟨rfl, rfl⟩
    · simp [(isDigit_eq_false_of_delimits hr).1]
  rw [takeDigits, List.takeWhile_append_of_pos hds, List.dropWhile_append_of_pos hds, hrest.1, hrest.2,
    List.append_nil]

/-- Digits make up their number as long as it is a word. -/
lemma appendDigits_digits {n : Nat} (hn : Nat.ofDigitChars 10 ds n < wordLimit) :
    appendDigits n (asciiBytes ds) = (Nat.ofDigitChars 10 ds n, 0) := by
  induction ds generalizing n with
  | nil => rfl
  | cons c ds ih =>
    rw [Nat.ofDigitChars_cons] at hn ⊢
    have hnext := append_digitByte (h c List.mem_cons_self) n
    have hle := Text.le_ofDigitChars ds (10 * n + (c.toNat - '0'.toNat))
    show (if _ then appendDigits _ (asciiBytes ds) else _) = _
    rw [hnext, if_pos (by omega)]
    exact ih (fun c hc => h c (List.mem_cons_of_mem _ hc)) hn

end Digits

/-! ## Numbers -/

/-- The number of a sign and digits without a point and an exponent. -/
def wholeNumber (negative : Bool) (n : Nat) : Number :=
  if !negative then .natural n else if n = 0 ∨ 0x8000000000000000 < n then .real else .negative n

namespace Reader

lemma numberTail_whole {rest : Bytes} (hr : Delimits rest) (negative : Bool) (n : Nat) :
    numberTail negative n 0 rest = (.ok (wholeNumber negative n), rest) := by
  have hplain : ∀ next : Option UInt8, next ≠ some 46 → isExponentLetter next = false →
      (peekByte rest = (.ok next, rest)) → numberTail negative n 0 rest = (.ok (wholeNumber negative n), rest) := by
    intro next hpoint hletter hpeek
    rw [numberTail, bind_ok hpeek, if_neg hpoint, hletter, if_neg Bool.false_ne_true, if_neg (fun h => h rfl), wholeNumber]
    split
    · rfl
    · split <;> rfl
  rcases rest with _ | ⟨b, rest⟩
  · exact hplain none (by simp) rfl rfl
  · obtain ⟨-, hpoint, hletter⟩ := isDigit_eq_false_of_delimits hr
    exact hplain (some b) (by simpa using hpoint) hletter rfl

lemma peek_digit {b : UInt8} (h : isDigit b = true) (rest : Bytes) : peek (b :: rest) = (.ok (some b), b :: rest) :=
  peek_cons (isSpace_of_isDigit h) rest

lemma anyNumber_digit {b : UInt8} (h : isDigit b = true) (rest : Bytes) :
    anyNumber (b :: rest) = number false (b :: rest) := by
  have hminus : b ≠ 45 := by rintro rfl; exact absurd h (by decide)
  rw [anyNumber, bind_ok (peek_digit h rest), if_neg (by simpa using hminus), if_pos (by simpa using h)]

lemma anyNumber_minus (rest : Bytes) : anyNumber (45 :: rest) = number true rest := by
  rw [anyNumber, bind_ok (peek_cons (by decide) rest), if_pos rfl, bind_ok (advance_cons _ _)]

lemma number_zero {rest : Bytes} (hr : Delimits rest) (negative : Bool) :
    number negative (48 :: rest) = (.ok (wholeNumber negative 0), rest) := by
  have hnext : (rest.head?).any isDigit = false := by
    rcases rest with _ | ⟨b, rest⟩
    · rfl
    · simpa using (isDigit_eq_false_of_delimits hr).1
  have hpeek : peekByte rest = (.ok rest.head?, rest) := rfl
  rw [number, bind_ok (take_cons _ _), if_pos rfl, bind_ok hpeek, hnext]
  exact numberTail_whole hr negative 0

lemma number_digits {c : Char} {ds : List Char} (h : ∀ d ∈ c :: ds, d.isDigit = true) (hc : c ≠ '0')
    (hn : Nat.ofDigitChars 10 (c :: ds) 0 < wordLimit) {rest : Bytes} (hr : Delimits rest) (negative : Bool) :
    number negative (asciiBytes (c :: ds) ++ rest) =
      (.ok (wholeNumber negative (Nat.ofDigitChars 10 (c :: ds) 0)), rest) := by
  have hfirst : c.isDigit = true := h c List.mem_cons_self
  have htail : ∀ d ∈ ds, d.isDigit = true := fun d hd => h d (List.mem_cons_of_mem _ hd)
  have hvalue : Nat.ofDigitChars 10 ds ((UInt8.ofNat c.toNat).toNat - 48) = Nat.ofDigitChars 10 (c :: ds) 0 := by
    rw [toNat_digitByte hfirst]
    simp [Nat.ofDigitChars_cons]
  show number negative (UInt8.ofNat c.toNat :: (asciiBytes ds ++ rest)) = _
  rw [number, bind_ok (take_cons _ _), if_neg (digitByte_ne_zero hfirst hc), if_pos (isDigit_digitByte hfirst),
    bind_ok (takeDigits_digits htail hr), appendDigits_digits htail (by rw [hvalue]; exact hn), hvalue]
  exact numberTail_whole hr negative _

/-- **The digits of a number of 64 bits** are taken as that number, behind a sign or without one. -/
theorem number_toDigits {n : Nat} (h : n < wordLimit) {rest : Bytes} (hr : Delimits rest) (negative : Bool) :
    number negative (charBytes (Nat.toDigits 10 n) ++ rest) = (.ok (wholeNumber negative n), rest) := by
  have hdigits : ∀ c ∈ Nat.toDigits 10 n, c.isDigit = true := fun _ => Text.isDigit_of_mem_toDigits
  have hvalue : Nat.ofDigitChars 10 (Nat.toDigits 10 n) 0 = n := Nat.ofDigitChars_ten_toDigits
  rw [charBytes_digits hdigits]
  rcases Nat.eq_zero_or_pos n with rfl | hn
  · exact number_zero hr negative
  · have hfirst := Text.head?_toDigits_ne_zero hn
    rcases hds : Nat.toDigits 10 n with _ | ⟨c, ds⟩
    · exact absurd hds Nat.toDigits_ne_nil
    · rw [hds] at hdigits hvalue hfirst
      have hnumber := number_digits hdigits (fun hc => hfirst (congrArg some hc)) (by rw [hvalue]; exact h) hr negative
      rwa [hvalue] at hnumber

lemma exists_charBytes_writeInt (n : Nat) : ∃ b bytes, charBytes (writeInt n) = b :: bytes ∧ isDigit b = true := by
  have hdigits : ∀ c ∈ Nat.toDigits 10 n, c.isDigit = true := fun _ => Text.isDigit_of_mem_toDigits
  show ∃ b bytes, charBytes (Nat.toDigits 10 n) = b :: bytes ∧ _
  rcases hds : Nat.toDigits 10 n with _ | ⟨c, ds⟩
  · exact absurd hds Nat.toDigits_ne_nil
  · rw [hds] at hdigits
    exact ⟨_, _, charBytes_digits hdigits, isDigit_digitByte (hdigits c List.mem_cons_self)⟩

/-- **A written natural number of 64 bits is read back.** -/
theorem reads_natural {n : Nat} (h : n < wordLimit) : Reads anyNumber (writeInt n) (.natural n) := by
  intro rest hr
  obtain ⟨b, bytes, hbytes, hdigit⟩ := exists_charBytes_writeInt n
  have hnumber : number false (charBytes (writeInt n) ++ rest) = (.ok (.natural n), rest) := number_toDigits h hr false
  rw [hbytes] at hnumber ⊢
  rw [List.cons_append, anyNumber_digit hdigit]
  exact hnumber

lemma charBytes_writeInt_negSucc (n : Nat) :
    charBytes (writeInt (.negSucc n)) = 45 :: charBytes (Nat.toDigits 10 (n + 1)) := rfl

/-- **A written word is read back,** with its sign. -/
theorem reads_word {n : Int} (h : Text.IsWord n) : Reads word (writeInt n) n := by
  intro rest hr
  obtain ⟨hlow, hhigh⟩ : (-0x8000000000000000 : Int) ≤ n ∧ n ≤ 0x7FFFFFFFFFFFFFFF := h
  cases n with
  | ofNat n =>
    rw [Int.ofNat_eq_natCast] at hhigh
    have hlimit : n < wordLimit := by
      unfold wordLimit
      omega
    have hnumber : anyNumber (charBytes (writeInt (.ofNat n)) ++ rest) = (.ok (.natural n), rest) :=
      reads_natural hlimit rest hr
    rw [word, bind_ok hnumber]
    dsimp only
    rw [if_pos (by omega)]
    rfl
  | negSucc n =>
    rw [Int.negSucc_eq] at hlow
    have hlimit : n + 1 < wordLimit := by
      unfold wordLimit
      omega
    have hkind : wholeNumber true (n + 1) = .negative (n + 1) := by
      rw [wholeNumber, if_neg (by decide), if_neg (by omega)]
    have hnumber : anyNumber (charBytes (writeInt (.negSucc n)) ++ rest) = (.ok (.negative (n + 1)), rest) := by
      rw [charBytes_writeInt_negSucc, List.cons_append, anyNumber_minus, number_toDigits hlimit hr, hkind]
    rw [word, bind_ok hnumber]
    rfl

theorem reads_natWord {n : Nat} (h : n < wordLimit) : Reads natWord (writeInt n) n := by
  intro rest hr
  rw [natWord, bind_ok (reads_natural h rest hr)]
  rfl

end Reader

end Gatehouse.Json
