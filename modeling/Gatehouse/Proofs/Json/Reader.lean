import Gatehouse.Json.Container
import Gatehouse.Json.Skip
import Gatehouse.Json.Writer
import Gatehouse.Proofs.Bytes
import Mathlib.Tactic.IntervalCases

/-!
# Reading what was written: strings

* `Reader.bind_ok` — readers one after another;
* `Reader.Reads` — a reader takes a written value off the front of any text that goes on as JSON may go on there;
* `IsStringLoop.escaped` — the escaped characters of a string are taken as its bytes;
* `reads_string`, `reads_skip` — a written string is read back, and skipped where nobody asks for it.
-/

namespace Gatehouse.Json

namespace Reader

variable {α β : Type}

/-! ## One reader after another -/

lemma bind_eq (r : Reader α) (f : α → Reader β) (text : Bytes) :
    (r >>= f) text = ExceptT.bindCont f (r text).1 (r text).2 := rfl

lemma bind_ok {r : Reader α} {text rest : Bytes} {a : α} (h : r text = (.ok a, rest)) (f : α → Reader β) :
    (r >>= f) text = f a rest := by
  rw [bind_eq, h]
  rfl

lemma get_bind (f : Bytes → Reader β) (text : Bytes) : ((get : Reader Bytes) >>= f) text = f text text := rfl

lemma take_cons (b : UInt8) (rest : Bytes) : take (b :: rest) = (.ok b, rest) := rfl

lemma peek_cons {b : UInt8} (h : isSpace b = false) (rest : Bytes) :
    peek (b :: rest) = (.ok (some b), b :: rest) := by
  simp [peek, h]

lemma advance_cons (b : UInt8) (rest : Bytes) : advance (b :: rest) = (.ok (), rest) := rfl

/-! ## Values and what follows them -/

/-- What may stand behind a value in compact JSON: nothing, a comma or a closing bracket. -/
def Delimits (rest : Bytes) : Prop := ∀ b ∈ rest.head?, b = 44 ∨ b = 93 ∨ b = 125

/-- A reader takes a written value off the front of whatever text goes on behind it as JSON may go on. -/
def Reads (r : Reader α) (written : List Char) (a : α) : Prop :=
  ∀ rest, Delimits rest → r (charBytes written ++ rest) = (.ok a, rest)

lemma delimits_nil : Delimits [] := by simp [Delimits]

lemma delimits_comma (rest : Bytes) : Delimits (44 :: rest) := by simp [Delimits]

lemma delimits_brace (rest : Bytes) : Delimits (125 :: rest) := by simp [Delimits]

lemma Reads.readAll {r : Reader α} {written : List Char} {a : α} (h : Reads r written a) :
    Json.readAll r (utf8 (String.ofList written)) = .ok a := by
  have hr := h [] delimits_nil
  rw [List.append_nil] at hr
  unfold Json.readAll
  rw [utf8_ofList, hr]
  rfl

end Reader

/-! ## Characters of a string -/

/-- A byte that stands for itself in a string. -/
def IsPlain (b : UInt8) : Prop := ¬ b < 32 ∧ b ≠ 34 ∧ b ≠ 92

/-- Characters that stand for `c` behind a backslash, both where a string is read and where it is skipped. -/
def IsEscape (tail : List Char) (c : Char) : Prop :=
  ∀ rest, escape (charBytes tail ++ rest) = (.ok c, rest) ∧
    ∀ u fuel, skipString (u :: fuel) (92 :: (charBytes tail ++ rest)) = skipString fuel rest

lemma isEscape_letter {letter c : Char} (hl : letter.toNat < 128) (hu : UInt8.ofNat letter.toNat ≠ 117)
    (hc : letterEscape? (UInt8.ofNat letter.toNat) = some c) : IsEscape [letter] c := by
  intro rest
  rw [charBytes_cons, utf8EncodeChar_of_lt hl, charBytes_nil]
  constructor
  · show escape (UInt8.ofNat letter.toNat :: rest) = _
    rw [escape, Reader.bind_ok (Reader.take_cons _ _)]
    simp only [hu, if_false, hc]
    rfl
  · intro u fuel
    show skipString (u :: fuel) (92 :: UInt8.ofNat letter.toNat :: rest) = _
    rw [skipString, Reader.bind_ok (Reader.take_cons _ _)]
    simp only [show (92 : UInt8) ≠ 34 from by decide, if_false, if_true]
    rw [Reader.bind_ok (Reader.take_cons _ _)]
    simp only [hu, if_false, hc, Option.isSome_some, if_true]

lemma isEscape_control {n : Nat} (h : n < 32) :
    IsEscape ['u', '0', '0', hexDigit (n / 16), hexDigit n] (Char.ofNat n) := by
  intro rest
  simp only [charBytes_cons, charBytes_nil]
  interval_cases n <;> exact ⟨rfl, fun _ _ => rfl⟩

lemma isPlain_iff {b : UInt8} : IsPlain b ↔ 32 ≤ b.toNat ∧ b.toNat ≠ 34 ∧ b.toNat ≠ 92 := by
  unfold IsPlain
  rw [UInt8.lt_iff_toNat_lt, Ne, Ne, UInt8.ext_iff, UInt8.ext_iff]
  exact and_congr_left' Nat.not_lt

/-- A character is written as an escape, or as itself with bytes that stand for themselves. -/
theorem escapedChar_cases (c : Char) :
    (∃ tail, escapedChar c = '\\' :: tail ∧ IsEscape tail c) ∨
    (escapedChar c = [c] ∧ ∀ b ∈ String.utf8EncodeChar c, IsPlain b) := by
  have hofNat : ∀ {n}, c.toNat = n → c = Char.ofNat n := fun h => by rw [← h, Char.ofNat_toNat]
  unfold escapedChar
  by_cases h1 : c = '"'
  · rw [if_pos h1, h1]; exact .inl ⟨_, rfl, isEscape_letter (by decide) (by decide) rfl⟩
  rw [if_neg h1]
  by_cases h2 : c = '\\'
  · rw [if_pos h2, h2]; exact .inl ⟨_, rfl, isEscape_letter (by decide) (by decide) rfl⟩
  rw [if_neg h2]
  by_cases h3 : c.toNat = 8
  · rw [if_pos h3, hofNat h3]; exact .inl ⟨_, rfl, isEscape_letter (by decide) (by decide) rfl⟩
  rw [if_neg h3]
  by_cases h4 : c.toNat = 12
  · rw [if_pos h4, hofNat h4]; exact .inl ⟨_, rfl, isEscape_letter (by decide) (by decide) rfl⟩
  rw [if_neg h4]
  by_cases h5 : c = '\n'
  · rw [if_pos h5, h5]; exact .inl ⟨_, rfl, isEscape_letter (by decide) (by decide) rfl⟩
  rw [if_neg h5]
  by_cases h6 : c = '\r'
  · rw [if_pos h6, h6]; exact .inl ⟨_, rfl, isEscape_letter (by decide) (by decide) rfl⟩
  rw [if_neg h6]
  by_cases h7 : c = '\t'
  · rw [if_pos h7, h7]; exact .inl ⟨_, rfl, isEscape_letter (by decide) (by decide) rfl⟩
  rw [if_neg h7]
  by_cases h8 : c.toNat < 32
  · rw [if_pos h8]; exact .inl ⟨_, rfl, by simpa only [Char.ofNat_toNat] using isEscape_control h8⟩
  rw [if_neg h8]
  refine .inr ⟨rfl, fun b hb => ?_⟩
  by_cases hc : c.toNat < 128
  · rw [utf8EncodeChar_of_lt hc, List.mem_singleton] at hb
    have hb : b.toNat = c.toNat := by rw [hb, UInt8.toNat_ofNat']; omega
    rw [isPlain_iff, hb]
    exact ⟨Nat.le_of_not_lt h8, fun h => h1 (hofNat h), fun h => h2 (hofNat h)⟩
  · have hb := le_of_mem_utf8EncodeChar (Nat.le_of_not_lt hc) b hb
    exact isPlain_iff.2 (by omega)

/-! ## Strings -/

/-- A loop over a string that takes a plain byte or an escape in each round; `taken` holds the bytes that were
meant so far, last first. -/
structure IsStringLoop {α : Type} (loop : (fuel taken : Bytes) → Reader α) : Prop where
  plain : ∀ {b : UInt8}, IsPlain b → ∀ u fuel taken rest,
    loop (u :: fuel) taken (b :: rest) = loop fuel (b :: taken) rest
  escape : ∀ {tail : List Char} {c : Char}, IsEscape tail c → ∀ u fuel taken rest,
    loop (u :: fuel) taken (92 :: (charBytes tail ++ rest)) =
      loop fuel ((String.utf8EncodeChar c).reverse ++ taken) rest

lemma isStringLoop_stringBody : IsStringLoop stringBody where
  plain := by
    intro b hb u fuel taken rest
    rw [stringBody, Reader.bind_ok (Reader.take_cons b _)]
    simp only [hb.1, hb.2.1, hb.2.2, if_false]
  escape := by
    intro tail c ht u fuel taken rest
    rw [stringBody, Reader.bind_ok (Reader.take_cons _ _)]
    simp only [show (92 : UInt8) ≠ 34 from by decide, if_false, if_true]
    rw [Reader.bind_ok (ht rest).1, List.reverseAux_eq]

lemma isStringLoop_skipString : IsStringLoop fun fuel _ => skipString fuel where
  plain := by
    intro b hb u fuel _ rest
    rw [skipString, Reader.bind_ok (Reader.take_cons b _)]
    simp only [hb.1, hb.2.1, hb.2.2, if_false]
  escape := fun ht u fuel _ rest => (ht rest).2 u fuel

section IsStringLoop

variable {α : Type} {loop : (fuel taken : Bytes) → Reader α} (h : IsStringLoop loop)
include h

lemma IsStringLoop.plainBytes {bytes : Bytes} (hb : ∀ b ∈ bytes, IsPlain b) (fuel taken rest : Bytes)
    (hf : bytes.length ≤ fuel.length) :
    loop fuel taken (bytes ++ rest) = loop (fuel.drop bytes.length) (bytes.reverse ++ taken) rest := by
  induction bytes generalizing fuel taken with
  | nil => rfl
  | cons b bytes ih =>
    rcases fuel with _ | ⟨u, fuel⟩
    · simp at hf
    · rw [List.cons_append, h.plain (hb b List.mem_cons_self),
        ih (fun b hm => hb b (List.mem_cons_of_mem _ hm)) fuel _ (by simpa using hf)]
      simp

/-- A written character is taken, at the cost of no more fuel than it has bytes. -/
lemma IsStringLoop.escapedChar (c : Char) (fuel taken rest : Bytes)
    (hf : (charBytes (Json.escapedChar c)).length ≤ fuel.length) :
    ∃ left : Bytes, fuel.length ≤ left.length + (charBytes (Json.escapedChar c)).length ∧
      loop fuel taken (charBytes (Json.escapedChar c) ++ rest) =
        loop left ((String.utf8EncodeChar c).reverse ++ taken) rest := by
  rcases escapedChar_cases c with ⟨tail, he, ht⟩ | ⟨he, hp⟩
  · have hbytes : charBytes (Json.escapedChar c) = 92 :: charBytes tail := by rw [he]; rfl
    rw [hbytes] at hf ⊢
    rcases fuel with _ | ⟨u, fuel⟩
    · simp at hf
    · exact ⟨fuel, by simp, h.escape ht u fuel taken rest⟩
  · have hbytes : charBytes (Json.escapedChar c) = String.utf8EncodeChar c := by rw [he]; simp
    rw [hbytes] at hf ⊢
    exact ⟨_, by rw [List.length_drop]; omega, h.plainBytes hp fuel taken rest hf⟩

theorem IsStringLoop.escaped (cs : List Char) (fuel taken rest : Bytes)
    (hf : (charBytes (cs.flatMap Json.escapedChar)).length ≤ fuel.length) :
    ∃ left : Bytes, fuel.length ≤ left.length + (charBytes (cs.flatMap Json.escapedChar)).length ∧
      loop fuel taken (charBytes (cs.flatMap Json.escapedChar) ++ rest) =
        loop left ((charBytes cs).reverse ++ taken) rest := by
  induction cs generalizing fuel taken with
  | nil => exact ⟨fuel, Nat.le_add_right _ _, rfl⟩
  | cons c cs ih =>
    rw [List.flatMap_cons, charBytes_append, List.length_append] at hf ⊢
    obtain ⟨mid, hm, hchar⟩ := h.escapedChar c fuel taken
      (charBytes (cs.flatMap Json.escapedChar) ++ rest) (by omega)
    obtain ⟨left, hl, hrest⟩ := ih mid ((String.utf8EncodeChar c).reverse ++ taken) (by omega)
    refine ⟨left, by omega, ?_⟩
    rw [List.append_assoc, hchar, hrest]
    simp

end IsStringLoop

namespace Reader

variable {α : Type}

lemma charBytes_writeString (s : String) (rest : Bytes) : charBytes (writeString s) ++ rest =
    34 :: (charBytes (s.toList.flatMap escapedChar) ++ 34 :: rest) := by
  rw [writeString, List.cons_append, charBytes_cons, charBytes_append, charBytes_cons, charBytes_nil]
  simp [utf8EncodeChar_of_lt (show '"'.toNat < 128 by decide)]

lemma stringTail_escaped (s : String) (rest : Bytes) :
    stringTail (charBytes (s.toList.flatMap escapedChar) ++ 34 :: rest) = (.ok s, rest) := by
  obtain ⟨left, hl, hbody⟩ := isStringLoop_stringBody.escaped s.toList
    (charBytes (s.toList.flatMap escapedChar) ++ 34 :: rest) [] (34 :: rest) (by simp)
  rcases left with _ | ⟨u, left⟩
  · simp at hl
  · have hquote : stringBody (u :: left) ((charBytes s.toList).reverse ++ []) (34 :: rest) =
        (.ok (charBytes s.toList), rest) := by
      rw [stringBody, bind_ok (take_cons _ _), if_pos rfl, List.append_nil, List.reverse_reverse]
      rfl
    rw [stringTail, get_bind, bind_ok (hbody.trans hquote), ← utf8_eq_charBytes, ofUtf8?_utf8]
    rfl

/-- **A written string is read back.** -/
theorem reads_string (s : String) : Reads string (writeString s) s := by
  intro rest _
  rw [charBytes_writeString, string, bind_ok (peek_cons (by decide) _), if_pos rfl, bind_ok (advance_cons _ _)]
  exact stringTail_escaped s rest

lemma writeString_injective : Function.Injective writeString := by
  intro s t h
  have hs := reads_string s [] delimits_nil
  rw [h, reads_string t [] delimits_nil] at hs
  cases hs
  rfl

lemma reads_nullable_string (s : String) : Reads (nullable string) (writeString s) (some s) := by
  intro rest hr
  have hs := reads_string s rest hr
  rw [charBytes_writeString] at hs ⊢
  rw [nullable, bind_ok (peek_cons (by decide) _), if_neg (by decide), bind_ok hs]
  rfl

lemma reads_variant {ofName? : String → Option α} {name : String} {a : α} (h : ofName? name = some a) :
    Reads (variant ofName?) (writeString name) a := by
  intro rest hr
  have hs := reads_string name rest hr
  rw [charBytes_writeString] at hs ⊢
  rw [variant, bind_ok (peek_cons (by decide) _), if_neg (by decide), if_pos rfl, named, bind_ok hs, h]
  rfl

lemma skipStart_quote (body : Bytes) : skipStart (34 :: body) = (skipString body >>= fun _ => pure none) body := by
  have hdigit : isDigit 34 = false := by decide
  have hliteral : startsLiteral 34 = false := by decide
  rw [skipStart, bind_ok (peek_cons (by decide) _)]
  simp only [hdigit, hliteral]
  rw [if_neg (by decide), bind_ok (advance_cons _ _), if_neg (by decide), if_neg (by decide), if_neg (by decide),
    if_pos trivial, get_bind]

theorem reads_skip (s : String) : Reads skip (writeString s) () := by
  intro rest _
  obtain ⟨left, hl, hbody⟩ := isStringLoop_skipString.escaped s.toList
    (charBytes (s.toList.flatMap escapedChar) ++ 34 :: rest) [] (34 :: rest) (by simp)
  have hquote : skipString left (34 :: rest) = (.ok (), rest) := by
    rcases left with _ | ⟨u, left⟩
    · simp at hl
    · rw [skipString, bind_ok (take_cons _ _), if_pos rfl]
      rfl
  have hstart : skipStart (34 :: (charBytes (s.toList.flatMap escapedChar) ++ 34 :: rest)) = (.ok none, rest) := by
    rw [skipStart_quote, bind_ok (hbody.trans hquote)]
    rfl
  rw [charBytes_writeString, skip, get_bind, skipFrom, bind_ok hstart]
  rfl

end Reader

end Gatehouse.Json
