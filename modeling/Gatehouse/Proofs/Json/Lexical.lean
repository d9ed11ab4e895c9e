import Gatehouse.Json.Skip
import Gatehouse.Proofs.Json.Grammar

/-!
# Strings and numbers as they are read

What a reader has taken when it succeeds: strings and numbers of the grammar.

* `Reader.bind_ok_iff`, `take_ok_iff`, … — when the readers of bytes succeed, and with what;
* `stringTail_ok`, `skipString_ok` — what stands behind an opening quote is a string, and a string that is kept is
  the text that is spelled;
* `number_ok`, `skipNumber_ok` — what stands behind a sign is a number, and a natural number is what it denotes.
-/

namespace Gatehouse.Json

variable {α β : Type}

/-! ## When a reader succeeds -/

section Success

variable {r : Reader α} {f : α → Reader β} {a : α} {b : β} {text rest : Bytes}

lemma Reader.bind_ok_iff :
    (r >>= f) text = (.ok b, rest) ↔ ∃ a mid, r text = (.ok a, mid) ∧ f a mid = (.ok b, rest) := by
  rw [Reader.bind_eq]
  rcases hr : r text with ⟨a | a, mid⟩
  · constructor
    · intro h
      cases h
    · rintro ⟨_, _, h, -⟩
      cases h
  · constructor
    · intro h
      exact ⟨a, mid, rfl, h⟩
    · rintro ⟨_, _, h, hf⟩
      cases h
      exact hf

lemma Reader.pure_ok_iff {a' : α} : (pure a : Reader α) text = (.ok a', rest) ↔ a = a' ∧ text = rest := by
  show (Except.ok a, text) = _ ↔ _
  simp

lemma Reader.throw_ok_iff {e : Flaw} : (throw e : Reader α) text = (.ok a, rest) ↔ False := by
  show (Except.error e, text) = _ ↔ _
  simp

lemma peekByte_bind (f : Option UInt8 → Reader β) : (peekByte >>= f) text = f text.head? text := rfl

lemma peek_bind (f : Option UInt8 → Reader β) :
    (peek >>= f) text = f (behindBlanks text).head? (behindBlanks text) := rfl

lemma advance_bind (f : Unit → Reader β) : (advance >>= f) text = f () text.tail := rfl

lemma takeDigits_bind (f : Bytes → Reader β) :
    (takeDigits >>= f) text = f (text.takeWhile isDigit) (text.dropWhile isDigit) := rfl

lemma set_bind (bytes : Bytes) (f : PUnit → Reader β) : ((set bytes : Reader PUnit) >>= f) text = f ⟨⟩ bytes := rfl

lemma take_ok_iff {next : UInt8} : take text = (.ok next, rest) ↔ text = next :: rest := by
  cases text with
  | nil =>
    show (Except.error Flaw.malformed, []) = _ ↔ _
    simp
  | cons b behind =>
    show (Except.ok b, behind) = _ ↔ _
    simp

lemma expect_ok_iff {wanted : UInt8} {u : Unit} : expect wanted text = (.ok u, rest) ↔ text = wanted :: rest := by
  rw [expect, Reader.bind_ok_iff]
  constructor
  · rintro ⟨next, mid, ht, h⟩
    split at h
    · rw [take_ok_iff.1 ht, ‹next = wanted›, (Reader.pure_ok_iff.1 h).2]
    · exact (Reader.throw_ok_iff.1 h).elim
  · rintro rfl
    exact ⟨wanted, rest, rfl, by rw [if_pos rfl]; rfl⟩

lemma expectAll_ok_iff {wanted : Bytes} {u : Unit} : expectAll wanted text = (.ok u, rest) ↔ text = wanted ++ rest := by
  induction wanted generalizing text with
  | nil => simp [expectAll, Reader.pure_ok_iff]
  | cons b wanted ih =>
    rw [expectAll, Reader.bind_ok_iff]
    simp only [expect_ok_iff, ih]
    simp

lemma Reader.guard_ok_iff {c : Prop} [Decidable c] {e : Flaw} {next : Unit → Reader α} :
    (if c then (throw e : Reader Unit) >>= next else next ()) text = (.ok a, rest) ↔
      ¬ c ∧ next () text = (.ok a, rest) := by
  by_cases hc : c
  · rw [if_pos hc, Reader.bind_ok_iff]
    simp [hc, Reader.throw_ok_iff]
  · simp [hc]

lemma Reader.advance_if {c : Prop} [Decidable c] {next : Unit → Reader α} :
    (if c then advance >>= next else next ()) text = next () (if c then text.tail else text) := by
  by_cases hc : c
  · rw [if_pos hc, if_pos hc]
    rfl
  · rw [if_neg hc, if_neg hc]

lemma hexWord_ok {n : Nat} (h : hexWord text = (.ok n, rest)) :
    ∃ a b c d, text = a :: b :: c :: d :: rest ∧ hexNumber? a b c d = some n := by
  unfold hexWord at h
  split at h
  · rename_i a b c d behind
    dsimp only at h
    split at h
    · cases h
      exact ⟨a, b, c, d, rfl, ‹_›⟩
    · cases h
  · cases h

end Success

/-! ## Strings -/

lemma eq_utf8_of_ofUtf8? {bytes : Bytes} {s : String} (h : ofUtf8? bytes = some s) : bytes = utf8 s := by
  unfold ofUtf8? String.fromUTF8? at h
  split at h
  · cases h
    show bytes = bytes.toByteArray.toList
    rw [toList_toByteArray]
  · cases h

/-- What an escape stands for behind its backslash: a character, in front of all that may follow it. -/
def IsEscaped (body : Bytes) (c : Char) : Prop :=
  ∀ {behind bytes : Bytes}, Means behind bytes → Means (92 :: (body ++ behind)) (String.utf8EncodeChar c ++ bytes)

lemma codeUnits_ok {text rest : Bytes} {c : Char} (h : codeUnits text = (.ok c, rest)) :
    ∃ body, text = body ++ rest ∧ IsEscaped (117 :: body) c := by
  rw [codeUnits, Reader.bind_ok_iff] at h
  obtain ⟨high, mid, hhigh, h⟩ := h
  obtain ⟨a, b, c', d, rfl, hn⟩ := hexWord_ok hhigh
  split at h
  · exact (Reader.throw_ok_iff.1 h).elim
  · split at h
    · obtain ⟨rfl, rfl⟩ := Reader.pure_ok_iff.1 h
      exact ⟨[a, b, c', d], rfl, fun hm => .unit hn (by omega) hm⟩
    · simp only [Reader.bind_ok_iff, expect_ok_iff] at h
      obtain ⟨_, _, rfl, _, _, rfl, low, behind, hlow, h⟩ := h
      obtain ⟨e, f, g, i, rfl, hn'⟩ := hexWord_ok hlow
      split at h
      · exact (Reader.throw_ok_iff.1 h).elim
      · obtain ⟨rfl, rfl⟩ := Reader.pure_ok_iff.1 h
        exact ⟨[a, b, c', d, 92, 117, e, f, g, i], rfl, fun hm => .pair hn (by omega) hn' (by omega) hm⟩

lemma escape_ok {text rest : Bytes} {c : Char} (h : escape text = (.ok c, rest)) :
    ∃ body, text = body ++ rest ∧ IsEscaped body c := by
  rw [escape, Reader.bind_ok_iff] at h
  obtain ⟨b, mid, hb, h⟩ := h
  rw [take_ok_iff.1 hb]
  split at h
  · rename_i hu
    obtain ⟨body, rfl, hbody⟩ := codeUnits_ok h
    exact ⟨117 :: body, by rw [hu]; rfl, hbody⟩
  · cases hl : letterEscape? b with
    | none =>
      rw [hl] at h
      exact (Reader.throw_ok_iff.1 h).elim
    | some c' =>
      rw [hl] at h
      obtain ⟨rfl, rfl⟩ := Reader.pure_ok_iff.1 h
      exact ⟨[b], rfl, fun hm => .letter hl hm⟩

/-- A string that is kept: what stands in front of its closing quote means the bytes that are added to those that
were taken before. -/
lemma stringBody_ok {fuel taken text rest bytes : Bytes} (h : stringBody fuel taken text = (.ok bytes, rest)) :
    ∃ body meant, text = body ++ 34 :: rest ∧ Means body meant ∧ bytes = taken.reverse ++ meant := by
  induction fuel generalizing taken text with
  | nil => exact (Reader.throw_ok_iff.1 h).elim
  | cons u fuel ih =>
    rw [stringBody, Reader.bind_ok_iff] at h
    obtain ⟨b, mid, hb, h⟩ := h
    rw [take_ok_iff.1 hb]
    split at h
    · rename_i hquote
      obtain ⟨rfl, rfl⟩ := Reader.pure_ok_iff.1 h
      exact ⟨[], [], by rw [hquote]; rfl, .nil, by simp⟩
    · rename_i hquote
      split at h
      · rename_i hslash
        obtain ⟨c, behind, hc, htail⟩ := Reader.bind_ok_iff.1 h
        obtain ⟨escaped, rfl, hescaped⟩ := escape_ok hc
        obtain ⟨body, meant, rfl, hbody, rfl⟩ := ih htail
        exact ⟨92 :: (escaped ++ body), _, by simp [hslash], hescaped hbody, by simp [List.reverseAux_eq]⟩
      · rename_i hslash
        split at h
        · exact (Reader.throw_ok_iff.1 h).elim
        · obtain ⟨body, meant, rfl, hbody, rfl⟩ := ih h
          exact ⟨b :: body, b :: meant, rfl, .plain ⟨‹_›, hquote, hslash⟩ hbody, by simp⟩

/-- What stands behind an opening quote is a string, which spells the text that it is read as. -/
theorem stringTail_ok {text rest : Bytes} {s : String} (h : stringTail text = (.ok s, rest)) :
    ∃ body, text = body ++ 34 :: rest ∧ Spells body s := by
  rw [stringTail, Reader.get_bind, Reader.bind_ok_iff] at h
  obtain ⟨bytes, mid, hbytes, h⟩ := h
  obtain ⟨body, meant, rfl, hbody, hmeant⟩ := stringBody_ok hbytes
  rw [List.reverse_nil, List.nil_append] at hmeant
  rw [← hmeant] at hbody
  cases hs : ofUtf8? bytes with
  | none =>
    rw [hs] at h
    exact (Reader.throw_ok_iff.1 h).elim
  | some s' =>
    rw [hs] at h
    obtain ⟨rfl, rfl⟩ := Reader.pure_ok_iff.1 h
    refine ⟨body, rfl, ?_⟩
    unfold Spells
    rwa [← eq_utf8_of_ofUtf8? hs]

theorem skipString_ok {fuel text rest : Bytes} {u : Unit} (h : skipString fuel text = (.ok u, rest)) :
    ∃ body, text = body ++ 34 :: rest ∧ IsBody body := by
  induction fuel generalizing text with
  | nil => exact (Reader.throw_ok_iff.1 h).elim
  | cons _ fuel ih =>
    rw [skipString, Reader.bind_ok_iff] at h
    obtain ⟨b, mid, hb, h⟩ := h
    rw [take_ok_iff.1 hb]
    split at h
    · rename_i hquote
      obtain ⟨-, rfl⟩ := Reader.pure_ok_iff.1 h
      exact ⟨[], by rw [hquote]; rfl, .nil⟩
    · rename_i hquote
      split at h
      · rename_i hslash
        obtain ⟨letter, behind, hletter, htail⟩ := Reader.bind_ok_iff.1 h
        rw [take_ok_iff.1 hletter, hslash]
        split at htail
        · rename_i hu
          obtain ⟨n, behind', hword, hrest⟩ := Reader.bind_ok_iff.1 htail
          obtain ⟨a, b, c, d, rfl, hn⟩ := hexWord_ok hword
          obtain ⟨body, rfl, hbody⟩ := ih hrest
          exact ⟨92 :: 117 :: a :: b :: c :: d :: body, by rw [hu]; rfl, .unit (by rw [hn]; rfl) hbody⟩
        · split at htail
          · obtain ⟨body, rfl, hbody⟩ := ih htail
            exact ⟨92 :: letter :: body, rfl, .letter ‹_› hbody⟩
          · exact (Reader.throw_ok_iff.1 htail).elim
      · rename_i hslash
        split at h
        · exact (Reader.throw_ok_iff.1 h).elim
        · obtain ⟨body, rfl, hbody⟩ := ih h
          exact ⟨b :: body, rfl, .plain ⟨‹_›, hquote, hslash⟩ hbody⟩

/-! ## Numbers -/

lemma realNumber_ok {significand : Nat} {exponent : Int} {text rest : Bytes} {k : Number}
    (h : realNumber significand exponent text = (.ok k, rest)) : k = .real ∧ rest = text := by
  unfold realNumber at h
  split at h
  · obtain ⟨rfl, rfl⟩ := Reader.pure_ok_iff.1 h
    exact ⟨rfl, rfl⟩
  · exact (Reader.throw_ok_iff.1 h).elim

lemma isRun_cons {d : UInt8} (h : isDigit d = true) (behind : Bytes) :
    IsRun (d :: behind) (d :: behind.takeWhile isDigit) (behind.dropWhile isDigit) :=
  ⟨(List.takeWhile_cons_of_pos h).symm, (List.dropWhile_cons_of_pos h).symm, by simp⟩

/-- The digits of an exponent are taken up to the last one, or up to one that makes the exponent too large. -/
lemma exponentDigits_rest {value : Nat} {text rest : Bytes} {o : Option Nat}
    (h : exponentDigits value text = (o, rest)) :
    rest.dropWhile isDigit = text.dropWhile isDigit ∧ (o ≠ none → rest = text.dropWhile isDigit) := by
  induction text generalizing value with
  | nil =>
    cases h
    exact ⟨rfl, fun _ => rfl⟩
  | cons d text ih =>
    unfold exponentDigits at h
    split at h
    · rename_i hd
      rw [List.dropWhile_cons_of_pos hd]
      dsimp only at h
      split at h
      · exact ih h
      · cases h
        exact ⟨rfl, fun ho => absurd rfl ho⟩
    · rename_i hd
      cases h
      rw [List.dropWhile_cons_of_neg hd]
      exact ⟨rfl, fun _ => rfl⟩

lemma exists_sign (text : Bytes) : ∃ sign ∈ [[], [43], [45]], text = sign ++
    if (decide (text.head? = some 43) || decide (text.head? = some 45)) = true then text.tail else text := by
  rcases text with _ | ⟨b, behind⟩
  · exact ⟨[], by simp, rfl⟩
  · by_cases hplus : b = 43
    · exact ⟨[43], by simp, by simp [hplus]⟩
    · by_cases hminus : b = 45
      · exact ⟨[45], by simp, by simp [hminus]⟩
      · exact ⟨[], by simp, by simp [hplus, hminus]⟩

lemma exponentTail_ok {significand : Nat} {exponent : Int} {text rest : Bytes} {k : Number}
    (h : exponentTail significand exponent text = (.ok k, rest)) :
    k = .real ∧ ∃ sign ∈ [[], [43], [45]], ∃ behind digits, text = sign ++ behind ∧ IsRun behind digits rest := by
  rw [exponentTail, peekByte_bind] at h
  dsimp only at h
  rw [Reader.advance_if, Reader.bind_ok_iff] at h
  obtain ⟨first, mid, hfirst, h⟩ := h
  rw [Reader.guard_ok_iff, Reader.get_bind] at h
  obtain ⟨hdigit, h⟩ := h
  have hrun := isRun_cons (by simpa using hdigit) mid
  suffices hk : k = .real ∧ rest = mid.dropWhile isDigit by
    obtain ⟨sign, hmem, htext⟩ := exists_sign text
    rw [take_ok_iff.1 hfirst] at htext
    exact ⟨hk.1, sign, hmem, _, _, htext, hk.2 ▸ hrun⟩
  -- an exponent that grows too large is given up, but what is left of its digits is dropped all the same
  rcases hexp : exponentDigits (first.toNat - 48) mid with ⟨_ | value, left⟩
  · obtain ⟨hleft, -⟩ := exponentDigits_rest hexp
    rw [hexp] at h
    dsimp only at h
    rw [set_bind, Reader.guard_ok_iff, takeDigits_bind, Reader.pure_ok_iff] at h
    obtain ⟨-, rfl, rfl⟩ := h
    exact ⟨rfl, hleft⟩
  · obtain ⟨-, hleft⟩ := exponentDigits_rest hexp
    rw [hexp] at h
    dsimp only at h
    rw [set_bind] at h
    obtain ⟨hk, rfl⟩ := realNumber_ok h
    exact ⟨hk, hleft (by simp)⟩

lemma isExponent_of_exponentTail {text rest : Bytes} {significand : Nat} {exponent : Int} {k : Number}
    (hl : isExponentLetter text.head? = true) (h : exponentTail significand exponent text.tail = (.ok k, rest)) :
    k = .real ∧ ∃ e, IsExponent text e rest := by
  obtain ⟨hk, sign, hmem, behind, digits, htail, hrun⟩ := exponentTail_ok h
  rcases text with _ | ⟨letter, text⟩
  · cases hl
  · rw [List.tail_cons] at htail
    rw [htail] at hl ⊢
    exact ⟨hk, _, .present rfl hl hmem hrun⟩

lemma fractionTail_ok {significand : Nat} {exponent : Int} {text rest : Bytes} {k : Number}
    (h : fractionTail significand exponent text = (.ok k, rest)) :
    k = .real ∧ ∃ digits mid e, IsRun text digits mid ∧ IsExponent mid e rest := by
  rw [fractionTail, takeDigits_bind] at h
  dsimp only at h
  rw [Reader.guard_ok_iff, peekByte_bind] at h
  obtain ⟨hne, h⟩ := h
  have hrun : IsRun text (text.takeWhile isDigit) (text.dropWhile isDigit) := ⟨rfl, rfl, by simpa using hne⟩
  split at h
  · rename_i hl
    rw [advance_bind] at h
    obtain ⟨hk, e, he⟩ := isExponent_of_exponentTail hl h
    exact ⟨hk, _, _, e, hrun, he⟩
  · rename_i hl
    obtain ⟨hk, rfl⟩ := realNumber_ok h
    exact ⟨hk, _, _, [], hrun, .absent (by simpa using hl)⟩

/-- What stands behind the whole part of a number. A number without a point and an exponent, all of whose digits
went into the significand, is natural if it has no sign. -/
lemma numberTail_ok {negative : Bool} {significand unused : Nat} {text rest : Bytes} {k : Number}
    (h : numberTail negative significand unused text = (.ok k, rest)) :
    ∃ f mid e, IsFraction text f mid ∧ IsExponent mid e rest ∧
      ∀ n, k = .natural n → negative = false ∧ f = [] ∧ e = [] ∧ unused = 0 ∧ significand = n := by
  rw [numberTail, peekByte_bind] at h
  split at h
  · rename_i hpoint
    rw [advance_bind] at h
    obtain ⟨rfl, digits, mid, e, hrun, he⟩ := fractionTail_ok h
    rcases text with _ | ⟨b, text⟩
    · cases hpoint
    · cases hpoint
      exact ⟨digits, mid, e, .present rfl hrun, he, by simp⟩
  · rename_i hpoint
    have hfraction : IsFraction text [] text := .absent hpoint
    split at h
    · rename_i hl
      rw [advance_bind] at h
      obtain ⟨rfl, e, he⟩ := isExponent_of_exponentTail hl h
      exact ⟨[], text, e, hfraction, he, by simp⟩
    · rename_i hl
      have hexponent : IsExponent text [] text := .absent (by simpa using hl)
      split at h
      · obtain ⟨rfl, rfl⟩ := realNumber_ok h
        exact ⟨[], rest, [], hfraction, hexponent, by simp⟩
      · rename_i hunused
        split at h
        · rename_i hneg
          obtain ⟨rfl, rfl⟩ := Reader.pure_ok_iff.1 h
          refine ⟨[], text, [], hfraction, hexponent, fun n hn => ?_⟩
          cases hn
          exact ⟨by simpa using hneg, rfl, rfl, by simpa using hunused, rfl⟩
        · split at h
          · obtain ⟨rfl, rfl⟩ := Reader.pure_ok_iff.1 h
            exact ⟨[], text, [], hfraction, hexponent, by simp⟩
          · obtain ⟨rfl, rfl⟩ := Reader.pure_ok_iff.1 h
            exact ⟨[], text, [], hfraction, hexponent, by simp⟩

lemma appendDigits_zero {significand n : Nat} {digits : Bytes} (h : appendDigits significand digits = (n, 0)) :
    digits.foldl (fun n d => n * 10 + (d.toNat - 48)) significand = n := by
  induction digits generalizing significand with
  | nil => cases h; rfl
  | cons d digits ih =>
    unfold appendDigits at h
    dsimp only at h
    split at h
    · exact ih h
    · cases h

lemma takeWhile_isDigit_eq_nil {text : Bytes} (h : ¬ text.head?.any isDigit = true) :
    text.takeWhile isDigit = [] ∧ text.dropWhile isDigit = text := by
  rcases text with _ | ⟨b, text⟩
  · exact ⟨rfl, rfl⟩
  · have hb : ¬ isDigit b = true := by simpa using h
    exact ⟨List.takeWhile_cons_of_neg hb, List.dropWhile_cons_of_neg hb⟩

lemma isWhole_zero {text : Bytes} (h : ¬ text.head?.any isDigit = true) : IsWhole (48 :: text) [48] text := by
  obtain ⟨htake, hdrop⟩ := takeWhile_isDigit_eq_nil h
  have hrun := isRun_cons (d := 48) (by decide) text
  rw [htake, hdrop] at hrun
  exact ⟨hrun, fun _ => rfl⟩

lemma isWhole_cons {d : UInt8} (hd : isDigit d = true) (hne : d ≠ 48) (text : Bytes) :
    IsWhole (d :: text) (d :: text.takeWhile isDigit) (text.dropWhile isDigit) :=
  ⟨isRun_cons hd text, fun h => absurd (Option.some.inj h) hne⟩

/-- **What stands behind a sign is a number,** and one that is read as a natural number denotes it. -/
theorem number_ok {negative : Bool} {text rest : Bytes} {k : Number} (h : number negative text = (.ok k, rest)) :
    ∃ m : Numeral, m.isNegative = negative ∧ IsMagnitude text m rest ∧ ∀ n, k = .natural n → m.IsNatural n := by
  rw [number, Reader.bind_ok_iff] at h
  obtain ⟨first, mid, hfirst, h⟩ := h
  rw [take_ok_iff.1 hfirst]
  split at h
  · rename_i hzero
    rw [peekByte_bind] at h
    dsimp only at h
    rw [Reader.guard_ok_iff] at h
    obtain ⟨f, mid', e, hf, he, hnat⟩ := numberTail_ok h.2
    rw [hzero]
    refine ⟨⟨negative, [48], f, e⟩, rfl, ⟨mid, mid', isWhole_zero h.1, hf, he⟩, fun n hn => ?_⟩
    obtain ⟨hneg, hf, he, -, rfl⟩ := hnat n hn
    exact ⟨hneg, hf, he, rfl⟩
  · rename_i hzero
    split at h
    · rename_i hdigit
      rw [takeDigits_bind] at h
      rcases happend : appendDigits (first.toNat - 48) (mid.takeWhile isDigit) with ⟨significand, unused⟩
      rw [happend] at h
      obtain ⟨f, mid', e, hf, he, hnat⟩ := numberTail_ok h
      refine ⟨⟨negative, _, f, e⟩, rfl, ⟨_, mid', isWhole_cons hdigit hzero mid, hf, he⟩, fun n hn => ?_⟩
      obtain ⟨hneg, hf, he, rfl, rfl⟩ := hnat n hn
      refine ⟨hneg, hf, he, ?_⟩
      rw [← appendDigits_zero happend]
      simp [digitsValue]
    · exact (Reader.throw_ok_iff.1 h).elim

lemma numberTail_negative {negative : Bool} {significand unused : Nat} {text rest : Bytes} {n : Nat}
    (h : numberTail negative significand unused text = (.ok (.negative n), rest)) :
    0 < n ∧ n ≤ 0x8000000000000000 := by
  rw [numberTail, peekByte_bind] at h
  split at h
  · cases (fractionTail_ok h).1
  · split at h
    · cases (exponentTail_ok h).1
    · split at h
      · cases (realNumber_ok h).1
      · split at h
        · cases (Reader.pure_ok_iff.1 h).1
        · split at h
          · cases (Reader.pure_ok_iff.1 h).1
          · next hrange =>
            cases (Reader.pure_ok_iff.1 h).1
            omega

lemma number_negative {negative : Bool} {text rest : Bytes} {n : Nat}
    (h : number negative text = (.ok (.negative n), rest)) : 0 < n ∧ n ≤ 0x8000000000000000 := by
  rw [number, Reader.bind_ok_iff] at h
  obtain ⟨first, mid, -, h⟩ := h
  split at h
  · rw [peekByte_bind] at h
    dsimp only at h
    rw [Reader.guard_ok_iff] at h
    exact numberTail_negative h.2
  · split at h
    · rw [takeDigits_bind] at h
      exact numberTail_negative h
    · exact (Reader.throw_ok_iff.1 h).elim

/-! ### Numbers that are skipped -/

lemma skipDigits_ok {text rest : Bytes} {u : Unit} (h : skipDigits text = (.ok u, rest)) :
    ∃ digits, IsRun text digits rest := by
  rw [skipDigits, takeDigits_bind] at h
  split at h
  · exact (Reader.throw_ok_iff.1 h).elim
  · rename_i hne
    obtain ⟨-, rfl⟩ := Reader.pure_ok_iff.1 h
    exact ⟨_, rfl, rfl, by simpa using hne⟩

lemma skipExponent_ok {text rest : Bytes} {u : Unit} (h : skipExponent text = (.ok u, rest)) :
    ∃ e, IsExponent text e rest := by
  rw [skipExponent, peekByte_bind] at h
  split at h
  · rename_i hl
    rw [advance_bind, peekByte_bind] at h
    dsimp only at h
    rw [Reader.advance_if] at h
    obtain ⟨digits, hrun⟩ := skipDigits_ok h
    rcases text with _ | ⟨letter, text⟩
    · cases hl
    · obtain ⟨sign, hmem, htext⟩ := exists_sign text
      refine ⟨_, .present (congrArg (letter :: ·) htext) ?_ hmem hrun⟩
      simpa [isExponentLetter] using hl
  · rename_i hl
    obtain ⟨-, rfl⟩ := Reader.pure_ok_iff.1 h
    exact ⟨[], .absent (by simpa [isExponentLetter] using hl)⟩

lemma skipTail_ok {text rest : Bytes} {u : Unit}
    (h : (do
      if (← peekByte) = some 46 then
        advance
        skipDigits
      skipExponent : Reader Unit) text = (.ok u, rest)) :
    ∃ f mid e, IsFraction text f mid ∧ IsExponent mid e rest := by
  rw [peekByte_bind] at h
  dsimp only at h
  split at h
  · rename_i hpoint
    rw [advance_bind, Reader.bind_ok_iff] at h
    obtain ⟨_, mid, hdigits, hexponent⟩ := h
    obtain ⟨digits, hrun⟩ := skipDigits_ok hdigits
    obtain ⟨e, he⟩ := skipExponent_ok hexponent
    rcases text with _ | ⟨b, text⟩
    · cases hpoint
    · cases hpoint
      exact ⟨digits, mid, e, .present rfl hrun, he⟩
  · rename_i hpoint
    obtain ⟨e, he⟩ := skipExponent_ok h
    exact ⟨[], text, e, .absent hpoint, he⟩

/-- **What is skipped behind a sign is a number.** -/
theorem skipNumber_ok {text rest : Bytes} {u : Unit} (h : skipNumber text = (.ok u, rest)) (negative : Bool) :
    ∃ m : Numeral, m.isNegative = negative ∧ IsMagnitude text m rest := by
  rw [skipNumber, Reader.bind_ok_iff] at h
  obtain ⟨first, mid, hfirst, h⟩ := h
  rw [take_ok_iff.1 hfirst]
  dsimp only at h
  split at h
  · rename_i hzero
    rw [peekByte_bind, Reader.guard_ok_iff] at h
    obtain ⟨f, mid', e, hf, he⟩ := skipTail_ok h.2
    rw [hzero]
    exact ⟨⟨negative, [48], f, e⟩, rfl, mid, mid', isWhole_zero h.1, hf, he⟩
  · rename_i hzero
    split at h
    · rename_i hdigit
      rw [takeDigits_bind] at h
      obtain ⟨f, mid', e, hf, he⟩ := skipTail_ok h
      exact ⟨⟨negative, _, f, e⟩, rfl, _, mid', isWhole_cons hdigit hzero mid, hf, he⟩
    · obtain ⟨_, _, hthrow, -⟩ := Reader.bind_ok_iff.1 h
      exact (Reader.throw_ok_iff.1 hthrow).elim

end Gatehouse.Json
