import Gatehouse.Proofs.Json.Fields
import Gatehouse.Proofs.Json.Record

/-!
# What JSON is read

The other direction: readers take what the grammar says, wherever it stands.

* `Accepts` — a reader takes a tree wherever it stands, and makes something of it;
* `stringTail_of_spells`, `skipString_of_isBody`, `skipNumber_of_isMagnitude` — strings and numbers;
* `accepts_string`, `accepts_skip` — **every string is read, and every value is skipped,** however deep;
* `Adds`, `accepts_record` — a record is read from every object whose members can be added one after another.
-/

namespace Gatehouse.Json

open Reader (bind_ok bind_ok_iff pure_ok_iff Folds)

variable {α δ σ : Type} {text rest : Bytes}

/-- A reader takes a tree wherever it stands, and makes the same of it everywhere. -/
def Accepts (r : Reader α) (t : Tree) (a : α) : Prop :=
  ∀ ⦃text rest : Bytes⦄, Stands (.value t) text rest → r text = (.ok a, rest)

/-! ## Strings -/

lemma expect_cons (b : UInt8) (rest : Bytes) : expect b (b :: rest) = (.ok (), rest) := expect_ok_iff.2 rfl

section Escapes

variable {a b c d e f g h : UInt8} {n high low : Nat}

lemma hexWord_of_hexNumber? (hn : hexNumber? a b c d = some n) (rest : Bytes) :
    hexWord (a :: b :: c :: d :: rest) = (.ok n, rest) := by
  unfold hexNumber? at hn
  unfold hexWord
  dsimp only
  rw [hn]

lemma codeUnits_unit (hn : hexNumber? a b c d = some n) (hs : n < 0xD800 ∨ 0xDFFF < n) (rest : Bytes) :
    codeUnits (a :: b :: c :: d :: rest) = (.ok (Char.ofNat n), rest) := by
  have hnotLow : ¬ (0xDC00 ≤ n ∧ n ≤ 0xDFFF) := by omega
  have hnotHigh : n < 0xD800 ∨ 0xDBFF < n := by omega
  rw [codeUnits, bind_ok (hexWord_of_hexNumber? hn rest), if_neg hnotLow, if_pos hnotHigh]
  rfl

/-- Two surrogates are a character together. -/
lemma codeUnits_pair (hhigh : hexNumber? a b c d = some high) (hh : 0xD800 ≤ high ∧ high ≤ 0xDBFF)
    (hlow : hexNumber? e f g h = some low) (hl : 0xDC00 ≤ low ∧ low ≤ 0xDFFF) (rest : Bytes) :
    codeUnits (a :: b :: c :: d :: 92 :: 117 :: e :: f :: g :: h :: rest) =
      (.ok (Char.ofNat (0x10000 + (high - 0xD800) * 0x400 + (low - 0xDC00))), rest) := by
  have hnotLow : ¬ (0xDC00 ≤ high ∧ high ≤ 0xDFFF) := by omega
  have hsurrogate : ¬ (high < 0xD800 ∨ 0xDBFF < high) := by omega
  have htrailing : ¬ (low < 0xDC00 ∨ 0xDFFF < low) := by omega
  rw [codeUnits, bind_ok (hexWord_of_hexNumber? hhigh _), if_neg hnotLow, if_neg hsurrogate, bind_ok (expect_cons 92 _),
    bind_ok (expect_cons 117 _), bind_ok (hexWord_of_hexNumber? hlow rest), if_neg htrailing]
  rfl

lemma escape_codeUnits (text : Bytes) : escape (117 :: text) = codeUnits text := by
  rw [escape, bind_ok (Reader.take_cons _ _), if_pos rfl]

lemma escape_letter {char : Char} (hc : letterEscape? b = some char) (rest : Bytes) :
    escape (b :: rest) = (.ok char, rest) := by
  have hu : b ≠ 117 := by
    rintro rfl
    cases hc
  rw [escape, bind_ok (Reader.take_cons _ _), if_neg hu, hc]
  rfl

lemma stringBody_escape {char : Char} (hc : escape text = (.ok char, rest)) (u : UInt8) (fuel taken : Bytes) :
    stringBody (u :: fuel) taken (92 :: text) =
      stringBody fuel ((String.utf8EncodeChar char).reverse ++ taken) rest := by
  rw [stringBody, bind_ok (Reader.take_cons _ _), if_neg (by decide), if_pos rfl, bind_ok hc, List.reverseAux_eq]

end Escapes

/-- **A string is taken** up to its closing quote, and what it means is added to what was taken before. -/
lemma stringBody_of_means {body meant : Bytes} (h : Means body meant) {fuel : Bytes} (hf : body.length < fuel.length)
    (taken rest : Bytes) : stringBody fuel taken (body ++ 34 :: rest) = (.ok (taken.reverse ++ meant), rest) := by
  -- each round takes a byte at least, so the fuel lasts
  induction h generalizing fuel taken with
  | nil =>
    rcases fuel with _ | ⟨u, fuel⟩
    · simp at hf
    · rw [List.nil_append, stringBody, bind_ok (Reader.take_cons _ _), if_pos rfl, List.append_nil]
      rfl
  | plain hb _ ih =>
    rcases fuel with _ | ⟨u, fuel⟩
    · simp at hf
    · rw [List.cons_append, isStringLoop_stringBody.plain hb, ih (by simpa using hf)]
      simp
  | letter hc _ ih =>
    rcases fuel with _ | ⟨u, fuel⟩
    · simp at hf
    · have hf : _ + 2 < fuel.length + 1 := hf
      rw [List.cons_append, List.cons_append, stringBody_escape (escape_letter hc _), ih (by omega)]
      simp
  | @unit a b c d n body bytes hn hs _ ih =>
    rcases fuel with _ | ⟨u, fuel⟩
    · simp at hf
    · have hf : _ + 6 < fuel.length + 1 := hf
      have hescape := (escape_codeUnits _).trans (codeUnits_unit hn hs (body ++ 34 :: rest))
      simp only [List.cons_append]
      rw [stringBody_escape hescape, ih (by omega)]
      simp
  | @pair a b c d e f g h high low body bytes hhigh hh hlow hl _ ih =>
    rcases fuel with _ | ⟨u, fuel⟩
    · simp at hf
    · have hf : _ + 12 < fuel.length + 1 := hf
      have hescape := (escape_codeUnits _).trans (codeUnits_pair hhigh hh hlow hl (body ++ 34 :: rest))
      simp only [List.cons_append]
      rw [stringBody_escape hescape, ih (by omega)]
      simp

/-- **A string that spells a text is read as that text** behind its opening quote. -/
theorem stringTail_of_spells {body : Bytes} {s : String} (h : Spells body s) (rest : Bytes) :
    stringTail (body ++ 34 :: rest) = (.ok s, rest) := by
  have hlong : body.length < (body ++ 34 :: rest).length := by simp
  have hbody := stringBody_of_means h hlong [] rest
  rw [stringTail, Reader.get_bind, bind_ok hbody, List.reverse_nil, List.nil_append, ofUtf8?_utf8]
  rfl

lemma skipString_escape {letter : UInt8} (hl : (letterEscape? letter).isSome = true) (u : UInt8) (fuel rest : Bytes) :
    skipString (u :: fuel) (92 :: letter :: rest) = skipString fuel rest := by
  have hu : letter ≠ 117 := by
    rintro rfl
    cases hl
  rw [skipString, bind_ok (Reader.take_cons _ _), if_neg (by decide), if_pos rfl, bind_ok (Reader.take_cons _ _),
    if_neg hu, if_pos hl]

/-- **What may stand between quotes is skipped.** -/
lemma skipString_of_isBody {body : Bytes} (h : IsBody body) {fuel : Bytes} (hf : body.length < fuel.length)
    (rest : Bytes) : skipString fuel (body ++ 34 :: rest) = (.ok (), rest) := by
  induction h generalizing fuel with
  | nil =>
    rcases fuel with _ | ⟨u, fuel⟩
    · simp at hf
    · rw [List.nil_append, skipString, bind_ok (Reader.take_cons _ _), if_pos rfl]
      rfl
  | plain hb _ ih =>
    rcases fuel with _ | ⟨u, fuel⟩
    · simp at hf
    · exact (isStringLoop_skipString.plain hb u fuel [] _).trans (ih (by simpa using hf))
  | letter hc _ ih =>
    rcases fuel with _ | ⟨u, fuel⟩
    · simp at hf
    · have hf : _ + 2 < fuel.length + 1 := hf
      exact (skipString_escape hc u fuel _).trans (ih (by omega))
  | unit hn _ ih =>
    rcases fuel with _ | ⟨u, fuel⟩
    · simp at hf
    · have hf : _ + 6 < fuel.length + 1 := hf
      obtain ⟨n, hn⟩ := Option.isSome_iff_exists.1 hn
      simp only [List.cons_append]
      rw [skipString, bind_ok (Reader.take_cons _ _), if_neg (by decide), if_pos rfl, bind_ok (Reader.take_cons _ _),
        if_pos rfl, bind_ok (hexWord_of_hexNumber? hn _)]
      exact ih (by omega)

/-! ## Numbers -/

lemma skipDigits_of_isRun {digits : Bytes} (h : IsRun text digits rest) : skipDigits text = (.ok (), rest) := by
  have hne : (text.takeWhile isDigit).isEmpty = false := by
    rw [← h.digits_eq, List.isEmpty_eq_false_iff]
    exact h.ne_nil
  rw [skipDigits, takeDigits_bind, hne, h.rest_eq]
  rfl

/-- The sign in front of the digits of an exponent is dropped. -/
lemma tail_of_sign {sign behind digits : Bytes} (hs : sign ∈ [[], [43], [45]]) (hr : IsRun behind digits rest) :
    (if (decide ((sign ++ behind).head? = some 43) || decide ((sign ++ behind).head? = some 45)) = true
      then (sign ++ behind).tail else sign ++ behind) = behind := by
  obtain ⟨d, tail, rfl, hd⟩ := hr.exists_cons
  have hplus : d ≠ 43 := by
    rintro rfl
    cases hd
  have hminus : d ≠ 45 := by
    rintro rfl
    cases hd
  simp only [List.mem_cons, List.not_mem_nil, or_false] at hs
  rcases hs with rfl | rfl | rfl
  · simp [hplus, hminus]
  · rfl
  · rfl

lemma skipExponent_of_isExponent {exponent : Bytes} (h : IsExponent text exponent rest) :
    skipExponent text = (.ok (), rest) := by
  rw [skipExponent, peekByte_bind]
  cases h with
  | absent hl =>
    have hl : ¬ (decide (text.head? = some 101) || decide (text.head? = some 69)) = true := by
      simpa [isExponentLetter] using hl
    rw [if_neg hl]
    rfl
  | @present sign behind digits _ letter he hl hs hr =>
    have hl : (decide (some letter = some 101) || decide (some letter = some 69)) = true := by
      simpa [isExponentLetter] using hl
    rw [he, List.head?_cons, if_pos hl, advance_bind, peekByte_bind, List.tail_cons]
    dsimp only
    rw [Reader.advance_if, tail_of_sign hs hr]
    exact skipDigits_of_isRun hr

lemma skipTail_of_isFraction {mid fraction exponent : Bytes} (hf : IsFraction text fraction mid)
    (he : IsExponent mid exponent rest) :
    (do
      if (← peekByte) = some 46 then
        advance
        skipDigits
      skipExponent : Reader Unit) text = (.ok (), rest) := by
  rw [peekByte_bind]
  dsimp only
  cases hf with
  | absent hp =>
    rw [if_neg hp]
    exact skipExponent_of_isExponent he
  | present ht hr =>
    rw [ht, List.head?_cons, if_pos rfl, advance_bind, List.tail_cons, bind_ok (skipDigits_of_isRun hr)]
    exact skipExponent_of_isExponent he

/-- **A number is skipped** behind its sign. -/
theorem skipNumber_of_isMagnitude {n : Numeral} (h : IsMagnitude text n rest) : skipNumber text = (.ok (), rest) := by
  obtain ⟨behind, mid, ⟨hrun, hzero⟩, hf, he⟩ := h
  have htail := skipTail_of_isFraction hf he
  obtain ⟨d, digits, rfl, hd⟩ := hrun.exists_cons
  have hwhole := hrun.digits_eq
  have hbehind := hrun.rest_eq
  rw [List.takeWhile_cons_of_pos hd] at hwhole
  rw [List.dropWhile_cons_of_pos hd] at hbehind
  rw [skipNumber, bind_ok (Reader.take_cons _ _)]
  dsimp only
  by_cases hfirst : d = 48
  · -- a zero in front is the whole part, so no digit follows it
    have hnone : digits.takeWhile isDigit = [] := by
      have hsingle := hzero (by rw [hwhole, hfirst]; rfl)
      rw [hwhole] at hsingle
      exact (List.cons.inj hsingle).2
    have hnext : ¬ digits.head?.any isDigit = true := by
      intro hany
      rcases digits with _ | ⟨b, digits⟩
      · cases hany
      · rw [List.takeWhile_cons_of_pos (by simpa using hany)] at hnone
        cases hnone
    rw [(takeWhile_isDigit_eq_nil hnext).2] at hbehind
    rw [if_pos hfirst, peekByte_bind, if_neg hnext, ← hbehind]
    exact htail
  · rw [if_neg hfirst, if_pos hd, takeDigits_bind, ← hbehind]
    exact htail

/-! ## Single values -/

lemma Stands.behindBlanks {t : Tree} (h : Stands (.value t) text rest) :
    Stands (.value t) (Json.behindBlanks text) rest := by
  cases h with
  | literal he => exact .literal ((behindBlanks_idem text).trans he)
  | number hn => exact .number (by rwa [behindBlanks_idem])
  | string he hb => exact .string ((behindBlanks_idem text).trans he) hb
  | list he hi => exact .list ((behindBlanks_idem text).trans he) hi
  | object he hi => exact .object ((behindBlanks_idem text).trans he) hi

/-- White space in front of a whole text is no part of what it says. -/
lemma IsText.behind_blanks {t : Tree} (h : IsText text t) {blanks : Bytes} (hb : ∀ b ∈ blanks, isSpace b = true) :
    IsText (blanks ++ text) t := by
  obtain ⟨rest, hs, hrest⟩ := h
  have hsame : Json.behindBlanks (blanks ++ text) = Json.behindBlanks text := List.dropWhile_append_of_pos hb
  have hfront : Stands (.value t) (Json.behindBlanks (blanks ++ text)) rest := hsame ▸ hs.behindBlanks
  exact ⟨rest, hfront.of_behindBlanks, hrest⟩

/-- **Every string that spells a text is read as that text.** -/
theorem accepts_string {t : Tree} {s : String} (h : t.IsString s) : Accepts Reader.string t s := by
  obtain ⟨body, rfl, hs⟩ := h
  intro text rest hstands
  cases hstands with
  | string he _ =>
    rw [Reader.string, peek_bind, he, List.head?_cons, if_pos rfl, advance_bind, List.tail_cons]
    exact stringTail_of_spells hs rest

/-! ## Values that nobody asks for -/

variable {bracket : Bracket} {brackets : List Bracket}

/-! ### Lengths -/

lemma length_behindBlanks_le (text : Bytes) : (Json.behindBlanks text).length ≤ text.length :=
  (List.dropWhile_suffix _).length_le

lemma length_lt_of_behindBlanks {b : UInt8} (h : Json.behindBlanks text = b :: rest) : rest.length < text.length := by
  have hle := length_behindBlanks_le text
  rw [h, List.length_cons] at hle
  exact hle

lemma IsRun.length_lt {digits : Bytes} (h : IsRun text digits rest) : rest.length < text.length := by
  obtain ⟨d, behind, rfl, hd⟩ := h.exists_cons
  rw [h.rest_eq, List.dropWhile_cons_of_pos hd, List.length_cons]
  exact Nat.lt_succ_of_le (List.dropWhile_suffix _).length_le

lemma IsFraction.length_le {digits : Bytes} (h : IsFraction text digits rest) : rest.length ≤ text.length := by
  cases h with
  | absent _ => exact Nat.le_refl _
  | present ht hr =>
    rw [ht, List.length_cons]
    exact Nat.le_succ_of_le hr.length_lt.le

lemma IsExponent.length_le {exponent : Bytes} (h : IsExponent text exponent rest) : rest.length ≤ text.length := by
  cases h with
  | absent _ => exact Nat.le_refl _
  | present ht _ _ hr =>
    have hlt := hr.length_lt
    rw [ht, List.length_cons, List.length_append]
    omega

lemma IsMagnitude.length_lt {n : Numeral} (h : IsMagnitude text n rest) : rest.length < text.length := by
  obtain ⟨_, _, hw, hf, he⟩ := h
  exact he.length_le.trans_lt (hf.length_le.trans_lt hw.1.length_lt)

lemma IsNumber.length_lt {n : Numeral} (h : IsNumber text n rest) : rest.length < text.length := by
  cases h with
  | negative he _ hm =>
    rw [he, List.length_cons]
    exact Nat.lt_succ_of_lt hm.length_lt
  | positive _ hm => exact hm.length_lt

lemma IsParted.length_le {isFirst : Bool} {parted : Bytes} (h : IsParted isFirst text parted) :
    parted.length ≤ text.length := by
  unfold IsParted at h
  split at h
  · rw [h]
  · exact (length_lt_of_behindBlanks h).le

lemma IsKey.length_lt {body : Bytes} (h : IsKey text body rest) : rest.length < text.length := by
  obtain ⟨quoted, behind, hquote, rfl, -, hcolon⟩ := h
  have hlt := length_lt_of_behindBlanks hquote
  have hrest := length_lt_of_behindBlanks hcolon
  rw [List.length_append, List.length_cons] at hlt
  omega

lemma Stands.length_lt {p : Part} (h : Stands p text rest) : rest.length < text.length := by
  induction h with
  | literal he =>
    have hlt := length_lt_of_behindBlanks he
    rw [List.length_append] at hlt
    omega
  | number hn => exact hn.length_lt.trans_le (length_behindBlanks_le _)
  | string he _ =>
    have hlt := length_lt_of_behindBlanks he
    rw [List.length_append, List.length_cons] at hlt
    omega
  | list he _ ih => exact ih.trans (length_lt_of_behindBlanks he)
  | object he _ ih => exact ih.trans (length_lt_of_behindBlanks he)
  | endItems he => exact length_lt_of_behindBlanks he
  | endMembers he => exact length_lt_of_behindBlanks he
  | item hp _ _ ihvalue ihitems => exact ihitems.trans (ihvalue.trans_le hp.length_le)
  | member hp hk _ _ ihvalue ihmembers => exact ihmembers.trans (ihvalue.trans (hk.length_lt.trans_le hp.length_le))

/-! ### The loop -/

/-- What is done behind a value: nothing more, or what the open brackets ask for. -/
def goOn (fuel : Bytes) (brackets : List Bracket) : Reader Unit :=
  if brackets.isEmpty then pure () else skipFrom fuel false brackets

/-- What the open brackets ask for behind a value is skipped. -/
def Skips (brackets : List Bracket) (text rest : Bytes) : Prop :=
  ∀ fuel : Bytes, text.length ≤ fuel.length → goOn fuel brackets text = (.ok (), rest)

/-- What is done inside a bracket: behind the opening one, or behind an item or member. -/
def goInside (fuel : Bytes) (bracket : Bracket) (isFirst : Bool) (brackets : List Bracket) : Reader Unit :=
  if isFirst then do
    if ← skipOpening bracket then skipFrom fuel true (bracket :: brackets) else goOn fuel brackets
  else skipFrom fuel false (bracket :: brackets)

/-- A part is skipped wherever what the open brackets ask for behind it is skipped. -/
def Part.IsSkipped : Part → (text mid : Bytes) → Prop
  | .value _, text, mid => ∀ brackets rest, Skips brackets mid rest →
      ∀ fuel : Bytes, text.length ≤ fuel.length → skipFrom fuel true brackets text = (.ok (), rest)
  | .items isFirst _, text, mid => ∀ brackets rest, Skips brackets mid rest →
      ∀ fuel : Bytes, text.length ≤ fuel.length → goInside fuel .list isFirst brackets text = (.ok (), rest)
  | .members isFirst _, text, mid => ∀ brackets rest, Skips brackets mid rest →
      ∀ fuel : Bytes, text.length ≤ fuel.length → goInside fuel .object isFirst brackets text = (.ok (), rest)

lemma skipKey_of_isKey {body : Bytes} (h : IsKey text body rest) : skipKey .object text = (.ok (), rest) := by
  obtain ⟨quoted, behind, hquote, rfl, hbody, hcolon⟩ := h
  have hlong : body.length < (body ++ 34 :: behind).length := by simp
  have hskip := skipString_of_isBody hbody hlong behind
  rw [skipKey, peek_bind, hquote, bind_ok (expect_cons 34 _), Reader.get_bind,
    bind_ok hskip, peek_bind, hcolon]
  exact expect_ok_iff.2 rfl

lemma skipStart_string {body : Bytes} (he : Json.behindBlanks text = 34 :: (body ++ 34 :: rest)) (hb : IsBody body) :
    skipStart text = (.ok none, rest) := by
  have hlong : body.length < (body ++ 34 :: rest).length := by simp
  have hskip := skipString_of_isBody hb hlong rest
  have hdigit : ¬ isDigit 34 = true := by decide
  have hliteral : ¬ startsLiteral 34 = true := by decide
  rw [skipStart, peek_bind, he, List.head?_cons]
  dsimp only
  rw [if_neg hdigit, advance_bind, if_neg (by decide), if_neg (by decide), if_neg hliteral, if_pos rfl, Reader.get_bind,
    List.tail_cons, bind_ok hskip]
  rfl

lemma skipStart_literal {l : Literal} (he : Json.behindBlanks text = l.first :: (l.tail ++ rest)) :
    skipStart text = (.ok none, rest) := by
  have hdigit : ¬ isDigit l.first = true := by cases l <;> decide
  have hstarts : startsLiteral l.first = true := by cases l <;> decide
  have hlist : l.first ≠ 91 := by cases l <;> decide
  have hobject : l.first ≠ 123 := by cases l <;> decide
  have htail : literalTail l.first (l.tail ++ rest) = (.ok (), rest) := by
    cases l <;> exact expectAll_ok_iff.2 rfl
  rw [skipStart, peek_bind, he, List.head?_cons]
  dsimp only
  rw [if_neg hdigit, advance_bind, if_neg hlist, if_neg hobject, if_pos hstarts, List.tail_cons, bind_ok htail]
  rfl

lemma skipStart_number {n : Numeral} (h : IsNumber (Json.behindBlanks text) n rest) :
    skipStart text = (.ok none, rest) := by
  rw [skipStart, peek_bind]
  cases h with
  | negative he _ hm =>
    have hdigit : ¬ isDigit 45 = true := by decide
    have hliteral : ¬ startsLiteral 45 = true := by decide
    rw [he, List.head?_cons]
    dsimp only
    rw [if_neg hdigit, advance_bind, if_neg (by decide), if_neg (by decide), if_neg hliteral, if_neg (by decide),
      if_pos rfl, List.tail_cons, bind_ok (skipNumber_of_isMagnitude hm)]
    rfl
  | positive _ hm =>
    obtain ⟨d, behind, he, hd⟩ := hm.exists_cons
    rw [he, List.head?_cons]
    dsimp only
    rw [if_pos hd, ← he, bind_ok (skipNumber_of_isMagnitude hm)]
    rfl

lemma skipStart_bracket (he : Json.behindBlanks text = bracket.opening :: rest) :
    skipStart text = (.ok (some bracket), rest) := by
  rw [skipStart, peek_bind, he]
  cases bracket <;> rfl

lemma skipOpening_close (he : Json.behindBlanks text = bracket.close :: rest) :
    skipOpening bracket text = (.ok false, rest) := by
  rw [skipOpening, peek_bind, he, List.head?_cons, if_pos rfl]
  rfl

lemma skipOpening_next (hne : (Json.behindBlanks text).head? ≠ some bracket.close)
    (hkey : skipKey bracket (Json.behindBlanks text) = (.ok (), rest)) :
    skipOpening bracket text = (.ok true, rest) := by
  rw [skipOpening, peek_bind, if_neg hne, bind_ok hkey]
  rfl

lemma skipFrom_scalar {mid : Bytes} (h : skipStart text = (.ok none, mid)) (u : UInt8) (fuel : Bytes) :
    skipFrom (u :: fuel) true brackets text = goOn fuel brackets mid := by
  rw [skipFrom, bind_ok h]
  rfl

lemma skipFrom_bracket {inside : Bytes} (he : Json.behindBlanks text = bracket.opening :: inside) (u : UInt8)
    (fuel : Bytes) : skipFrom (u :: fuel) true brackets text = goInside fuel bracket true brackets inside := by
  rw [skipFrom, bind_ok (skipStart_bracket he)]
  rfl

lemma skipFrom_close (he : Json.behindBlanks text = bracket.close :: rest) (u : UInt8) (fuel : Bytes) :
    skipFrom (u :: fuel) false (bracket :: brackets) text = goOn fuel brackets rest := by
  have hcomma : bracket.close ≠ 44 := by cases bracket <;> decide
  rw [skipFrom, peek_bind, advance_bind, he, List.head?_cons, List.tail_cons, if_neg (by simpa using hcomma),
    if_pos rfl]
  rfl

lemma skipFrom_comma {parted : Bytes} (he : Json.behindBlanks text = 44 :: parted)
    (hkey : skipKey bracket parted = (.ok (), rest)) (u : UInt8) (fuel : Bytes) :
    skipFrom (u :: fuel) false (bracket :: brackets) text = skipFrom fuel true (bracket :: brackets) rest := by
  rw [skipFrom, peek_bind, advance_bind, he, List.head?_cons, List.tail_cons, if_pos rfl, bind_ok hkey]

lemma skipFrom_behindBlanks (u : UInt8) (fuel text : Bytes) :
    skipFrom (u :: fuel) true brackets (Json.behindBlanks text) = skipFrom (u :: fuel) true brackets text := by
  have hstart : skipStart (Json.behindBlanks text) = skipStart text := by
    rw [skipStart, peek_bind, peek_bind, behindBlanks_idem]
  rw [skipFrom, Reader.bind_eq, Reader.bind_eq, hstart]

/-- What is left of the fuel lasts for what is left of the text. -/
lemma exists_fuel {fuel : Bytes} (hlt : rest.length < text.length) (hf : text.length ≤ fuel.length) :
    ∃ u left, fuel = u :: left ∧ rest.length ≤ left.length := by
  rcases fuel with _ | ⟨u, left⟩
  · rw [List.length_nil] at hf
    omega
  · rw [List.length_cons] at hf
    exact ⟨u, left, rfl, by omega⟩

lemma goInside_close {isFirst : Bool} {mid fuel : Bytes} (he : Json.behindBlanks text = bracket.close :: mid)
    (hrest : Skips brackets mid rest) (hf : text.length ≤ fuel.length) :
    goInside fuel bracket isFirst brackets text = (.ok (), rest) := by
  obtain ⟨u, left, rfl, hleft⟩ := exists_fuel (length_lt_of_behindBlanks he) hf
  cases isFirst with
  | true =>
    have hfuel : mid.length ≤ (u :: left).length := Nat.le_succ_of_le hleft
    exact (bind_ok (skipOpening_close he) _).trans (hrest _ hfuel)
  | false => exact (skipFrom_close he u left).trans (hrest left hleft)

lemma goInside_item {isFirst : Bool} {t : Tree} {parted mid fuel : Bytes} (hp : IsParted isFirst text parted)
    (ht : Stands (.value t) parted mid)
    (hvalue : ∀ fuel : Bytes, parted.length ≤ fuel.length →
      skipFrom fuel true (.list :: brackets) parted = (.ok (), rest))
    (hf : text.length ≤ fuel.length) : goInside fuel .list isFirst brackets text = (.ok (), rest) := by
  have hlt := ht.length_lt
  cases isFirst with
  | true =>
    obtain rfl : parted = text := hp
    have hne : (Json.behindBlanks parted).head? ≠ some Bracket.list.close := ht.value_head?_ne rfl
    have hopening : skipOpening .list parted = (.ok true, Json.behindBlanks parted) := skipOpening_next hne rfl
    obtain ⟨u, left, rfl, -⟩ := exists_fuel hlt hf
    refine (bind_ok hopening _).trans ?_
    rw [if_pos rfl, skipFrom_behindBlanks]
    exact hvalue _ hf
  | false =>
    have hcomma : Json.behindBlanks text = 44 :: parted := hp
    obtain ⟨u, left, rfl, hleft⟩ := exists_fuel (length_lt_of_behindBlanks hcomma) hf
    exact (skipFrom_comma hcomma rfl u left).trans (hvalue left hleft)

lemma goInside_member {isFirst : Bool} {parted body value fuel : Bytes} (hp : IsParted isFirst text parted)
    (hk : IsKey parted body value)
    (hvalue : ∀ fuel : Bytes, value.length ≤ fuel.length →
      skipFrom fuel true (.object :: brackets) value = (.ok (), rest))
    (hf : text.length ≤ fuel.length) : goInside fuel .object isFirst brackets text = (.ok (), rest) := by
  have hlt := hk.length_lt
  cases isFirst with
  | true =>
    obtain rfl : parted = text := hp
    have hkey : skipKey .object (Json.behindBlanks parted) = (.ok (), value) := by
      obtain ⟨quoted, behind, hquote, hrest⟩ := hk
      exact skipKey_of_isKey ⟨quoted, behind, (behindBlanks_idem parted).trans hquote, hrest⟩
    refine (bind_ok (skipOpening_next hk.head?_ne hkey) _).trans ?_
    exact hvalue fuel (hlt.le.trans hf)
  | false =>
    have hcomma : Json.behindBlanks text = 44 :: parted := hp
    obtain ⟨u, left, rfl, hleft⟩ := exists_fuel (length_lt_of_behindBlanks hcomma) hf
    exact (skipFrom_comma hcomma (skipKey_of_isKey hk) u left).trans (hvalue left (hlt.le.trans hleft))

/-- **Every part is skipped.** -/
theorem Stands.isSkipped {p : Part} {mid : Bytes} (h : Stands p text mid) : p.IsSkipped text mid := by
  induction h with
  | literal he =>
    intro brackets rest hrest fuel hf
    obtain ⟨u, left, rfl, hleft⟩ := exists_fuel (Stands.literal he).length_lt hf
    exact (skipFrom_scalar (skipStart_literal he) u left).trans (hrest left hleft)
  | number hn =>
    intro brackets rest hrest fuel hf
    obtain ⟨u, left, rfl, hleft⟩ := exists_fuel (Stands.number hn).length_lt hf
    exact (skipFrom_scalar (skipStart_number hn) u left).trans (hrest left hleft)
  | string he hb =>
    intro brackets rest hrest fuel hf
    obtain ⟨u, left, rfl, hleft⟩ := exists_fuel (Stands.string he hb).length_lt hf
    exact (skipFrom_scalar (skipStart_string he hb) u left).trans (hrest left hleft)
  | list he _ ih =>
    intro brackets rest hrest fuel hf
    obtain ⟨u, left, rfl, hleft⟩ := exists_fuel (length_lt_of_behindBlanks he) hf
    have hround := @skipFrom_bracket _ .list brackets _ he u left
    exact hround.trans (ih brackets rest hrest left hleft)
  | object he _ ih =>
    intro brackets rest hrest fuel hf
    obtain ⟨u, left, rfl, hleft⟩ := exists_fuel (length_lt_of_behindBlanks he) hf
    have hround := @skipFrom_bracket _ .object brackets _ he u left
    exact hround.trans (ih brackets rest hrest left hleft)
  | @endItems text mid isFirst he =>
    intro brackets rest hrest fuel hf
    exact goInside_close he hrest hf
  | @endMembers text mid isFirst he =>
    intro brackets rest hrest fuel hf
    exact goInside_close he hrest hf
  | item hp ht _ ihvalue ihitems =>
    intro brackets rest hrest fuel hf
    have hitems : Skips (.list :: brackets) _ rest := ihitems brackets rest hrest
    exact goInside_item hp ht (ihvalue (.list :: brackets) rest hitems) hf
  | member hp hk _ _ ihvalue ihmembers =>
    intro brackets rest hrest fuel hf
    have hmembers : Skips (.object :: brackets) _ rest := ihmembers brackets rest hrest
    exact goInside_member hp hk (ihvalue (.object :: brackets) rest hmembers) hf

/-- **Every value is skipped,** however deep. -/
theorem accepts_skip (t : Tree) : Accepts skip t () := by
  intro text rest h
  have hnone : Skips [] rest rest := fun _ _ => rfl
  have hskip : (Part.value t).IsSkipped text rest := h.isSkipped
  rw [skip, Reader.get_bind]
  exact hskip [] rest hnone text (Nat.le_refl _)

/-! ## Members -/

namespace Reader

lemma colon_of_behindBlanks (h : Json.behindBlanks text = 58 :: rest) : colon text = (.ok (), rest) := by
  rw [colon, peek_bind, h, List.head?_cons, if_pos rfl]
  rfl

lemma hasMember_of_end (h : Json.behindBlanks text = 125 :: rest) (isFirst : Bool) :
    hasMember isFirst text = (.ok false, 125 :: rest) := by
  rw [hasMember, peek_bind, h, List.head?_cons]
  rfl

lemma hasMember_of_isParted {isFirst : Bool} {parted quoted : Bytes} (hp : IsParted isFirst text parted)
    (hq : Json.behindBlanks parted = 34 :: quoted) : hasMember isFirst text = (.ok true, 34 :: quoted) := by
  cases isFirst with
  | true =>
    obtain rfl : parted = text := hp
    have hagain : Json.behindBlanks (34 :: quoted) = 34 :: quoted := by rw [← hq, behindBlanks_idem]
    rw [hasMember, peek_bind, hq, List.head?_cons]
    dsimp only
    rw [if_neg (by decide), if_neg (by decide), peek_bind, hagain]
    rfl
  | false =>
    have hcomma : Json.behindBlanks text = 44 :: parted := hp
    rw [hasMember, peek_bind, hcomma, List.head?_cons]
    dsimp only
    rw [if_neg (by decide), if_pos (by decide), if_pos rfl, advance_bind, List.tail_cons, peek_bind, hq]
    rfl

lemma key_of_spells {body : Bytes} {name : String} (h : Spells body name) (rest : Bytes) :
    key (34 :: (body ++ 34 :: rest)) = (.ok name, rest) := by
  rw [key, advance_bind]
  exact stringTail_of_spells h rest

/-- A reader of members takes the colon and a value wherever the states before and behind it are related. -/
def AcceptsMember (member : String → σ → Reader σ) (Q : String → σ → Tree → σ → Prop) : Prop :=
  ∀ ⦃name : String⦄ ⦃start last : σ⦄ ⦃t : Tree⦄, Q name start t last →
    ∀ ⦃text value rest : Bytes⦄, Json.behindBlanks text = 58 :: value → Stands (.value t) value rest →
      member name start text = (.ok last, rest)

/-- **The members of an object are read in order,** up to its closing bracket. -/
lemma membersFrom_of_folds {member : String → σ → Reader σ} {Q : String → σ → Tree → σ → Prop}
    (hmember : AcceptsMember member Q) {start last : σ} {ms : List (Bytes × Tree)} (h : Folds Q start ms last)
    {isFirst : Bool} (hs : Stands (.members isFirst ms) text rest) {fuel : Bytes} (hf : text.length ≤ fuel.length) :
    membersFrom member fuel isFirst start text = (.ok last, 125 :: rest) := by
  induction h generalizing text isFirst fuel with
  | nil =>
    cases hs with
    | endMembers he =>
      obtain ⟨u, left, rfl, -⟩ := exists_fuel (length_lt_of_behindBlanks he) hf
      exact (bind_ok (hasMember_of_end he isFirst) _).trans rfl
  | cons hspells hQ _ ih =>
    cases hs with
    | @member _ parted value behind _ body _ t ms hp hk ht hms =>
      have hlt := ht.length_lt
      have hvalue := hk.length_lt
      have hparted := hp.length_le
      have hless : behind.length < text.length := by omega
      obtain ⟨u, left, rfl, hleft⟩ := exists_fuel hless hf
      obtain ⟨quoted, mid, hquote, rfl, -, hcolon⟩ := hk
      refine (bind_ok (hasMember_of_isParted hp hquote) _).trans ?_
      rw [if_pos rfl, bind_ok (key_of_spells hspells mid), bind_ok (hmember hQ hcolon ht)]
      exact ih hms hleft

end Reader

/-! ## Records -/

variable {members : List (Member δ)}

/-- What becomes of a draft when a member is added that is read wherever it stands: the member of the record with its
key takes the value, unless the draft has it; a key that no member has changes nothing. -/
def Adds (members : List (Member δ)) (name : String) (draft : δ) (t : Tree) (draft' : δ) : Prop :=
  (∃ m, members.find? (·.key == name) = some m ∧ m.isSet draft = false ∧ Accepts (m.read draft) t draft') ∨
    (members.find? (·.key == name) = none ∧ draft' = draft)

lemma acceptsMember_member : Reader.AcceptsMember (Record.member members) (Adds members) := by
  intro name draft draft' t h text value rest hcolon ht
  unfold Record.member
  rcases h with ⟨m, hfind, hset, haccepts⟩ | ⟨hfind, rfl⟩
  · rw [hfind]
    dsimp only
    rw [hset, if_neg Bool.false_ne_true, bind_ok (Reader.colon_of_behindBlanks hcolon)]
    exact haccepts ht
  · rw [hfind]
    dsimp only
    rw [bind_ok (Reader.colon_of_behindBlanks hcolon), bind_ok (accepts_skip t ht)]
    rfl

lemma accepts_field {key : String} {presence : Presence} {get : δ → Option α} {put : α → δ → δ} {value : Reader α}
    {t : Tree} {a : α} (h : Accepts value t a) (draft : δ) :
    Accepts ((Member.field key presence get put value).read draft) t (put a draft) := by
  intro text rest ht
  exact (bind_ok (h ht) _).trans rfl

/-- **A record is read from every object** whose members can be added one after another and leave no required one
out. -/
theorem accepts_record {start draft : δ} {ms : List (Bytes × Tree)} (h : Folds (Adds members) start ms draft)
    (hall : members.all (fun m => m.presence != .required || m.isSet draft) = true) :
    Accepts (Record.read members start) (.object ms) draft := by
  intro text rest hs
  cases hs with
  | @object _ inside _ _ he hms =>
    have hread := Reader.membersFrom_of_folds acceptsMember_member h hms (Nat.le_refl _)
    rw [Record.read, peek_bind, he, List.head?_cons, if_pos rfl, advance_bind, List.tail_cons]
    refine Reader.closedBy_ok ?_ (Reader.endObject_cons rest)
    rw [Reader.get_bind, bind_ok hread, if_pos hall]
    rfl

end Gatehouse.Json
