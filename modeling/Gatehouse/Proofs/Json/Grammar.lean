import Gatehouse.Json.Number
import Gatehouse.Proofs.Json.Reader

/-!
# The grammar of JSON

What JSON text says, apart from any reader: a text is related to a tree, in which strings and numbers stand as
they are written.

* `IsBody`, `Spells` — what may stand between the quotes of a string, and the text that it spells;
* `IsNumber`, `Numeral.IsNatural` — the parts of a number, and the natural number that it denotes;
* `Stands`, `IsText` — a part of a text stands in front of a rest; a whole text is one value;
* `IsText.unique` — **the grammar is unambiguous:** no text is more than one tree;
* `Tree.IsString`, `Tree.IsNatural`, `Tree.Names`, `Holds` — what a tree says to those who ask for a string, a
  number, one of a set of names, or a member of an object. Each says one thing at most.
-/

namespace Gatehouse.Json

/-! ## Strings -/

/-- The number that four hexadecimal digits denote. -/
def hexNumber? (a b c d : UInt8) : Option Nat := do
  pure ((((← hexValue? a) * 16 + (← hexValue? b)) * 16 + (← hexValue? c)) * 16 + (← hexValue? d))

/-- What may stand between the quotes of a string. -/
inductive IsBody : Bytes → Prop
  | nil : IsBody []
  | plain {b : UInt8} {body : Bytes} : IsPlain b → IsBody body → IsBody (b :: body)
  | letter {b : UInt8} {body : Bytes} : (letterEscape? b).isSome → IsBody body → IsBody (92 :: b :: body)
  | unit {a b c d : UInt8} {body : Bytes} : (hexNumber? a b c d).isSome → IsBody body →
      IsBody (92 :: 117 :: a :: b :: c :: d :: body)

/-- The bytes that are meant by what stands between quotes. An escape by a code unit that is no surrogate means a
character, and so do two of them that make up a pair of surrogates. -/
inductive Means : (body bytes : Bytes) → Prop
  | nil : Means [] []
  | plain {b : UInt8} {body bytes : Bytes} : IsPlain b → Means body bytes → Means (b :: body) (b :: bytes)
  | letter {b : UInt8} {char : Char} {body bytes : Bytes} : letterEscape? b = some char → Means body bytes →
      Means (92 :: b :: body) (String.utf8EncodeChar char ++ bytes)
  | unit {a b c d : UInt8} {n : Nat} {body bytes : Bytes} : hexNumber? a b c d = some n →
      n < 0xD800 ∨ 0xDFFF < n → Means body bytes →
      Means (92 :: 117 :: a :: b :: c :: d :: body) (String.utf8EncodeChar (Char.ofNat n) ++ bytes)
  | pair {a b c d e f g h : UInt8} {high low : Nat} {body bytes : Bytes} :
      hexNumber? a b c d = some high → 0xD800 ≤ high ∧ high ≤ 0xDBFF →
      hexNumber? e f g h = some low → 0xDC00 ≤ low ∧ low ≤ 0xDFFF → Means body bytes →
      Means (92 :: 117 :: a :: b :: c :: d :: 92 :: 117 :: e :: f :: g :: h :: body)
        (String.utf8EncodeChar (Char.ofNat (0x10000 + (high - 0xD800) * 0x400 + (low - 0xDC00))) ++ bytes)

/-- The text that is spelled by what stands between quotes. -/
def Spells (body : Bytes) (s : String) : Prop := Means body (utf8 s)

lemma Means.isBody {body bytes : Bytes} (h : Means body bytes) : IsBody body := by
  induction h with
  | nil => exact .nil
  | plain hb _ ih => exact .plain hb ih
  | letter hc _ ih => exact .letter (by rw [hc]; rfl) ih
  | unit hn _ _ ih => exact .unit (by rw [hn]; rfl) ih
  | pair hhigh _ hlow _ _ ih => exact .unit (by rw [hhigh]; rfl) (.unit (by rw [hlow]; rfl) ih)

lemma means_of_plain {bytes : Bytes} (h : ∀ b ∈ bytes, IsPlain b) : Means bytes bytes := by
  induction bytes with
  | nil => exact .nil
  | cons b bytes ih => exact .plain (h b List.mem_cons_self) (ih fun c hc => h c (List.mem_cons_of_mem _ hc))

lemma Means.unique {body bytes bytes' : Bytes} (h : Means body bytes) (h' : Means body bytes') : bytes = bytes' := by
  -- a backslash is never plain, and `u` is the letter of no escape but that by a code unit
  induction h generalizing bytes' with
  | nil => cases h'; rfl
  | plain hb _ ih =>
    cases h' with
    | plain _ h' => rw [ih h']
    | _ => exact absurd rfl hb.2.2
  | letter hc _ ih =>
    cases h' with
    | plain hb _ => exact absurd rfl hb.2.2
    | letter hc' h' => cases hc.symm.trans hc'; rw [ih h']
    | _ => cases hc
  | unit hn hs _ ih =>
    cases h' with
    | plain hb _ => exact absurd rfl hb.2.2
    | letter hc _ => cases hc
    | unit hn' _ h' => cases hn.symm.trans hn'; rw [ih h']
    | pair hhigh hs' _ _ _ => cases hn.symm.trans hhigh; omega
  | pair hhigh hs hlow _ _ ih =>
    cases h' with
    | plain hb _ => exact absurd rfl hb.2.2
    | letter hc _ => cases hc
    | unit hn hs' _ => cases hn.symm.trans hhigh; omega
    | pair hhigh' _ hlow' _ h' =>
      cases hhigh.symm.trans hhigh'
      cases hlow.symm.trans hlow'
      rw [ih h']

lemma Spells.unique {body : Bytes} {s t : String} (h : Spells body s) (h' : Spells body t) : s = t := by
  have hs := ofUtf8?_utf8 s
  rw [Means.unique h h', ofUtf8?_utf8] at hs
  exact (Option.some.inj hs).symm

/-- A string ends at the first quote that no backslash stands before, so there is one way to take it. -/
lemma IsBody.unique {body body' rest rest' : Bytes} (h : IsBody body) (h' : IsBody body')
    (he : body ++ 34 :: rest = body' ++ 34 :: rest') : body = body' ∧ rest = rest' := by
  induction h generalizing body' with
  | nil =>
    cases h' with
    | nil => simpa using he
    | plain hb _ => simp at he; exact absurd he.1.symm hb.2.1
    | letter => simp at he
    | unit => simp at he
  | plain hb _ ih =>
    cases h' with
    | nil => simp at he; exact absurd he.1 hb.2.1
    | plain _ h' =>
      simp only [List.cons_append, List.cons.injEq] at he
      obtain ⟨rfl, rfl⟩ := ih h' he.2
      exact ⟨by rw [he.1], rfl⟩
    | letter => simp at he; exact absurd he.1 hb.2.2
    | unit => simp at he; exact absurd he.1 hb.2.2
  | letter hb _ ih =>
    cases h' with
    | nil => simp at he
    | plain hb' _ => simp at he; exact absurd he.1.symm hb'.2.2
    | letter _ h' =>
      simp only [List.cons_append, List.cons.injEq, true_and] at he
      obtain ⟨rfl, rfl⟩ := ih h' he.2
      exact ⟨by rw [he.1], rfl⟩
    | unit => simp at he; rw [he.1] at hb; exact absurd hb (by decide)
  | unit _ _ ih =>
    cases h' with
    | nil => simp at he
    | plain hb' _ => simp at he; exact absurd he.1.symm hb'.2.2
    | letter hb' _ => simp at he; rw [← he.1] at hb'; exact absurd hb' (by decide)
    | unit _ h' =>
      simp only [List.cons_append, List.cons.injEq, true_and] at he
      obtain ⟨ha, hb, hc, hd, he⟩ := he
      obtain ⟨rfl, rfl⟩ := ih h' he
      exact ⟨by rw [ha, hb, hc, hd], rfl⟩

/-! ## Numbers -/

/-- A number as it is written: its sign, its whole part, the digits behind its point, and what stands behind the
letter of its exponent. -/
structure Numeral where
  isNegative : Bool
  whole : Bytes
  fraction : Bytes
  exponent : Bytes

/-- All digits in front of a rest, one at least. -/
structure IsRun (text digits rest : Bytes) : Prop where
  digits_eq : digits = text.takeWhile isDigit
  rest_eq : rest = text.dropWhile isDigit
  ne_nil : digits ≠ []

/-- The whole part of a number. A zero in front stands alone. -/
def IsWhole (text digits rest : Bytes) : Prop := IsRun text digits rest ∧ (digits.head? = some 48 → digits = [48])

/-- The digits behind a point, if there is a point. -/
inductive IsFraction : (text digits rest : Bytes) → Prop
  | absent {text : Bytes} : text.head? ≠ some 46 → IsFraction text [] text
  | present {text behind digits rest : Bytes} : text = 46 :: behind → IsRun behind digits rest →
      IsFraction text digits rest

/-- What stands behind the letter of an exponent, if there is such a letter. -/
inductive IsExponent : (text exponent rest : Bytes) → Prop
  | absent {text : Bytes} : isExponentLetter text.head? = false → IsExponent text [] text
  | present {text sign behind digits rest : Bytes} {letter : UInt8} : text = letter :: (sign ++ behind) →
      isExponentLetter (some letter) = true → sign ∈ [[], [43], [45]] → IsRun behind digits rest →
      IsExponent text (sign ++ digits) rest

/-- The parts of a number without its sign. -/
def IsMagnitude (text : Bytes) (n : Numeral) (rest : Bytes) : Prop :=
  ∃ text' text'', IsWhole text n.whole text' ∧ IsFraction text' n.fraction text'' ∧
    IsExponent text'' n.exponent rest

inductive IsNumber : (text : Bytes) → Numeral → (rest : Bytes) → Prop
  | negative {text behind rest : Bytes} {n : Numeral} : text = 45 :: behind → n.isNegative = true →
      IsMagnitude behind n rest → IsNumber text n rest
  | positive {text rest : Bytes} {n : Numeral} : n.isNegative = false → IsMagnitude text n rest → IsNumber text n rest

def digitsValue (digits : Bytes) : Nat := digits.foldl (fun n d => n * 10 + (d.toNat - 48)) 0

/-- A number without a sign, a point and an exponent denotes the natural number of its digits. -/
def Numeral.IsNatural (m : Numeral) (n : Nat) : Prop :=
  m.isNegative = false ∧ m.fraction = [] ∧ m.exponent = [] ∧ digitsValue m.whole = n

lemma IsRun.unique {text digits digits' rest rest' : Bytes} (h : IsRun text digits rest)
    (h' : IsRun text digits' rest') : digits = digits' ∧ rest = rest' :=
  ⟨h.digits_eq.trans h'.digits_eq.symm, h.rest_eq.trans h'.rest_eq.symm⟩

lemma IsRun.exists_cons {text digits rest : Bytes} (h : IsRun text digits rest) :
    ∃ d behind, text = d :: behind ∧ isDigit d = true := by
  rcases text with _ | ⟨d, behind⟩
  · exact absurd h.digits_eq h.ne_nil
  · refine ⟨d, behind, rfl, ?_⟩
    by_contra hd
    exact h.ne_nil (by rw [h.digits_eq, List.takeWhile_cons_of_neg hd])

lemma IsFraction.unique {text digits digits' rest rest' : Bytes} (h : IsFraction text digits rest)
    (h' : IsFraction text digits' rest') : digits = digits' ∧ rest = rest' := by
  cases h with
  | absent hne =>
    cases h' with
    | absent => exact ⟨rfl, rfl⟩
    | present he _ => rw [he] at hne; exact absurd rfl hne
  | present he hr =>
    cases h' with
    | absent hne => rw [he] at hne; exact absurd rfl hne
    | present he' hr' => cases he.symm.trans he'; exact hr.unique hr'

/-- A sign in front of digits can be told from them. -/
lemma sign_unique {sign sign' behind behind' digits digits' rest rest' : Bytes} (hs : sign ∈ [[], [43], [45]])
    (hs' : sign' ∈ [[], [43], [45]]) (hr : IsRun behind digits rest) (hr' : IsRun behind' digits' rest')
    (he : sign ++ behind = sign' ++ behind') : sign = sign' ∧ behind = behind' := by
  obtain ⟨d, tail, rfl, hd⟩ := hr.exists_cons
  obtain ⟨d', tail', rfl, hd'⟩ := hr'.exists_cons
  have hplus : isDigit 43 = false := by decide
  have hminus : isDigit 45 = false := by decide
  simp only [List.mem_cons, List.not_mem_nil, or_false] at hs hs'
  rcases hs with rfl | rfl | rfl <;> rcases hs' with rfl | rfl | rfl <;> simp_all

lemma IsExponent.unique {text exponent exponent' rest rest' : Bytes} (h : IsExponent text exponent rest)
    (h' : IsExponent text exponent' rest') : exponent = exponent' ∧ rest = rest' := by
  cases h with
  | absent hne =>
    cases h' with
    | absent => exact ⟨rfl, rfl⟩
    | present he hl _ _ => rw [he, List.head?_cons, hl] at hne; cases hne
  | present he hl hs hr =>
    cases h' with
    | absent hne => rw [he, List.head?_cons, hl] at hne; cases hne
    | present he' _ hs' hr' =>
      obtain ⟨rfl, rfl⟩ := sign_unique hs hs' hr hr' (List.cons.inj (he.symm.trans he')).2
      obtain ⟨rfl, rfl⟩ := hr.unique hr'
      exact ⟨rfl, rfl⟩

lemma IsMagnitude.exists_cons {text rest : Bytes} {n : Numeral} (h : IsMagnitude text n rest) :
    ∃ d behind, text = d :: behind ∧ isDigit d = true := by
  obtain ⟨_, _, hw, -⟩ := h
  exact hw.1.exists_cons

lemma IsMagnitude.unique {text rest rest' : Bytes} {n n' : Numeral} (h : IsMagnitude text n rest)
    (h' : IsMagnitude text n' rest') (hs : n.isNegative = n'.isNegative) : n = n' ∧ rest = rest' := by
  obtain ⟨_, _, hw, hf, he⟩ := h
  obtain ⟨_, _, hw', hf', he'⟩ := h'
  obtain ⟨hwhole, rfl⟩ := hw.1.unique hw'.1
  obtain ⟨hfraction, rfl⟩ := hf.unique hf'
  obtain ⟨hexponent, rfl⟩ := he.unique he'
  refine ⟨?_, rfl⟩
  cases n
  cases n'
  simp only at hs hwhole hfraction hexponent
  rw [hs, hwhole, hfraction, hexponent]

lemma IsNumber.exists_cons {text rest : Bytes} {n : Numeral} (h : IsNumber text n rest) :
    ∃ b behind, text = b :: behind ∧ (isDigit b = true ∨ b = 45) := by
  cases h with
  | negative he _ _ => exact ⟨_, _, he, .inr rfl⟩
  | positive _ hm =>
    obtain ⟨d, behind, he, hd⟩ := hm.exists_cons
    exact ⟨d, behind, he, .inl hd⟩

lemma IsNumber.unique {text rest rest' : Bytes} {n n' : Numeral} (h : IsNumber text n rest)
    (h' : IsNumber text n' rest') : n = n' ∧ rest = rest' := by
  -- no number starts with a digit as well as with a sign
  have hsign : ∀ {behind rest : Bytes} {n : Numeral}, ¬ IsMagnitude (45 :: behind) n rest := by
    intro behind rest n hm
    obtain ⟨d, _, he, hd⟩ := hm.exists_cons
    cases he
    cases hd
  cases h with
  | negative he hn hm =>
    cases h' with
    | negative he' hn' hm' => cases he.symm.trans he'; exact hm.unique hm' (hn.trans hn'.symm)
    | positive _ hm' => rw [he] at hm'; exact absurd hm' hsign
  | positive hn hm =>
    cases h' with
    | negative he' _ _ => rw [he'] at hm; exact absurd hm hsign
    | positive hn' hm' => exact hm.unique hm' (hn.trans hn'.symm)

/-! ## Values -/

inductive Literal
  | null
  | true
  | false
  deriving DecidableEq

def Literal.first : Literal → UInt8
  | null => 110
  | true => 116
  | false => 102

def Literal.tail : Literal → Bytes
  | null => [117, 108, 108]
  | true => [114, 117, 101]
  | false => [97, 108, 115, 101]

/-- A JSON text as a tree. Strings and keys are what stands between their quotes. -/
inductive Tree
  | literal (l : Literal)
  | number (n : Numeral)
  | string (body : Bytes)
  | list (items : List Tree)
  | object (members : List (Bytes × Tree))

/-- What is left of a text behind the white space in front. -/
def behindBlanks (text : Bytes) : Bytes := text.dropWhile isSpace

/-- Parts of a text: a value, and items or members up to the closing bracket. A comma stands in front of all items
and members but those that follow the opening bracket. -/
inductive Part
  | value (t : Tree)
  | items (isFirst : Bool) (items : List Tree)
  | members (isFirst : Bool) (members : List (Bytes × Tree))

/-- What stands between items: nothing in front of the first one, else a comma. -/
def IsParted (isFirst : Bool) (text rest : Bytes) : Prop :=
  if isFirst then rest = text else behindBlanks text = 44 :: rest

/-- A key and its colon. -/
def IsKey (text body rest : Bytes) : Prop :=
  ∃ quoted behind, behindBlanks text = 34 :: quoted ∧ quoted = body ++ 34 :: behind ∧ IsBody body ∧
    behindBlanks behind = 58 :: rest

/-- A part stands in front of a rest. -/
inductive Stands : Part → (text rest : Bytes) → Prop
  | literal {text rest : Bytes} {l : Literal} : behindBlanks text = l.first :: (l.tail ++ rest) →
      Stands (.value (.literal l)) text rest
  | number {text rest : Bytes} {n : Numeral} : IsNumber (behindBlanks text) n rest →
      Stands (.value (.number n)) text rest
  | string {text rest body : Bytes} : behindBlanks text = 34 :: (body ++ 34 :: rest) → IsBody body →
      Stands (.value (.string body)) text rest
  | list {text inside rest : Bytes} {ts : List Tree} : behindBlanks text = 91 :: inside →
      Stands (.items true ts) inside rest → Stands (.value (.list ts)) text rest
  | object {text inside rest : Bytes} {ms : List (Bytes × Tree)} : behindBlanks text = 123 :: inside →
      Stands (.members true ms) inside rest → Stands (.value (.object ms)) text rest
  | endItems {text rest : Bytes} {isFirst : Bool} : behindBlanks text = 93 :: rest →
      Stands (.items isFirst []) text rest
  | item {text parted behind rest : Bytes} {isFirst : Bool} {t : Tree} {ts : List Tree} :
      IsParted isFirst text parted → Stands (.value t) parted behind → Stands (.items false ts) behind rest →
      Stands (.items isFirst (t :: ts)) text rest
  | endMembers {text rest : Bytes} {isFirst : Bool} : behindBlanks text = 125 :: rest →
      Stands (.members isFirst []) text rest
  | member {text parted value behind rest body : Bytes} {isFirst : Bool} {t : Tree} {ms : List (Bytes × Tree)} :
      IsParted isFirst text parted → IsKey parted body value → Stands (.value t) value behind →
      Stands (.members false ms) behind rest → Stands (.members isFirst ((body, t) :: ms)) text rest

/-! ### One tree for a text -/

inductive Kind
  | literal (l : Literal)
  | number
  | string
  | list
  | object
  deriving DecidableEq

def Tree.kind : Tree → Kind
  | literal l => .literal l
  | number _ => .number
  | string _ => .string
  | list _ => .list
  | object _ => .object

/-- The kind of the values that start with a byte. -/
def kindOf? (b : UInt8) : Option Kind :=
  if b = 110 then some (.literal .null)
  else if b = 116 then some (.literal .true)
  else if b = 102 then some (.literal .false)
  else if isDigit b || b == 45 then some .number
  else if b = 34 then some .string
  else if b = 91 then some .list
  else if b = 123 then some .object
  else none

lemma kindOf?_number {b : UInt8} (h : isDigit b = true ∨ b = 45) : kindOf? b = some .number := by
  have hn : ∀ {c : UInt8}, isDigit c = false → c ≠ 45 → b ≠ c := by
    rintro c hc hne rfl
    rcases h with h | h
    · rw [h] at hc; cases hc
    · exact hne h
  unfold kindOf?
  rw [if_neg (hn (by decide) (by decide)), if_neg (hn (by decide) (by decide)), if_neg (hn (by decide) (by decide)),
    if_pos (by simpa using h)]

lemma Stands.kind {t : Tree} {text rest : Bytes} (h : Stands (.value t) text rest) :
    (behindBlanks text).head?.bind kindOf? = some t.kind := by
  cases h with
  | number hn =>
    obtain ⟨b, behind, he, hb⟩ := hn.exists_cons
    rw [he]
    exact kindOf?_number hb
  | @literal _ _ l he => rw [he]; cases l <;> rfl
  | string he _ => rw [he]; rfl
  | list he _ => rw [he]; rfl
  | object he _ => rw [he]; rfl

/-- Parts of the same form. -/
def Part.Alike : Part → Part → Prop
  | value _, value _ => True
  | items isFirst _, items isFirst' _ => isFirst = isFirst'
  | members isFirst _, members isFirst' _ => isFirst = isFirst'
  | _, _ => False

lemma IsParted.unique {isFirst : Bool} {text rest rest' : Bytes} (h : IsParted isFirst text rest)
    (h' : IsParted isFirst text rest') : rest = rest' := by
  unfold IsParted at h h'
  split at h
  · rw [if_pos ‹_›] at h'
    exact h.trans h'.symm
  · rw [if_neg ‹_›] at h'
    cases h.symm.trans h'
    rfl

lemma IsParted.head?_ne {isFirst : Bool} {text parted : Bytes} {b : UInt8} (h : IsParted isFirst text parted)
    (hp : (behindBlanks parted).head? ≠ some b) (hb : b ≠ 44) : (behindBlanks text).head? ≠ some b := by
  unfold IsParted at h
  split at h
  · rwa [← h]
  · rw [h, List.head?_cons]
    exact fun he => hb (Option.some.inj he).symm

lemma IsKey.unique {text body body' rest rest' : Bytes} (h : IsKey text body rest) (h' : IsKey text body' rest') :
    body = body' ∧ rest = rest' := by
  obtain ⟨_, _, hq, rfl, hb, hc⟩ := h
  obtain ⟨_, _, hq', rfl, hb', hc'⟩ := h'
  obtain ⟨rfl, rfl⟩ := hb.unique hb' (List.cons.inj (hq.symm.trans hq')).2
  cases hc.symm.trans hc'
  exact ⟨rfl, rfl⟩

/-- What can stand in the place of a value is a value of its kind. -/
lemma Stands.exists_value {t : Tree} {q : Part} {text rest rest' : Bytes} (h : Stands (.value t) text rest)
    (h' : Stands q text rest') (hq : (Part.value t).Alike q) : ∃ t', q = .value t' ∧ t.kind = t'.kind := by
  cases q with
  | value t' => exact ⟨t', rfl, Option.some.inj (h.kind.symm.trans h'.kind)⟩
  | items _ _ => exact hq.elim
  | members _ _ => exact hq.elim

lemma Stands.value_head?_ne {t : Tree} {text rest : Bytes} (h : Stands (.value t) text rest) {b : UInt8}
    (hb : kindOf? b = none) : (behindBlanks text).head? ≠ some b := by
  intro he
  have hk := h.kind
  rw [he, Option.bind_some, hb] at hk
  cases hk

lemma IsKey.head?_ne {text body rest : Bytes} (h : IsKey text body rest) : (behindBlanks text).head? ≠ some 125 := by
  obtain ⟨_, _, hq, -⟩ := h
  rw [hq, List.head?_cons]
  decide

/-- **What stands in front of a rest can be told from the text.** -/
theorem Stands.unique {p q : Part} {text rest rest' : Bytes} (h : Stands p text rest) (h' : Stands q text rest')
    (hpq : p.Alike q) : p = q ∧ rest = rest' := by
  -- the first byte decides how a part can stand; from there on its own parts are told one after another
  induction h generalizing q rest' with
  | literal he =>
    obtain ⟨t, rfl, hk⟩ := (Stands.literal he).exists_value h' hpq
    cases h' with
    | literal he' =>
      cases hk
      exact ⟨rfl, List.append_cancel_left (List.cons.inj (he.symm.trans he')).2⟩
    | _ => cases hk
  | number hn =>
    obtain ⟨t, rfl, hk⟩ := (Stands.number hn).exists_value h' hpq
    cases h' with
    | number hn' =>
      obtain ⟨rfl, rfl⟩ := hn.unique hn'
      exact ⟨rfl, rfl⟩
    | _ => cases hk
  | string he hb =>
    obtain ⟨t, rfl, hk⟩ := (Stands.string he hb).exists_value h' hpq
    cases h' with
    | string he' hb' =>
      obtain ⟨rfl, rfl⟩ := hb.unique hb' (List.cons.inj (he.symm.trans he')).2
      exact ⟨rfl, rfl⟩
    | _ => cases hk
  | list he hi ih =>
    obtain ⟨t, rfl, hk⟩ := (Stands.list he hi).exists_value h' hpq
    cases h' with
    | list he' hi' =>
      cases he.symm.trans he'
      obtain ⟨hts, rfl⟩ := ih hi' rfl
      cases hts
      exact ⟨rfl, rfl⟩
    | _ => cases hk
  | object he hi ih =>
    obtain ⟨t, rfl, hk⟩ := (Stands.object he hi).exists_value h' hpq
    cases h' with
    | object he' hi' =>
      cases he.symm.trans he'
      obtain ⟨hms, rfl⟩ := ih hi' rfl
      cases hms
      exact ⟨rfl, rfl⟩
    | _ => cases hk
  | endItems he =>
    cases h' with
    | endItems he' => cases hpq; cases he.symm.trans he'; exact ⟨rfl, rfl⟩
    | item hp hv _ => exact absurd (by rw [he]; rfl) (hp.head?_ne (hv.value_head?_ne (b := 93) rfl) (by decide))
    | _ => exact hpq.elim
  | item hp hv _ ihv ihs =>
    cases h' with
    | endItems he => exact absurd (by rw [he]; rfl) (hp.head?_ne (hv.value_head?_ne (b := 93) rfl) (by decide))
    | item hp' hv' hs' =>
      cases hpq
      cases hp.unique hp'
      obtain ⟨ht, rfl⟩ := ihv hv' trivial
      obtain ⟨hts, rfl⟩ := ihs hs' rfl
      cases ht
      cases hts
      exact ⟨rfl, rfl⟩
    | _ => exact hpq.elim
  | endMembers he =>
    cases h' with
    | endMembers he' => cases hpq; cases he.symm.trans he'; exact ⟨rfl, rfl⟩
    | member hp hk _ _ => exact absurd (by rw [he]; rfl) (hp.head?_ne hk.head?_ne (by decide))
    | _ => exact hpq.elim
  | member hp hk _ _ ihv ihs =>
    cases h' with
    | endMembers he => exact absurd (by rw [he]; rfl) (hp.head?_ne hk.head?_ne (by decide))
    | member hp' hk' hv' hs' =>
      cases hpq
      cases hp.unique hp'
      obtain ⟨rfl, rfl⟩ := hk.unique hk'
      obtain ⟨ht, rfl⟩ := ihv hv' trivial
      obtain ⟨hms, rfl⟩ := ihs hs' rfl
      cases ht
      cases hms
      exact ⟨rfl, rfl⟩
    | _ => exact hpq.elim

lemma Stands.value_unique {t t' : Tree} {text rest rest' : Bytes} (h : Stands (.value t) text rest)
    (h' : Stands (.value t') text rest') : t = t' ∧ rest = rest' := by
  obtain ⟨ht, hr⟩ := h.unique h' trivial
  cases ht
  exact ⟨rfl, hr⟩

/-- A whole text is one value, with white space around it. -/
def IsText (text : Bytes) (t : Tree) : Prop := ∃ rest, Stands (.value t) text rest ∧ behindBlanks rest = []

/-- **The grammar is unambiguous.** -/
theorem IsText.unique {text : Bytes} {t t' : Tree} (h : IsText text t) (h' : IsText text t') : t = t' := by
  obtain ⟨_, hs, -⟩ := h
  obtain ⟨_, hs', -⟩ := h'
  exact (hs.value_unique hs').1

/-! ## What a tree says -/

namespace Tree

def IsString (t : Tree) (s : String) : Prop := ∃ body, t = .string body ∧ Spells body s

def IsNatural (t : Tree) (n : Nat) : Prop := ∃ m, t = .number m ∧ m.IsNatural n

/-- A tree names something: as a string, or as an object with the name as its only key and `null` behind it. -/
def Names (t : Tree) (name : String) : Prop :=
  t.IsString name ∨ ∃ body, t = .object [(body, .literal .null)] ∧ Spells body name

lemma IsString.unique {t : Tree} {s s' : String} (h : t.IsString s) (h' : t.IsString s') : s = s' := by
  obtain ⟨body, rfl, hs⟩ := h
  obtain ⟨_, he, hs'⟩ := h'
  cases he
  exact hs.unique hs'

lemma Names.unique {t : Tree} {name name' : String} (h : t.Names name) (h' : t.Names name') : name = name' := by
  rcases h with h | ⟨body, rfl, hs⟩
  · rcases h' with h' | ⟨_, rfl, -⟩
    · exact h.unique h'
    · obtain ⟨_, he, -⟩ := h
      cases he
  · rcases h' with ⟨_, he, -⟩ | ⟨_, he, hs'⟩
    · cases he
    · cases he
      exact hs.unique hs'

end Tree

/-- Exactly one member of an object has a key, and the tree is its value. -/
def Holds (members : List (Bytes × Tree)) (key : String) (t : Tree) : Prop :=
  ∃ front body behind, members = front ++ (body, t) :: behind ∧ Spells body key ∧
    ∀ m ∈ front ++ behind, ¬ Spells m.1 key

lemma Holds.eq_of_mem {members : List (Bytes × Tree)} {key : String} {t t' : Tree} {body : Bytes}
    (h : Holds members key t) (hm : (body, t') ∈ members) (hs : Spells body key) : t' = t := by
  obtain ⟨front, body', behind, rfl, -, hno⟩ := h
  rw [List.mem_append, List.mem_cons] at hm
  rcases hm with hm | hm | hm
  · exact absurd hs (hno _ (List.mem_append_left _ hm))
  · exact (Prod.mk.inj hm).2
  · exact absurd hs (hno _ (List.mem_append_right _ hm))

lemma Holds.unique {members : List (Bytes × Tree)} {key : String} {t t' : Tree} (h : Holds members key t)
    (h' : Holds members key t') : t = t' := by
  obtain ⟨front, body, behind, rfl, hs, -⟩ := h
  exact h'.eq_of_mem (List.mem_append_right _ List.mem_cons_self) hs

end Gatehouse.Json
