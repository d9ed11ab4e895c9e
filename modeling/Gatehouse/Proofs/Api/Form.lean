import Gatehouse.Api.Form
import Gatehouse.Proofs.Json.Complete

/-!
# Which objects are forms

A form of texts is an object that says one text or nothing under each of its keys, whatever else it holds.

* `Says` — what the members of an object say under a key;
* `IsForm` — the members of an object make up a form;
* `accepts_readTexts`, `isForm_of_readTexts` — **the objects that are read as forms are the forms,** and what is read is
  what they say;
* `accepts_readSignUp`, `isForm_of_readSignUp` — so it is with the forms of those who sign up.
-/

namespace Gatehouse

open Json
open Reader (Folds)

namespace Json

variable {ms : List (Bytes × Tree)} {key : String} {body : Bytes} {t t' : Tree} {o : Option String}

lemma holds_cons_iff : Holds ((body, t) :: ms) key t' ↔
    (Spells body key ∧ t' = t ∧ ∀ m ∈ ms, ¬ Spells m.1 key) ∨ (¬ Spells body key ∧ Holds ms key t') := by
  constructor
  · rintro ⟨front, body', behind, he, hs, hno⟩
    cases front with
    | nil =>
      cases he
      exact .inl ⟨hs, rfl, hno⟩
    | cons m front =>
      cases he
      refine .inr ⟨hno _ List.mem_cons_self, front, body', behind, rfl, hs, fun n hn => ?_⟩
      exact hno n (List.mem_cons_of_mem _ hn)
  · rintro (⟨hs, rfl, hno⟩ | ⟨hs, h⟩)
    · exact ⟨[], body, ms, rfl, hs, hno⟩
    · exact h.cons hs

/-- What the members of an object say under a key: one of them has the key and spells a text, or none has it. -/
def Says (ms : List (Bytes × Tree)) (key : String) : Option String → Prop
  | some s => ∃ t, Holds ms key t ∧ t.IsString s
  | none => ∀ m ∈ ms, ¬ Spells m.1 key

lemma says_cons_iff : Says ((body, t) :: ms) key o ↔
    (Spells body key ∧ (∃ s, o = some s ∧ t.IsString s) ∧ Says ms key none) ∨ (¬ Spells body key ∧ Says ms key o) := by
  cases o with
  | none => simp [Says]
  | some s =>
    simp only [Says, holds_cons_iff]
    constructor
    · rintro ⟨_, ⟨hs, rfl, hno⟩ | ⟨hs, h⟩, ht⟩
      · exact .inl ⟨hs, ⟨s, rfl, ht⟩, hno⟩
      · exact .inr ⟨hs, _, h, ht⟩
    · rintro (⟨hs, ⟨_, ⟨⟩, ht⟩, hno⟩ | ⟨hs, t', h, ht⟩)
      · exact ⟨t, .inl ⟨hs, rfl, hno⟩, ht⟩
      · exact ⟨t', .inr ⟨hs, h⟩, ht⟩

/-- The members of an object make up a form: all have texts for keys, and under each key of the form they say one text
or nothing. -/
structure IsForm (keys : List String) (ms : List (Bytes × Tree)) (text? : String → Option String) : Prop where
  named : ∀ m ∈ ms, ∃ name, Spells m.1 name
  texts : ∀ key ∈ keys, Says ms key (text? key)

end Json

namespace Api

variable {keys : List String} {ms : List (Bytes × Tree)} {text? : String → Option String} {text rest : Bytes}

/-! ## Texts -/

/-- The member of a form that is the text under a key. -/
def textMember (key : String) : Member Texts :=
  .field key .defaulted (List.lookup key) (fun s texts => (key, s) :: texts) Reader.string

lemma find?_textMember {name : String} (h : name ∈ keys) :
    (keys.map textMember).find? (·.key == name) = some (textMember name) := by
  induction keys with
  | nil => cases h
  | cons key keys ih =>
    by_cases hk : key = name
    · subst hk
      exact List.find?_cons_of_pos (by simp [textMember, Member.field])
    · rw [List.map_cons, List.find?_cons_of_neg (by simpa [textMember, Member.field] using hk)]
      exact ih ((List.mem_cons.1 h).resolve_left (Ne.symm hk))

lemma find?_textMember_of_not_mem {name : String} (h : name ∉ keys) :
    (keys.map textMember).find? (·.key == name) = none := by
  rw [List.find?_eq_none]
  rintro _ hm he
  obtain ⟨key, hkey, rfl⟩ := List.mem_map.1 hm
  have hk : key = name := by simpa [textMember, Member.field] using he
  exact h (hk ▸ hkey)

lemma lookup_cons_self {key s : String} (texts : Texts) : List.lookup key ((key, s) :: texts) = some s := by
  simp

lemma lookup_cons_of_ne {key name s : String} (h : key ≠ name) (texts : Texts) :
    List.lookup key ((name, s) :: texts) = List.lookup key texts := by
  rw [List.lookup_cons, beq_eq_false_iff_ne.2 h]

/-- The members of a form are added one after another, each text under its key. -/
lemma exists_folds (hform : IsForm keys ms text?) (draft : Texts)
    (hnew : ∀ key ∈ keys, text? key ≠ none → draft.lookup key = none) :
    ∃ last, Folds (Adds (keys.map textMember)) draft ms last ∧
      ∀ key ∈ keys, last.lookup key = (text? key).or (draft.lookup key) := by
  -- what has been read is in the draft, so that the rest of the members says nothing under its key
  induction ms generalizing draft text? with
  | nil =>
    refine ⟨draft, .nil _, fun key hkey => ?_⟩
    have hsays := hform.texts key hkey
    cases htext : text? key with
    | none => rfl
    | some s =>
      rw [htext] at hsays
      obtain ⟨t, ⟨front, body, behind, he, -⟩, -⟩ := hsays
      simp at he
  | cons m ms ih =>
    obtain ⟨body, t⟩ := m
    obtain ⟨name, hname⟩ := hform.named _ List.mem_cons_self
    have hnamed : ∀ m ∈ ms, ∃ name, Spells m.1 name := fun m hm => hform.named m (List.mem_cons_of_mem _ hm)
    have hother : ∀ key ∈ keys, key ≠ name → Says ms key (text? key) := by
      intro key hkey hne
      rcases says_cons_iff.1 (hform.texts key hkey) with ⟨hs, -⟩ | ⟨-, hsays⟩
      · exact absurd (hs.unique hname) hne
      · exact hsays
    by_cases hmem : name ∈ keys
    · obtain ⟨s, htext, hstring, hno⟩ : ∃ s, text? name = some s ∧ t.IsString s ∧ Says ms name none := by
        rcases says_cons_iff.1 (hform.texts name hmem) with ⟨-, ⟨s, htext, hstring⟩, hno⟩ | ⟨hs, -⟩
        · exact ⟨s, htext, hstring, hno⟩
        · exact absurd hname hs
      have hunset : draft.lookup name = none := hnew name hmem (by simp [htext])
      have hform' : IsForm keys ms fun key => if key = name then none else text? key := by
        refine ⟨hnamed, fun key hkey => ?_⟩
        by_cases hk : key = name
        · rw [if_pos hk, hk]
          exact hno
        · rw [if_neg hk]
          exact hother key hkey hk
      obtain ⟨last, hfolds, hlast⟩ := ih hform' ((name, s) :: draft) (by
        intro key hkey hsome
        by_cases hk : key = name
        · rw [if_pos hk] at hsome
          exact absurd rfl hsome
        · rw [if_neg hk] at hsome
          rw [lookup_cons_of_ne hk]
          exact hnew key hkey hsome)
      have hset : (textMember name).isSet draft = false := by
        show (draft.lookup name).isSome = false
        rw [hunset, Option.isSome_none]
      have hread : Accepts ((textMember name).read draft) t ((name, s) :: draft) :=
        accepts_field (accepts_string hstring) draft
      refine ⟨last, .cons hname (.inl ⟨_, find?_textMember hmem, hset, hread⟩) hfolds, fun key hkey => ?_⟩
      rw [hlast key hkey]
      by_cases hk : key = name
      · rw [if_pos hk, hk, htext, lookup_cons_self]
        rfl
      · rw [if_neg hk, lookup_cons_of_ne hk]
    · have hne : ∀ key ∈ keys, key ≠ name := by
        rintro key hkey rfl
        exact hmem hkey
      obtain ⟨last, hfolds, hlast⟩ := ih ⟨hnamed, fun key hkey => hother key hkey (hne key hkey)⟩ draft hnew
      exact ⟨last, .cons hname (.inr ⟨find?_textMember_of_not_mem hmem, rfl⟩) hfolds, hlast⟩

/-- **Every form is read,** and what is read is what it says. -/
theorem accepts_readTexts (h : IsForm keys ms text?) :
    ∃ texts, Accepts (readTexts keys) (.object ms) texts ∧ ∀ key ∈ keys, texts.lookup key = text? key := by
  obtain ⟨texts, hfolds, htexts⟩ := exists_folds h [] (by simp)
  have hall : (keys.map textMember).all (fun m => m.presence != .required || m.isSet texts) = true := by
    rw [List.all_map, List.all_eq_true]
    exact fun _ _ => rfl
  refine ⟨texts, accepts_record hfolds hall, fun key hkey => ?_⟩
  rw [htexts key hkey, List.lookup_nil, Option.or_none]

lemma allSound_texts : AllSound (keys.map textMember) := by
  intro m hm
  obtain ⟨key, -, rfl⟩ := List.mem_map.1 hm
  exact isSound_field Reader.isSound_string

lemma belongs_text (key : String) :
    Belongs (keys.map textMember) key (List.lookup key) fun s t => t.IsString s := by
  intro m hm
  obtain ⟨key', -, rfl⟩ := List.mem_map.1 hm
  by_cases hk : key' = key
  · subst hk
    exact treats_field Reader.isSound_string fun s texts => lookup_cons_self texts
  · exact treats_other hk fun s texts => lookup_cons_of_ne (Ne.symm hk) texts

/-- **Only forms are read** from objects. -/
theorem isForm_of_readTexts {texts : Texts} (h : readTexts keys text = (.ok texts, rest))
    (hopen : (behindBlanks text).head? = some 123) :
    ∃ ms, Stands (.value (.object ms)) text rest ∧ IsForm keys ms fun key => texts.lookup key := by
  obtain ⟨t, ht, ⟨ms, rfl, hfolds⟩ | ⟨items, rfl, -⟩⟩ := isSound_record allSound_texts [] h
  · refine ⟨ms, ht, hfolds.exists_spells, fun key hkey => ?_⟩
    have hmember : ∃ m ∈ keys.map textMember, m.key = key := ⟨_, List.mem_map_of_mem hkey, rfl⟩
    cases hlookup : texts.lookup key with
    | none => exact hfolds.field_of_none (belongs_text key) hmember hlookup
    | some s => exact hfolds.field (belongs_text key) hmember rfl hlookup
  · have hkind := ht.kind
    rw [hopen] at hkind
    cases hkind

/-! ## Registrations -/

def signUpKeys : List String := ["email", "password", "phone_number", "name", "surname"]

/-- The registration that texts make up. What is left out counts as empty. -/
def registrationOf (text? : String → Option String) : Registration where
  profile := {
    email := (text? "email").getD ""
    phoneNumber := (text? "phone_number").getD ""
    name := (text? "name").getD ""
    surname := (text? "surname").getD "" }
  password := (text? "password").getD ""

lemma readSignUp_of_readTexts {texts : Texts} (h : readTexts signUpKeys text = (.ok texts, rest)) :
    readSignUp text = (.ok (registrationOf fun key => texts.lookup key), rest) := Reader.bind_ok h _

/-- **Every form of a person who signs up is read,** and what is read is what it says. -/
theorem accepts_readSignUp (h : IsForm signUpKeys ms text?) :
    Accepts readSignUp (.object ms) (registrationOf text?) := by
  obtain ⟨texts, haccepts, htexts⟩ := accepts_readTexts h
  have hsame : registrationOf (fun key => texts.lookup key) = registrationOf text? := by
    have hkeys : ∀ key ∈ signUpKeys, texts.lookup key = text? key := htexts
    unfold registrationOf
    dsimp only
    rw [hkeys "email" (by decide), hkeys "password" (by decide), hkeys "phone_number" (by decide),
      hkeys "name" (by decide), hkeys "surname" (by decide)]
  intro text rest hs
  rw [readSignUp_of_readTexts (haccepts hs), hsame]

/-- **Only forms are read** from the objects of those who sign up. -/
theorem isForm_of_readSignUp {r : Registration} (h : readSignUp text = (.ok r, rest))
    (hopen : (behindBlanks text).head? = some 123) :
    ∃ ms text?, Stands (.value (.object ms)) text rest ∧ IsForm signUpKeys ms text? ∧ registrationOf text? = r := by
  obtain ⟨texts, mid, htexts, hr⟩ := Reader.bind_ok_iff.1 h
  obtain ⟨rfl, rfl⟩ := Reader.pure_ok_iff.1 hr
  obtain ⟨ms, hs, hform⟩ := isForm_of_readTexts htexts hopen
  exact ⟨ms, _, hs, hform, rfl⟩

/-- A whole text is an object that is the form of a person who signs up, and tells a registration. -/
def IsSignUpForm (text : Bytes) (r : Registration) : Prop :=
  ∃ ms text?, IsText text (.object ms) ∧ IsForm signUpKeys ms text? ∧ registrationOf text? = r

lemma isSignUpForm_of_readSignUp {r : Registration} (h : (readSignUp text).1.toOption = some r)
    (hopen : (behindBlanks text).head? = some 123) (hrest : behindBlanks (readSignUp text).2 = []) :
    IsSignUpForm text r := by
  rcases hread : readSignUp text with ⟨flaw | r', rest⟩
  · rw [hread] at h
    cases h
  · rw [hread] at h hrest
    cases h
    obtain ⟨ms, text?, hs, hform, hr⟩ := isForm_of_readSignUp hread hopen
    exact ⟨ms, text?, ⟨rest, hs, hrest⟩, hform, hr⟩

lemma IsSignUpForm.behind_blanks {r : Registration} (h : IsSignUpForm text r) {blanks : Bytes}
    (hb : ∀ b ∈ blanks, isSpace b = true) : IsSignUpForm (blanks ++ text) r := by
  obtain ⟨ms, text?, htext, hform, hr⟩ := h
  exact ⟨ms, text?, htext.behind_blanks hb, hform, hr⟩

/-- **Such a form is read** from the front of the text. -/
theorem IsSignUpForm.readSignUp {r : Registration} (h : IsSignUpForm text r) :
    ∃ rest, Api.readSignUp text = (.ok r, rest) := by
  obtain ⟨ms, text?, ⟨rest, hs, -⟩, hform, hr⟩ := h
  exact ⟨rest, by rw [accepts_readSignUp hform hs, hr]⟩

end Api

end Gatehouse
