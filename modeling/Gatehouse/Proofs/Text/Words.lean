import Gatehouse.Text.Blank
import Mathlib.Data.List.TakeWhile
import Mathlib.Tactic.Lemma

/-!
# Words of a text

* `words_blanks`, `words_word` — blanks in front of the words count for nothing, and a word ends at the next blank;
* `words_eq_nil_iff`, `words_eq_cons_iff` — so that a text without words is blank, and any other one begins with blanks
  and its first word;
* `words_eq_pair_iff` — the texts of two words.
-/

namespace Gatehouse.Text

variable {front word rest cs : List Char} {ws : List (List Char)}

/-- A run of characters that are not blank, with at least one of them. -/
structure Unbroken (word : List Char) : Prop where
  ne_nil : word ≠ []
  not_blank : ∀ c ∈ word, isBlank c = false

lemma words_cons_of_blank {c : Char} (hc : isBlank c = true) (cs : List Char) : words (c :: cs) = words cs := by
  rw [words.eq_def]
  exact if_pos hc

lemma words_blanks (h : ∀ c ∈ front, isBlank c = true) (cs : List Char) : words (front ++ cs) = words cs := by
  induction front with
  | nil => rfl
  | cons c front ih =>
    rw [List.cons_append, words_cons_of_blank (h c List.mem_cons_self), ih fun d hd => h d (List.mem_cons_of_mem _ hd)]

/-- **A word ends at the next blank.** -/
theorem words_word (hword : Unbroken word) (hrest : ∀ c ∈ rest.head?, isBlank c = true) :
    words (word ++ rest) = word :: words rest := by
  obtain ⟨hne, hall⟩ := hword
  induction word with
  | nil => exact absurd rfl hne
  | cons c word ih =>
    have hc : ¬isBlank c = true := by simp [hall c List.mem_cons_self]
    cases word with
    | nil =>
      rw [List.cons_append, List.nil_append, words.eq_def]
      cases rest with
      | nil => exact if_neg hc
      | cons d rest => exact (if_neg hc).trans (if_pos (hrest d rfl))
    | cons d word =>
      have hd : ¬isBlank d = true := by simp [hall d (by simp)]
      have hbehind := ih (List.cons_ne_nil d word) fun e he => hall e (List.mem_cons_of_mem _ he)
      rw [List.cons_append] at hbehind
      rw [List.cons_append, List.cons_append, words, if_neg hc, if_neg hd, hbehind]

/-- A text that does not begin with a blank begins with a word, behind which it ends or a blank follows. -/
lemma exists_word {c : Char} (hc : isBlank c = false) (cs : List Char) :
    ∃ word rest, c :: cs = word ++ rest ∧ Unbroken word ∧ ∀ d ∈ rest.head?, isBlank d = true := by
  refine ⟨(c :: cs).takeWhile (! isBlank ·), (c :: cs).dropWhile (! isBlank ·),
    List.takeWhile_append_dropWhile.symm, ⟨?_, fun d hd => by simpa using List.mem_takeWhile_imp hd⟩, fun d hd => ?_⟩
  · rw [List.takeWhile_cons_of_pos (by simp [hc])]
    exact List.cons_ne_nil _ _
  · have hhead := List.head?_dropWhile_not (! isBlank ·) (c :: cs)
    rw [Option.mem_def.1 hd] at hhead
    simpa using hhead

lemma words_eq_nil_iff : words cs = [] ↔ ∀ c ∈ cs, isBlank c = true := by
  constructor
  · intro h
    by_contra hblank
    -- at the first character that is not blank a word begins
    cases hrest : cs.dropWhile isBlank with
    | nil => exact hblank (List.dropWhile_eq_nil_iff.1 hrest)
    | cons c rest =>
      have hc := List.head?_dropWhile_not isBlank cs
      rw [hrest] at hc
      obtain ⟨word, behind, he, hword, hbehind⟩ := exists_word (by simpa using hc) rest
      have hfront : ∀ d ∈ cs.takeWhile isBlank, isBlank d = true := fun d hd => List.mem_takeWhile_imp hd
      rw [← List.takeWhile_append_dropWhile (p := isBlank) (l := cs), words_blanks hfront, hrest, he,
        words_word hword hbehind] at h
      cases h
  · intro h
    rw [← List.append_nil cs, words_blanks h]
    rfl

/-- **A text that has words** begins with blanks and its first word, behind which it ends or a blank follows. -/
theorem words_eq_cons_iff : words cs = word :: ws ↔
    ∃ front rest, cs = front ++ (word ++ rest) ∧ (∀ c ∈ front, isBlank c = true) ∧ Unbroken word ∧
      (∀ c ∈ rest.head?, isBlank c = true) ∧ words rest = ws := by
  constructor
  · intro h
    have hsplit := List.takeWhile_append_dropWhile (p := isBlank) (l := cs)
    have hfront : ∀ c ∈ cs.takeWhile isBlank, isBlank c = true := fun c hc => List.mem_takeWhile_imp hc
    cases hrest : cs.dropWhile isBlank with
    | nil =>
      rw [words_eq_nil_iff.2 (List.dropWhile_eq_nil_iff.1 hrest)] at h
      cases h
    | cons c rest =>
      have hc := List.head?_dropWhile_not isBlank cs
      rw [hrest] at hc
      obtain ⟨first, behind, he, hword, hbehind⟩ := exists_word (by simpa using hc) rest
      rw [hrest, he] at hsplit
      rw [← hsplit, words_blanks hfront, words_word hword hbehind] at h
      cases h
      exact ⟨_, behind, hsplit.symm, hfront, hword, hbehind, rfl⟩
  · rintro ⟨front, rest, rfl, hfront, hword, hrest, rfl⟩
    rw [words_blanks hfront, words_word hword hrest]

/-- The texts of two words: blanks stand between the two, and may stand around them. -/
theorem words_eq_pair_iff {first second : List Char} : words cs = [first, second] ↔
    Unbroken first ∧ Unbroken second ∧ ∃ front between behind, cs = front ++ first ++ between ++ second ++ behind ∧
      between ≠ [] ∧ ∀ c ∈ front ++ between ++ behind, isBlank c = true := by
  constructor
  · intro h
    obtain ⟨front, rest, rfl, hfront, hfirst, hrest, h⟩ := words_eq_cons_iff.1 h
    obtain ⟨between, behind, rfl, hbetween, hsecond, -, h⟩ := words_eq_cons_iff.1 h
    have hbehind := words_eq_nil_iff.1 h
    refine ⟨hfirst, hsecond, front, between, behind, by simp only [List.append_assoc], ?_, ?_⟩
    · -- without blanks between them the two words would be one
      rintro rfl
      obtain ⟨c, second, rfl⟩ := List.exists_cons_of_ne_nil hsecond.ne_nil
      exact absurd (hrest c rfl) (by simp [hsecond.not_blank c List.mem_cons_self])
    · simp only [List.mem_append]
      rintro c ((hc | hc) | hc)
      · exact hfront c hc
      · exact hbetween c hc
      · exact hbehind c hc
  · rintro ⟨hfirst, hsecond, front, between, behind, rfl, hne, hblank⟩
    simp only [List.mem_append] at hblank
    have hhead : ∀ rest : List Char, ∀ c ∈ (between ++ rest).head?, isBlank c = true := by
      obtain ⟨b, between, rfl⟩ := List.exists_cons_of_ne_nil hne
      rintro rest c ⟨⟩
      exact hblank b (.inl (.inr List.mem_cons_self))
    have hend : ∀ c ∈ behind.head?, isBlank c = true := fun c hc => hblank c (.inr (List.mem_of_mem_head? hc))
    simp only [List.append_assoc]
    rw [words_blanks (fun c hc => hblank c (.inl (.inl hc))), words_word hfirst (hhead _),
      words_blanks (fun c hc => hblank c (.inl (.inr hc))), words_word hsecond hend,
      words_eq_nil_iff.2 fun c hc => hblank c (.inr hc)]

end Gatehouse.Text
