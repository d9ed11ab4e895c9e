import Gatehouse.Email
import Mathlib.Data.List.TakeWhile
import Mathlib.Tactic.Lemma

/-!
# The shape of email addresses

* `hasInnerDot_iff`, `hasInnerDot_iff_getElem?` — an inner dot, told by the text on either side and by its place;
* `isValidList_iff` — the text in front of the first at sign and the text behind it decide;
* `isValidList_iff_address`, `isValidList_iff_isMarked` — so that exactly the texts of the grammar are addresses, which
  are those with one at sign and an inner dot behind it;
* `isValid_exact` — both together, for every text; a line feed at the end is never taken.
-/

namespace Gatehouse.Email

open Text (isBlank)

variable {cs name domain : List Char}

lemma isPlain_iff {c : Char} : isPlain c = true ↔ c ≠ '@' ∧ isBlank c = false := by
  simp [isPlain]

/-! ## Inner dots -/

lemma hasInnerDot_iff : hasInnerDot domain = true ↔
    ∃ front behind, domain = front ++ '.' :: behind ∧ front ≠ [] ∧ behind ≠ [] := by
  unfold hasInnerDot
  rw [List.contains_iff_mem]
  constructor
  · intro h
    cases domain with
    | nil => simp at h
    | cons c rest =>
      rcases rest.eq_nil_or_concat with rfl | ⟨middle, last, rfl⟩
      · simp at h
      · have hmiddle : '.' ∈ middle := by simpa using h
        obtain ⟨front, behind, rfl⟩ := List.append_of_mem hmiddle
        exact ⟨c :: front, behind ++ [last], by simp, by simp, by simp⟩
  · rintro ⟨front, behind, rfl, hfront, hbehind⟩
    obtain ⟨c, front, rfl⟩ := List.exists_cons_of_ne_nil hfront
    rw [List.cons_append, List.drop_one, List.tail_cons, List.dropLast_append_cons, List.dropLast_cons_of_ne_nil hbehind]
    simp

lemma hasInnerDot_iff_getElem? : hasInnerDot domain = true ↔
    ∃ i, 0 < i ∧ i + 1 < domain.length ∧ domain[i]? = some '.' := by
  rw [hasInnerDot_iff]
  constructor
  · rintro ⟨front, behind, rfl, hfront, hbehind⟩
    have hlow := List.length_pos_iff.2 hfront
    have hhigh := List.length_pos_iff.2 hbehind
    refine ⟨front.length, hlow, ?_, by simp⟩
    rw [List.length_append, List.length_cons]
    omega
  · rintro ⟨i, hlow, hhigh, hdot⟩
    obtain ⟨hi, hdot⟩ := List.getElem?_eq_some_iff.1 hdot
    refine ⟨domain.take i, domain.drop (i + 1), ?_, ?_, ?_⟩
    · rw [← hdot, List.getElem_cons_drop, List.take_append_drop]
    · exact List.ne_nil_of_length_pos (by rw [List.length_take]; omega)
    · exact List.ne_nil_of_length_pos (by rw [List.length_drop]; omega)

/-! ## The at sign -/

/-- The text in front of the first at sign and the text behind it decide whether a text is an address. -/
lemma isValidList_iff : isValidList cs = true ↔ ∃ name domain, cs = name ++ '@' :: domain ∧ name ≠ [] ∧
    (∀ c ∈ name ++ domain, isPlain c = true) ∧ hasInnerDot domain = true := by
  unfold isValidList
  constructor
  · intro h
    have hsplit := List.takeWhile_append_dropWhile (p := isPlain) (l := cs)
    split at h
    · next domain hrest =>
      simp only [Bool.and_eq_true, Bool.not_eq_true', List.isEmpty_eq_false_iff, List.all_eq_true] at h
      obtain ⟨⟨hname, hdomain⟩, hdot⟩ := h
      rw [hrest] at hsplit
      refine ⟨_, domain, hsplit.symm, hname, ?_, hdot⟩
      intro c hc
      rcases List.mem_append.1 hc with hc | hc
      · exact List.mem_takeWhile_imp hc
      · exact hdomain c hc
    · cases h
  · rintro ⟨name, domain, rfl, hname, hplain, hdot⟩
    simp only [List.mem_append] at hplain
    -- the at sign is the first character that is not plain
    have hat : ¬isPlain '@' = true := by decide
    rw [List.takeWhile_append_of_pos fun c hc => hplain c (.inl hc),
      List.dropWhile_append_of_pos fun c hc => hplain c (.inl hc), List.takeWhile_cons_of_neg hat,
      List.dropWhile_cons_of_neg hat, List.append_nil]
    simp only [Bool.and_eq_true, Bool.not_eq_true', List.isEmpty_eq_false_iff, List.all_eq_true]
    exact ⟨⟨hname, fun c hc => hplain c (.inr hc)⟩, hdot⟩

lemma count_at_eq_one_iff : (name ++ '@' :: domain).count '@' = 1 ↔ '@' ∉ name ++ domain := by
  rw [← List.count_eq_zero, List.count_append, List.count_append, List.count_cons_self]
  omega

/-! ## Addresses -/

/-- **The texts of the grammar** are the addresses, whichever of its dots the domain is cut at. -/
theorem isValidList_iff_address : isValidList cs = true ↔ Address cs := by
  rw [isValidList_iff]
  constructor
  · rintro ⟨name, rest, rfl, hname, hplain, hdot⟩
    obtain ⟨domain, label, rfl, hdomain, hlabel⟩ := hasInnerDot_iff.1 hdot
    refine ⟨name, domain, label, by simp, hname, hdomain, hlabel, ?_⟩
    intro c hc
    exact hplain c (by grind)
  · rintro ⟨name, domain, label, rfl, hname, hdomain, hlabel, hplain⟩
    refine ⟨name, domain ++ '.' :: label, by simp, hname, ?_, hasInnerDot_iff.2 ⟨_, _, rfl, hdomain, hlabel⟩⟩
    intro c hc
    by_cases hdot : c = '.'
    · rw [hdot]
      decide
    · exact hplain c (by grind)

/-- The shape of an address, told by its signs: no blanks, one at sign with text in front of it, and behind it a dot that
is neither the first character nor the last one. -/
structure IsMarked (cs : List Char) : Prop where
  not_blank : ∀ c ∈ cs, isBlank c = false
  one_at : cs.count '@' = 1
  parts : ∃ name domain, cs = name ++ '@' :: domain ∧ name ≠ [] ∧
    ∃ i, 0 < i ∧ i + 1 < domain.length ∧ domain[i]? = some '.'

theorem isValidList_iff_isMarked : isValidList cs = true ↔ IsMarked cs := by
  rw [isValidList_iff]
  constructor
  · rintro ⟨name, domain, rfl, hname, hplain, hdot⟩
    refine ⟨?_, ?_, name, domain, rfl, hname, hasInnerDot_iff_getElem?.1 hdot⟩
    · intro c hc
      by_cases hat : c = '@'
      · rw [hat]
        decide
      · refine (isPlain_iff.1 (hplain c ?_)).2
        simpa [hat] using hc
    · rw [count_at_eq_one_iff]
      intro hat
      exact (isPlain_iff.1 (hplain _ hat)).1 rfl
  · rintro ⟨hblank, hone, name, domain, rfl, hname, hdot⟩
    have hat := count_at_eq_one_iff.1 hone
    refine ⟨name, domain, rfl, hname, ?_, hasInnerDot_iff_getElem?.2 hdot⟩
    intro c hc
    exact isPlain_iff.2 ⟨ne_of_mem_of_not_mem hc hat, hblank c (by grind)⟩

lemma isBlank_of_isValid {s : String} (h : isValid s = true) : ∀ c ∈ s.toList, isBlank c = false :=
  (isValidList_iff_isMarked.1 h).not_blank

/-- **Which texts are email addresses.** A text is one exactly if it is a name, an at sign, a domain, a dot and a last
label, none of them empty and all free of at signs and blanks, whichever dots these parts hold themselves; which is so
exactly if it has no blanks, one at sign with text in front of it, and behind it a dot that is neither the first
character nor the last one. With a line feed at the end no text is one. -/
theorem isValid_exact (s : String) :
    (isValid s = true ↔ Address s.toList) ∧ (isValid s = true ↔ IsMarked s.toList) ∧ isValid (s ++ "\n") = false := by
  refine ⟨isValidList_iff_address, isValidList_iff_isMarked, ?_⟩
  rw [Bool.eq_false_iff]
  intro h
  have hfeed : '\n' ∈ (s ++ "\n").toList := by simp
  exact absurd (isBlank_of_isValid h '\n' hfeed) (by decide)

example : isValid "a.b@.x..c" = true ∧ isValid "a@x." = false ∧ isValid "a@b@x.c" = false := by decide

end Gatehouse.Email
