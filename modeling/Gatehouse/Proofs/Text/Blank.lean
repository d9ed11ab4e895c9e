import Gatehouse.Text.Blank
import Mathlib.Data.List.DropRight
import Mathlib.Tactic.Lemma

/-!
# Trimmed texts

* `IsTrimmed` — a text that is not empty and has no blank at either end;
* `isTrimmed_trim`, `trim_eq_empty_iff` — trimming gives such a text, or leaves nothing, which is so for blank texts;
* `trim_eq_self` — a text without blanks stays as it is.
-/

namespace Gatehouse.Text

variable {s : String} {cs : List Char}

/-- A text that is not empty and has no blank at either end. -/
structure IsTrimmed (s : String) : Prop where
  ne_empty : s ≠ ""
  first : ∀ c ∈ s.toList.head?, isBlank c = false
  last : ∀ c ∈ s.toList.getLast?, isBlank c = false

/-! ## Ends of lists -/

lemma isBlank_of_mem_head?_dropWhile {c : Char} (h : c ∈ (cs.dropWhile isBlank).head?) : isBlank c = false := by
  have hhead := List.head?_dropWhile_not isBlank cs
  rw [Option.mem_def.1 h] at hhead
  exact hhead

lemma isBlank_of_mem_getLast?_trimEnd {c : Char} (h : c ∈ (trimEnd cs).getLast?) : isBlank c = false := by
  rw [trimEnd, List.getLast?_reverse] at h
  exact isBlank_of_mem_head?_dropWhile h

lemma trimEnd_prefix (cs : List Char) : trimEnd cs <+: cs := List.rdropWhile_prefix isBlank cs

lemma mem_head?_of_trimEnd {c : Char} (h : c ∈ (trimEnd cs).head?) : c ∈ cs.head? := by
  obtain ⟨blanks, hcs⟩ := trimEnd_prefix cs
  rw [← hcs, List.head?_append, Option.mem_def.1 h]
  rfl

lemma eq_nil_of_trimEnd (h : trimEnd (cs.dropWhile isBlank) = []) : cs.dropWhile isBlank = [] := by
  have hall : ∀ c ∈ cs.dropWhile isBlank, isBlank c = true := List.rdropWhile_eq_nil_iff.1 h
  cases hd : cs.dropWhile isBlank with
  | nil => rfl
  | cons c rest =>
    have hc : c ∈ (cs.dropWhile isBlank).head? := by rw [hd]; rfl
    have hfirst : isBlank c = false := isBlank_of_mem_head?_dropWhile hc
    rw [hd] at hall
    exact absurd (hall c List.mem_cons_self) (by rw [hfirst]; decide)

/-! ## Trimming -/

/-- **What trimming leaves** has no blank at either end. -/
theorem isTrimmed_trim (h : trim s ≠ "") : IsTrimmed (trim s) := by
  refine ⟨h, fun c hc => ?_, fun c hc => ?_⟩
  · rw [trim, String.toList_ofList] at hc
    exact isBlank_of_mem_head?_dropWhile (mem_head?_of_trimEnd hc)
  · rw [trim, String.toList_ofList] at hc
    exact isBlank_of_mem_getLast?_trimEnd hc

theorem trim_eq_empty_iff : trim s = "" ↔ isBlankText s = true := by
  rw [trim, String.ofList_eq_empty_iff, isBlankText, List.all_eq_true]
  constructor
  · intro h
    exact List.dropWhile_eq_nil_iff.1 (eq_nil_of_trimEnd h)
  · intro h
    rw [List.dropWhile_eq_nil_iff.2 h]
    rfl

theorem trim_eq_self (h : ∀ c ∈ s.toList, isBlank c = false) : trim s = s := by
  have hfront : s.toList.dropWhile isBlank = s.toList :=
    List.dropWhile_eq_self_iff.2 fun hl => by simp [h _ (List.getElem_mem hl)]
  have hend : trimEnd s.toList = s.toList :=
    List.rdropWhile_eq_self_iff.2 fun hl => by simp [h _ (List.getLast_mem hl)]
  rw [trim, hfront, hend, String.ofList_toList]

end Gatehouse.Text
