import Gatehouse.Proofs.Token.Expiry
import Mathlib.Algebra.BigOperators.Group.List.Basic
import Mathlib.Algebra.GroupWithZero.Nat

/-!
# Days and dates

* `monthDay_spec` — a day that is counted from the start of a year lies in one of its months;
* `Date.IsValid` — the dates that exist;
* `isValid_ofDayNumber`, `dayNumber_ofDayNumber` — every day has such a date, from which its number is found again;
* `year_ofDayNumber` — and the number of a date lies in the year of the date.
-/

namespace Gatehouse.Date

/-! ## Months -/

/-- **A day lies in one of the blocks** that a year is cut into: behind those in front of it, and within its own. -/
theorem monthDay_spec (lengths : List Nat) (month n : Nat) (h : n < lengths.sum) :
    ∃ i, ∃ hi : i < lengths.length, ∃ d < lengths[i],
      n = (lengths.take i).sum + d ∧ monthDay month n lengths = (month + i, d + 1) := by
  induction lengths generalizing month n with
  | nil => simp at h
  | cons len lengths ih =>
    rw [List.sum_cons] at h
    by_cases hfirst : n < len
    · refine ⟨0, by simp, n, hfirst, by simp, ?_⟩
      rw [monthDay, if_pos hfirst]
      rfl
    · obtain ⟨i, hi, d, hd, hsum, hplace⟩ := ih (month + 1) (n - len) (by omega)
      refine ⟨i + 1, by simpa using hi, d, hd, ?_, ?_⟩
      · rw [List.take_succ_cons, List.sum_cons]
        omega
      · rw [monthDay, if_neg hfirst, hplace, Nat.add_right_comm, Nat.add_assoc]

lemma sum_monthLengths (year : Int) : (monthLengths year).sum = if isLeap year then 366 else 365 := by
  unfold monthLengths
  split <;> rfl

lemma daysBeforeYear_succ (year : Int) :
    daysBeforeYear (year + 1) = daysBeforeYear year + ((monthLengths year).sum : Nat) := by
  rw [sum_monthLengths, daysBeforeYear_eq, daysBeforeYear_eq]
  by_cases hleap : isLeap year = true
  · rw [if_pos hleap]
    simp only [isLeap, Bool.and_eq_true, Bool.or_eq_true, beq_iff_eq, bne_iff_ne] at hleap
    omega
  · rw [if_neg hleap]
    simp only [isLeap, Bool.and_eq_true, Bool.or_eq_true, beq_iff_eq, bne_iff_ne] at hleap
    omega

/-! ## Dates -/

structure IsValid (d : Date) : Prop where
  one_le_month : 1 ≤ d.month
  month_le : d.month ≤ 12
  one_le_day : 1 ≤ d.day
  day_le : d.day ≤ monthLength d.year d.month

lemma monthLength_succ {year : Int} {i : Nat} (hi : i < (monthLengths year).length) :
    monthLength year (1 + i) = (monthLengths year)[i] := by
  rw [monthLength, if_neg (by omega), Nat.add_sub_cancel_left, List.getElem?_eq_getElem hi, Option.getD_some]

lemma daysBeforeMonth_succ (year : Int) (i : Nat) :
    daysBeforeMonth year (1 + i) = ((monthLengths year).take i).sum := by
  rw [daysBeforeMonth, Nat.add_sub_cancel_left, List.sum_eq_foldl]

/-- The day that has a number: a day of one of the months of its year. -/
lemma ofDayNumber_spec (n : Int) : ∃ year, ∃ i, ∃ hi : i < (monthLengths year).length, ∃ d < (monthLengths year)[i],
    n + epochDay = daysBeforeYear year + (((monthLengths year).take i).sum + d : Nat) ∧
      ofDayNumber n = ⟨year, 1 + i, d + 1⟩ := by
  obtain ⟨hlow, hhigh⟩ := yearOfDay_spec (n + epochDay)
  rw [daysBeforeYear_succ] at hhigh
  obtain ⟨i, hi, d, hd, hsum, hplace⟩ := monthDay_spec (monthLengths (yearOfDay (n + epochDay))) 1
    (n + epochDay - daysBeforeYear (yearOfDay (n + epochDay))).toNat (by omega)
  refine ⟨yearOfDay (n + epochDay), i, hi, d, hd, by omega, ?_⟩
  rw [ofDayNumber, hplace]

/-- **Every day has a date that exists.** -/
theorem isValid_ofDayNumber (n : Int) : (ofDayNumber n).IsValid := by
  obtain ⟨year, i, hi, d, hd, -, hdate⟩ := ofDayNumber_spec n
  rw [hdate]
  have htwelve : (monthLengths year).length = 12 := rfl
  refine ⟨by show 1 ≤ 1 + i; omega, by show 1 + i ≤ 12; omega, by show 1 ≤ d + 1; omega, ?_⟩
  show d + 1 ≤ monthLength year (1 + i)
  rw [monthLength_succ hi]
  exact hd

/-- **A day is found again** from its date. -/
theorem dayNumber_ofDayNumber (n : Int) : (ofDayNumber n).dayNumber = n := by
  obtain ⟨year, i, hi, d, hd, hsum, hdate⟩ := ofDayNumber_spec n
  rw [hdate, dayNumber]
  dsimp only
  rw [daysBeforeMonth_succ]
  push_cast at hsum ⊢
  omega

lemma IsValid.exists_month {d : Date} (h : d.IsValid) :
    ∃ i, d.month = 1 + i ∧ ∃ hi : i < (monthLengths d.year).length, d.day ≤ (monthLengths d.year)[i] := by
  have hlow := h.one_le_month
  have hhigh := h.month_le
  have htwelve : (monthLengths d.year).length = 12 := rfl
  obtain ⟨i, hmonth⟩ : ∃ i, d.month = 1 + i := ⟨d.month - 1, by omega⟩
  have hi : i < (monthLengths d.year).length := by omega
  have hday := h.day_le
  rw [hmonth, monthLength_succ hi] at hday
  exact ⟨i, hmonth, hi, hday⟩

lemma IsValid.day_le_31 {d : Date} (h : d.IsValid) : d.day ≤ 31 := by
  obtain ⟨i, -, hi, hday⟩ := h.exists_month
  have hlengths : ∀ len ∈ monthLengths d.year, len ≤ 31 := by
    unfold monthLengths
    split <;> decide
  exact Nat.le_trans hday (hlengths _ (List.getElem_mem hi))

/-- A date lies behind the months in front of its own, and in front of the end of the year. -/
lemma IsValid.dayOfYear_le {d : Date} (h : d.IsValid) :
    daysBeforeMonth d.year d.month + d.day ≤ (monthLengths d.year).sum := by
  obtain ⟨i, hmonth, hi, hday⟩ := h.exists_month
  have hsum : (monthLengths d.year).sum =
      ((monthLengths d.year).take (i + 1)).sum + ((monthLengths d.year).drop (i + 1)).sum := by
    rw [← List.sum_append, List.take_append_drop]
  rw [List.take_succ_eq_append_getElem hi, List.sum_append, List.sum_singleton] at hsum
  rw [hmonth, daysBeforeMonth_succ]
  omega

/-- **The number of a date lies in its year.** -/
theorem year_ofDayNumber {d : Date} (h : d.IsValid) : (ofDayNumber d.dayNumber).year = d.year := by
  have hfirst := h.one_le_day
  have hlast := h.dayOfYear_le
  have hyear : d.year ≤ yearOfDay (d.dayNumber + epochDay) ∧ yearOfDay (d.dayNumber + epochDay) < d.year + 1 := by
    apply year_bounds
    · rw [dayNumber]
      omega
    · rw [daysBeforeYear_succ, dayNumber]
      omega
  show yearOfDay (d.dayNumber + epochDay) = d.year
  omega

end Gatehouse.Date
