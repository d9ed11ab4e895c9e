import Gatehouse.Settings
import Gatehouse.Token
import Mathlib.Tactic.Lemma
import Mathlib.Tactic.SplitIfs

/-!
# When tokens expire

* `Date.yearOfDay_spec` — a day lies in the year that is found for it;
* `Moment.InService` — the times from 1970 on that leave a year up to the end of the calendar;
* `expiry?_eq` — at such a time, a token of any lifetime that the settings allow expires within the calendar.
-/

namespace Gatehouse

/-! ## Years -/

namespace Date

lemma daysBeforeYear_eq (y : Int) :
    daysBeforeYear y = y * 365 + (y + 3) / 4 - (y + 99) / 100 + (y + 399) / 400 := by
  unfold daysBeforeYear
  rw [Int.fdiv_eq_ediv_of_nonneg _ (by decide), Int.fdiv_eq_ediv_of_nonneg _ (by decide),
    Int.fdiv_eq_ediv_of_nonneg _ (by decide)]

/-- **A day lies in the year that is found for it.** -/
theorem yearOfDay_spec (n : Int) : daysBeforeYear (yearOfDay n) ≤ n ∧ n < daysBeforeYear (yearOfDay n + 1) := by
  unfold yearOfDay
  rw [Int.fdiv_eq_ediv_of_nonneg _ (by decide)]
  -- four hundred years have 146097 days, so that the guess is off by one year at most
  have hlow : 146097 * (n * 400 / 146097) ≤ n * 400 := Int.mul_ediv_self_le (by decide)
  have hhigh : n * 400 < 146097 * (n * 400 / 146097) + 146097 := Int.lt_mul_ediv_self_add (by decide)
  generalize n * 400 / 146097 = guess at hlow hhigh
  dsimp only
  split_ifs with hbefore hbehind
  · rw [Int.sub_add_cancel]
    simp only [daysBeforeYear_eq] at hbefore ⊢
    omega
  · simp only [daysBeforeYear_eq] at hbehind ⊢
    omega
  · omega

lemma year_bounds {n first past : Int} (h1 : daysBeforeYear first ≤ n) (h2 : n < daysBeforeYear past) :
    first ≤ yearOfDay n ∧ yearOfDay n < past := by
  have h := yearOfDay_spec n
  simp only [daysBeforeYear_eq] at h h1 h2
  omega

end Date

namespace Moment

lemma utc_year (second : Int) : (utc second).date.year = Date.yearOfDay (second / 86400 + Date.epochDay) := by
  unfold date localSeconds utc
  rw [Int.add_zero, Int.fdiv_eq_ediv_of_nonneg _ (by decide)]
  rfl

/-- The first second behind the year 9999. -/
def endOfCalendar : Int := Date.dayNumber ⟨10000, 1, 1⟩ * 86400

/-- A time from 1970 on with a year left up to the end of the calendar. -/
def InService (m : Moment) : Prop := 0 ≤ m.seconds ∧ m.seconds + 31536000 < endOfCalendar

end Moment

/-! ## Lifetimes -/

lemma TokenSettings.lifetime_bounds (t : TokenSettings) : 60 ≤ t.lifetime ∧ t.lifetime ≤ 31536000 := by
  unfold lifetime maxMinutes
  omega

namespace Token

/-- **The expiry of a token** that is issued at a time in service, for a year at most. -/
theorem expiry?_eq {now : Moment} (h : now.InService) {lifetime : Nat} (hl : lifetime ≤ 31536000) :
    expiry? now lifetime = some (now.seconds + lifetime).toNat := by
  have hend : Moment.endOfCalendar = 253402300800 := by decide +kernel
  obtain ⟨h0, h1⟩ := h
  rw [hend] at h1
  have hsigned : signedSeconds lifetime = lifetime := by
    unfold signedSeconds
    rw [Int.bmod_eq_of_le] <;> omega
  have hfirst : Date.daysBeforeYear (-9999) ≤ (now.seconds + lifetime) / 86400 + Date.epochDay := by
    rw [show Date.daysBeforeYear (-9999) = -3652059 from by decide, show Date.epochDay = 719528 from rfl]
    omega
  have hpast : (now.seconds + lifetime) / 86400 + Date.epochDay < Date.daysBeforeYear 10000 := by
    rw [show Date.daysBeforeYear 10000 = 3652425 from by decide, show Date.epochDay = 719528 from rfl]
    omega
  have hyear := Date.year_bounds hfirst hpast
  unfold expiry?
  simp only [hsigned, Moment.utc_year]
  rw [if_pos ⟨hyear.1, by omega⟩, Int.emod_eq_of_lt (by omega) (by omega)]

example : expiry? (Moment.utc 1700000000) 3600 = some 1700003600 := by decide

end Token

end Gatehouse
