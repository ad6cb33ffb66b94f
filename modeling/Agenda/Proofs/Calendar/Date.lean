import Agenda.Calendar.Date
import Mathlib.Algebra.Group.Basic

/-!
# Dates and their civil form

The day of a date lies in the year that `yearOfDay` finds (`yearOfDay_spec`) and in the month that
`splitMonths` finds (`splitMonths_spec`). So the civil form of a date is a day that the calendar
has, and its day number is that of the date: the date is found again from it
(`Date.ofCivil?_civil`).
-/

namespace Agenda

/-! ### Years -/

/-- The year of a day is the estimate or one of its neighbours. -/
theorem daysBeforeYear_le_of_guess (n : Int) :
    daysBeforeYear (n * 400 / 146097) ≤ n ∧ n < daysBeforeYear (n * 400 / 146097 + 3) := by
  unfold daysBeforeYear
  constructor <;> omega

/-- **A day lies in its year.** -/
theorem yearOfDay_spec (n : Int) :
    daysBeforeYear (yearOfDay n) ≤ n ∧ n < daysBeforeYear (yearOfDay n + 1) := by
  obtain ⟨hlow, hhigh⟩ := daysBeforeYear_le_of_guess n
  unfold yearOfDay
  dsimp only
  generalize n * 400 / 146097 = guess at *
  -- the guess may be a year too late, right, or a year too early
  split
  · rename_i hbefore
    rw [show guess + 1 - 1 = guess by omega]
    exact ⟨hlow, hbefore⟩
  · split
    · rename_i _ hafter
      refine ⟨hafter, ?_⟩
      rw [show guess + 1 + 1 + 1 = guess + 3 by omega]
      exact hhigh
    · omega

theorem daysBeforeYear_succ (year : Int) :
    daysBeforeYear (year + 1) = daysBeforeYear year + if isLeap year then 366 else 365 := by
  unfold daysBeforeYear isLeap
  by_cases h4 : year % 4 = 0 <;> by_cases h100 : year % 100 = 0 <;>
    by_cases h400 : year % 400 = 0 <;> simp [h4, h100, h400] <;> omega

theorem daysBeforeYear_mono {year year' : Int} (h : year ≤ year') :
    daysBeforeYear year ≤ daysBeforeYear year' := by
  unfold daysBeforeYear
  omega

/-- **Later days do not lie in earlier years.** -/
theorem yearOfDay_mono {n n' : Int} (h : n ≤ n') : yearOfDay n ≤ yearOfDay n' := by
  by_contra hlt
  obtain ⟨hlow, -⟩ := yearOfDay_spec n
  obtain ⟨-, hhigh⟩ := yearOfDay_spec n'
  have hyears := daysBeforeYear_mono (show yearOfDay n' + 1 ≤ yearOfDay n by omega)
  omega

/-! ### Months -/

/-- The months of a year are twelve, of at most 31 days, and make up the year. -/
theorem monthLengths_spec (leap : Bool) :
    (monthLengths leap).length = 12 ∧ (∀ length ∈ monthLengths leap, length ≤ 31) ∧
      (monthLengths leap).foldr (· + ·) 0 = if leap then 366 else 365 := by
  cases leap <;> decide

/-- **The days before a month and those left over make up a day of the year.** -/
theorem splitMonths_spec {lengths : List Nat} {n months left : Nat}
    (hn : n < lengths.foldr (· + ·) 0) (h : splitMonths lengths n = (months, left)) :
    (∃ length, lengths[months]? = some length ∧ left < length) ∧
      (lengths.take months).foldr (· + ·) 0 + left = n := by
  induction lengths generalizing n months with
  | nil => exact absurd hn (Nat.not_lt_zero _)
  | cons length rest ih =>
    unfold splitMonths at h
    split at h
    · -- the day lies in the first month
      rename_i hlt
      cases h
      exact ⟨⟨length, rfl, hlt⟩, Nat.zero_add _⟩
    · -- the day lies in a later month, that many days further on
      rename_i hge
      rw [List.foldr_cons] at hn
      obtain ⟨more, left', hrest⟩ : ∃ more left', splitMonths rest (n - length) = (more, left') :=
        ⟨_, _, rfl⟩
      rw [hrest] at h
      cases h
      obtain ⟨hlength, hsum⟩ := ih (by omega) hrest
      refine ⟨hlength, ?_⟩
      rw [List.take_succ_cons, List.foldr_cons]
      omega

/-! ### Civil dates -/

/-- Every day has a civil date in the calendar that counts the same day. -/
theorem Civil.ofDayNumber_spec (n : Int) :
    (ofDayNumber n).isValid = true ∧ (ofDayNumber n).dayNumber = n := by
  obtain ⟨hlow, hhigh⟩ := yearOfDay_spec (n + epochDay)
  rw [daysBeforeYear_succ] at hhigh
  unfold ofDayNumber
  dsimp only
  generalize yearOfDay (n + epochDay) = year at *
  obtain ⟨-, -, hsum⟩ := monthLengths_spec (isLeap year)
  obtain ⟨months, left, hsplit⟩ : ∃ months left, splitMonths (monthLengths (isLeap year))
      (n + epochDay - daysBeforeYear year).toNat = (months, left) := ⟨_, _, rfl⟩
  have hday : (n + epochDay - daysBeforeYear year).toNat
      < (monthLengths (isLeap year)).foldr (· + ·) 0 := by
    -- the day is before the next year, and the months make up the year
    rw [hsum]
    split at hhigh <;> split <;> omega
  obtain ⟨⟨length, hlength, hleft⟩, hback⟩ := splitMonths_spec hday hsplit
  rw [hsplit]
  constructor
  · unfold isValid
    simp only [Nat.add_sub_cancel, hlength]
    simp
    omega
  · show daysBeforeYear year - epochDay
      + (((monthLengths (isLeap year)).take (months + 1 - 1)).foldr (· + ·) 0 : Nat)
      + ((left + 1 : Nat) - 1 : Int) = n
    rw [Nat.add_sub_cancel]
    omega

/-- A civil date of the calendar has one of twelve months and at most 31 days. -/
theorem Civil.bounds_of_isValid {c : Civil} (h : c.isValid = true) :
    1 ≤ c.month ∧ c.month ≤ 12 ∧ 1 ≤ c.day ∧ c.day ≤ 31 := by
  obtain ⟨hcount, hlengths, -⟩ := monthLengths_spec (isLeap c.year)
  unfold isValid at h
  split at h
  · rename_i length hlength
    obtain ⟨hindex, -⟩ := List.getElem?_eq_some_iff.mp hlength
    have hle := hlengths length (List.mem_of_getElem? hlength)
    simp only [Bool.and_eq_true, decide_eq_true_eq] at h
    omega
  · rw [Bool.and_false] at h
    cases h

namespace Date

theorem ofDay?_day (d : Date) : ofDay? d.day = some d :=
  dif_pos ⟨d.first_le, d.le_last⟩

theorem eq_of_day_eq {d d' : Date} (h : d.day = d'.day) : d = d' := by
  have hsame : ofDay? d.day = ofDay? d'.day := congrArg ofDay? h
  rw [ofDay?_day, ofDay?_day] at hsame
  exact Option.some.inj hsame

theorem isValid_civil (d : Date) : d.civil.isValid = true :=
  (Civil.ofDayNumber_spec d.day).1

/-- **A date is found again from its civil form.** -/
theorem ofCivil?_civil (d : Date) : ofCivil? d.civil = some d := by
  unfold ofCivil?
  rw [if_pos (isValid_civil d), civil, (Civil.ofDayNumber_spec d.day).2]
  exact ofDay?_day d

theorem civil_year_mono {d d' : Date} (h : d.day ≤ d'.day) : d.civil.year ≤ d'.civil.year :=
  yearOfDay_mono (Int.add_le_add_right h epochDay)

/-! ### Days around a date -/

theorem isSome_addDays?_iff {d : Date} {n : Int} :
    (d.addDays? n).isSome ↔ firstDay ≤ d.day + n ∧ d.day + n ≤ lastDay := by
  unfold addDays? ofDay?
  split <;> simp_all

theorem day_of_addDays? {d d' : Date} {n : Int} (h : d.addDays? n = some d') :
    d'.day = d.day + n := by
  unfold addDays? ofDay? at h
  split at h
  · cases h
    rfl
  · cases h

theorem addDays?_eq_some_iff {d d' : Date} {n : Int} :
    d.addDays? n = some d' ↔ d'.day = d.day + n := by
  refine ⟨day_of_addDays?, fun hday => ?_⟩
  unfold addDays?
  rw [← hday, ofDay?_day]

end Date

end Agenda
