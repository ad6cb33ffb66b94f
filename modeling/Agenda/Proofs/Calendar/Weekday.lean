import Agenda.Proofs.Calendar.Date
import Mathlib.Order.Bounds.Basic
import Mathlib.Tactic.IntervalCases

/-!
# Days of the week

A date has its day of the week from the number of its day (`Date.index_weekday`), and the same day
comes out of its year, month and day (`Date.weekday_civil`), in leap years, at the ends of years and
before the year 1. So the next date of a day of the week, which is found by a difference of two
weekdays, is the first one after today that falls on it (`Date.next?_is_next_such_day`).
-/

namespace Agenda

namespace Weekday

theorem index_le (weekday : Weekday) : weekday.index ≤ 6 := by
  cases weekday <;> decide

theorem index_ofIndex {n : ℕ} (h : n < 7) : (ofIndex n).index = n := by
  interval_cases n <;> rfl

theorem index_inj {a b : Weekday} (h : a.index = b.index) : a = b := by
  have hback : ∀ weekday : Weekday, ofIndex weekday.index = weekday := by
    intro weekday
    cases weekday <;> rfl
  rw [← hback a, h, hback]

end Weekday

/-! ### The day of the week of a civil date -/

/-- How far the first of a month is on in the week, in a year that begins in March and whose first
day counts two. -/
def monthShift : ℕ → ℤ
  | 1 => 0
  | 2 => 3
  | 3 => 2
  | 4 => 5
  | 5 => 0
  | 6 => 3
  | 7 => 5
  | 8 => 1
  | 9 => 4
  | 10 => 6
  | 11 => 2
  | _ => 4

/-- The day of the week of a civil date. A year that begins in March has its leap day at its end,
so January and February belong to the year before; each year moves the days of the week on by one,
and each leap day by one more. -/
def Civil.weekday (c : Civil) : Weekday :=
  let year := if c.month ≤ 2 then c.year - 1 else c.year
  let moved := year + year / 4 - year / 100 + year / 400
  Weekday.ofIndex ((moved + monthShift c.month + c.day) % 7).toNat

/-- The days before a month are its shift and full weeks, and from March on the days by which a year
moves the week on. -/
theorem daysBeforeMonth_mod_seven (leap : Bool) {month : ℕ} (hlow : 1 ≤ month)
    (hhigh : month ≤ 12) :
    (daysBeforeMonth leap month : ℤ) % 7
      = (monthShift month + if month ≤ 2 then 0 else if leap then 2 else 1) % 7 := by
  interval_cases month <;> cases leap <;> decide

/-- **The year, month and day of a date tell the same weekday as its number.** -/
theorem Civil.dayNumber_mod_seven {c : Civil} (h : c.isValid = true) :
    (c.dayNumber + 4) % 7 = c.weekday.index := by
  obtain ⟨hlow, hhigh, -, -⟩ := c.bounds_of_isValid h
  have hmonth := daysBeforeMonth_mod_seven (isLeap c.year) hlow hhigh
  have hyear := daysBeforeYear_succ c.year
  unfold weekday dayNumber epochDay
  dsimp only
  rw [Weekday.index_ofIndex (by omega), Int.toNat_of_nonneg (by omega)]
  unfold daysBeforeYear at *
  rw [Int.add_sub_cancel] at hyear
  -- month before March or not, year leap or not: all is linear modulo seven then
  split_ifs at * <;> omega

namespace Date

variable {today d : Date} {weekday : Weekday}

theorem index_weekday (d : Date) : (d.weekday.index : ℤ) = (d.day + 4) % 7 := by
  unfold weekday
  rw [Weekday.index_ofIndex (by omega)]
  omega

theorem weekday_eq_iff : d.weekday = weekday ↔ (d.day + 4) % 7 = weekday.index := by
  rw [← index_weekday]
  constructor
  · rintro rfl
    rfl
  · intro h
    apply Weekday.index_inj
    exact_mod_cast h

/-- **The day of the week of a date is that of its civil form.** -/
theorem weekday_civil (d : Date) : d.civil.weekday = d.weekday := by
  obtain ⟨hvalid, hday⟩ := Civil.ofDayNumber_spec d.day
  apply Weekday.index_inj
  have hcivil := Civil.dayNumber_mod_seven hvalid
  rw [hday, ← index_weekday] at hcivil
  exact_mod_cast hcivil.symm

/-! ### The next date of a day of the week -/

/-- The next date of a day of the week is at least one day ahead and at most seven. -/
theorem exists_next? (today : Date) (weekday : Weekday) :
    ∃ n : ℤ, 1 ≤ n ∧ n ≤ 7 ∧ (today.day + n + 4) % 7 = weekday.index ∧
      today.next? weekday = today.addDays? n := by
  have hweekday := weekday.index_le
  have htoday := today.index_weekday
  refine ⟨_, ?_, ?_, ?_, rfl⟩
  · split <;> omega
  · split <;> omega
  · split <;> omega

theorem isSome_next? (h : (today.addDays? 7).isSome) (weekday : Weekday) :
    (today.next? weekday).isSome := by
  obtain ⟨n, hlow, hhigh, -, hnext⟩ := today.exists_next? weekday
  have hfirst := today.first_le
  obtain ⟨-, hlast⟩ := isSome_addDays?_iff.mp h
  rw [hnext, isSome_addDays?_iff]
  omega

/-- **The next date of a day of the week is the one among the next seven days.** -/
theorem next?_eq_some_iff : today.next? weekday = some d ↔
    d.weekday = weekday ∧ today.day < d.day ∧ d.day ≤ today.day + 7 := by
  obtain ⟨n, hlow, hhigh, hweekday, hnext⟩ := today.exists_next? weekday
  rw [hnext, addDays?_eq_some_iff, weekday_eq_iff]
  omega

/-- The dates after a date that fall on a day of the week. -/
def laterOn (today : Date) (weekday : Weekday) : Set Date :=
  {d | today < d ∧ d.civil.weekday = weekday}

theorem mem_laterOn : d ∈ today.laterOn weekday ↔ today.day < d.day ∧ d.weekday = weekday := by
  unfold laterOn
  rw [Set.mem_ofPred_eq, weekday_civil]
  rfl

/-- **No date between today and the next date of a day of the week falls on it.** -/
theorem next?_eq_some_iff_isLeast :
    today.next? weekday = some d ↔ IsLeast (today.laterOn weekday) d := by
  rw [next?_eq_some_iff]
  constructor
  · rintro ⟨hweekday, hafter, hnear⟩
    refine ⟨mem_laterOn.mpr ⟨hafter, hweekday⟩, fun other hother => ?_⟩
    obtain ⟨hlater, hsame⟩ := mem_laterOn.mp hother
    rw [weekday_eq_iff] at hweekday hsame
    show d.day ≤ other.day
    omega
  · rintro ⟨hd, hleast⟩
    obtain ⟨hafter, hweekday⟩ := mem_laterOn.mp hd
    refine ⟨hweekday, hafter, ?_⟩
    -- a week before a date that is further ahead there is another one after today
    by_contra hfar
    have hfirst := today.first_le
    have hlast := d.le_last
    let earlier : Date := ⟨d.day - 7, by omega, by omega⟩
    have hearlier : earlier ∈ today.laterOn weekday := by
      refine mem_laterOn.mpr ⟨show today.day < d.day - 7 by omega, ?_⟩
      rw [weekday_eq_iff] at hweekday ⊢
      show (d.day - 7 + 4) % 7 = _
      omega
    have hle : d.day ≤ d.day - 7 := hleast hearlier
    omega

/-- There is a next date of a day of the week unless the calendar ends before it. -/
theorem isSome_next?_iff : (today.next? weekday).isSome ↔ (today.laterOn weekday).Nonempty := by
  constructor
  · intro h
    obtain ⟨d, hd⟩ := Option.isSome_iff_exists.mp h
    exact ⟨d, (next?_eq_some_iff_isLeast.mp hd).1⟩
  · rintro ⟨d, hd⟩
    obtain ⟨hafter, hweekday⟩ := mem_laterOn.mp hd
    obtain ⟨n, hlow, hhigh, hsame, hnext⟩ := today.exists_next? weekday
    have hfirst := today.first_le
    have hlast := d.le_last
    rw [hnext, isSome_addDays?_iff]
    rw [weekday_eq_iff] at hweekday
    omega

/-- **The next date of a day of the week is the next such day.** For every date and day of the week:
the answer is the one date among the seven after today whose year, month and day fall on the day of
the week; it is the earliest of all dates after today that do; and there is an answer whenever the
calendar has such a date after today. -/
theorem next?_is_next_such_day (today : Date) (weekday : Weekday) :
    (∀ d, today.next? weekday = some d ↔
      (∃ n : ℤ, 1 ≤ n ∧ n ≤ 7 ∧ today.addDays? n = some d) ∧ d.civil.weekday = weekday) ∧
    (∀ d, today.next? weekday = some d ↔ IsLeast (today.laterOn weekday) d) ∧
    ((today.next? weekday).isSome ↔ (today.laterOn weekday).Nonempty) := by
  refine ⟨fun d => ?_, fun d => next?_eq_some_iff_isLeast, isSome_next?_iff⟩
  rw [next?_eq_some_iff, weekday_civil, and_comm]
  refine and_congr_left' ⟨?_, ?_⟩
  · rintro ⟨hafter, hnear⟩
    exact ⟨d.day - today.day, by omega, by omega, addDays?_eq_some_iff.mpr (by omega)⟩
  · rintro ⟨n, hlow, hhigh, hadd⟩
    have hday := day_of_addDays? hadd
    omega

/-- On a Wednesday the next Wednesday is a week ahead, here beyond a leap day. -/
example : ((ofCivil? ⟨-4, 2, 28⟩).bind fun today => (today.next? .wednesday).map civil)
    = some ⟨-4, 3, 6⟩ := by
  decide +kernel

end Date

end Agenda
