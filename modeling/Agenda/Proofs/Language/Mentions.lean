import Agenda.Proofs.Language.PhraseWords
import Mathlib.Tactic.FinCases

/-!
# Dates and times as they are written

`WritesDate` and `WritesTime` list the forms in which a date and a time of day can be written, and
`Written` puts them together: parts of a phrase with blanks or commas between them, among them
filler words that say nothing. The names of days and of times of day are given by what they mean.
Where the calendar has years of four figures around today, what is put in for a name is what it
means (`DayName.Means.eq_dateOf`).
-/

namespace Agenda

open Text Phrase

/-! ### Dates -/

/-- What the name of a day means. -/
inductive DayName where
  | yesterday | today | tomorrow | afterTomorrow
  | next (weekday : Weekday)
  deriving DecidableEq

/-- The name of a day means a date. For a day of the week it is the one of the next seven days, so
never today. -/
def DayName.Means (today d : Date) : DayName → Prop
  | .yesterday => d.day = today.day - 1
  | .today => d.day = today.day
  | .tomorrow => d.day = today.day + 1
  | .afterTomorrow => d.day = today.day + 2
  | .next weekday => d.weekday = weekday ∧ today.day < d.day ∧ d.day ≤ today.day + 7

/-- The names of days that are single words. -/
def dayNames : List (String × DayName) := [
    ("yesterday", .yesterday), ("today", .today), ("2day", .today), ("tomorrow", .tomorrow),
    ("tmr", .tomorrow), ("tml", .tomorrow), ("monday", .next .monday), ("mon", .next .monday),
    ("tuesday", .next .tuesday), ("tues", .next .tuesday), ("tue", .next .tuesday),
    ("wednesday", .next .wednesday), ("wed", .next .wednesday), ("thursday", .next .thursday),
    ("thurs", .next .thursday), ("thur", .next .thursday), ("thu", .next .thursday),
    ("friday", .next .friday), ("fri", .next .friday), ("saturday", .next .saturday),
    ("sat", .next .saturday), ("sunday", .next .sunday), ("sun", .next .sunday)]

/-- The forms in which a date is written: with a year of four figures, with the last two figures of
a year of this millennium's first century, without the year when it is the present one, and by
name. -/
inductive WritesDate (today d : Date) : List Char → Prop
  | full {day month : List Char} (hday : WritesShort d.civil.day day)
    (hmonth : WritesShort d.civil.month month) (hnonneg : 0 ≤ d.civil.year)
    (hle : d.civil.year ≤ 9999) :
    WritesDate today d (day ++ '/' :: (month ++ '/' :: (padded 4 d.civil.year.toNat).toList))
  | short {day month : List Char} {year : ℕ} (hday : WritesShort d.civil.day day)
    (hmonth : WritesShort d.civil.month month) (hyear : d.civil.year = 2000 + year)
    (hlt : year < 100) :
    WritesDate today d (day ++ '/' :: (month ++ '/' :: (padded 2 year).toList))
  | thisYear {day month : List Char} (hday : WritesShort d.civil.day day)
    (hmonth : WritesShort d.civil.month month) (hyear : d.civil.year = today.civil.year) :
    WritesDate today d (day ++ '/' :: month)
  | named {entry : String × DayName} {text : List Char} (hentry : entry ∈ dayNames)
    (hdate : entry.2.Means today d) (htext : IsSpelled entry.1 text) : WritesDate today d text
  | dayAfterTomorrow {text : List Char} (hdate : DayName.afterTomorrow.Means today d)
    (htext : IsSpelled "day after tomorrow" text) : WritesDate today d text

/-! ### Times of day -/

/-- The word for a half of the day. -/
def Period.Meridiem.word : Period.Meridiem → String
  | am => "am"
  | pm => "pm"

/-- The names of times of day, with their hour and minute. -/
def timeNames : List (String × ℕ × ℕ) := [
    ("dawn", 6, 0), ("morning", 10, 0), ("noon", 12, 0), ("afternoon", 18, 0), ("evening", 20, 0),
    ("night", 22, 0), ("midnight", 23, 59)]

/-- The forms in which a time of day is written: on a clock of 24 hours, with a half of the day on a
clock of twelve hours, and by name. -/
inductive WritesTime (t : TimeOfDay) : List Char → Prop
  | clock {hour minute : ℕ} {w : List Char} (hhour : WritesShort hour w)
    (ht : TimeOfDay.ofClock? hour minute 0 = some t) : WritesTime t (clockText w (some minute))
  | half {hour : ℕ} {minute : Option ℕ} {half : Period.Meridiem} {w gap text : List Char}
    (hhour : WritesShort hour w) (hbounds : 1 ≤ hour ∧ hour ≤ 12)
    (hgap : ∀ c ∈ gap, IsSeparator c) (htext : IsSpelled half.word text)
    (ht : TimeOfDay.ofClock? (hour % 12 + (if half = .pm then 12 else 0)) (minute.getD 0) 0
      = some t) : WritesTime t (clockText w minute ++ (gap ++ text))
  | named {entry : String × ℕ × ℕ} {text : List Char} (hentry : entry ∈ timeNames)
    (ht : TimeOfDay.ofClock? entry.2.1 entry.2.2 0 = some t) (htext : IsSpelled entry.1 text) :
    WritesTime t text

/-! ### Phrases -/

/-- A date or a time of day in a phrase. -/
inductive Mention where
  | date (d : Date)
  | time (t : TimeOfDay)
  deriving DecidableEq

/-- A text that mentions dates and times one after the other, and says nothing else. -/
inductive Written (today : Date) : List Mention → List Char → Prop
  | nil : Written today [] []
  | filler {name : String} {text : List Char} (hname : name ∈ fillers)
    (htext : IsSpelled name text) : Written today [] text
  | date {d : Date} {text : List Char} (h : WritesDate today d text) :
    Written today [.date d] text
  | time {t : TimeOfDay} {text : List Char} (h : WritesTime t text) : Written today [.time t] text
  | join {ms ms' : List Mention} {first second : List Char} {c : Char}
    (h : Written today ms first) (hc : IsSeparator c) (h' : Written today ms' second) :
    Written today (ms ++ ms') (first ++ c :: second)

/-! ### What is put in for names -/

/-- The calendar has the day before a day and the seven days after, in years of four figures. -/
structure Date.HasFiguresAround (today : Date) : Prop where
  before : ∃ d, today.addDays? (-1) = some d ∧ 0 ≤ d.civil.year
  after : ∃ d, today.addDays? 7 = some d ∧ d.civil.year ≤ 9999

variable {today d : Date} {days : NamedDays} {text : List Char}

/-- **What the name of a day means has a year of four figures.** -/
theorem Date.HasFiguresAround.year_bounds (h : today.HasFiguresAround) {name : DayName}
    (hd : name.Means today d) : 0 ≤ d.civil.year ∧ d.civil.year ≤ 9999 := by
  -- no name reaches further than from yesterday to a week from today
  have hnear : today.day - 1 ≤ d.day ∧ d.day ≤ today.day + 7 := by
    cases name <;> simp only [DayName.Means] at hd <;> omega
  obtain ⟨first, hfirst, hnonneg⟩ := h.before
  obtain ⟨last, hlast, hle⟩ := h.after
  have hfirstDay := day_of_addDays? hfirst
  have hlastDay := day_of_addDays? hlast
  have hlowYear := civil_year_mono (show first.day ≤ d.day by omega)
  have hhighYear := civil_year_mono (show d.day ≤ last.day by omega)
  omega

/-- The date that is put in for the name of a day. -/
def Phrase.NamedDays.dateOf (days : NamedDays) : DayName → Date
  | .yesterday => days.yesterday
  | .today => days.today
  | .tomorrow => days.tomorrow
  | .afterTomorrow => days.afterTomorrow
  | .next weekday => days.next weekday

theorem next?_of_nextDates? {next : Weekday → Date} (h : nextDates? today = some next)
    (weekday : Weekday) : today.next? weekday = some (next weekday) := by
  obtain ⟨_, hsunday, h⟩ := Option.bind_eq_some_iff.mp h
  obtain ⟨_, hmonday, h⟩ := Option.bind_eq_some_iff.mp h
  obtain ⟨_, htuesday, h⟩ := Option.bind_eq_some_iff.mp h
  obtain ⟨_, hwednesday, h⟩ := Option.bind_eq_some_iff.mp h
  obtain ⟨_, hthursday, h⟩ := Option.bind_eq_some_iff.mp h
  obtain ⟨_, hfriday, h⟩ := Option.bind_eq_some_iff.mp h
  obtain ⟨_, hsaturday, h⟩ := Option.bind_eq_some_iff.mp h
  cases h
  cases weekday with
  | sunday => exact hsunday
  | monday => exact hmonday
  | tuesday => exact htuesday
  | wednesday => exact hwednesday
  | thursday => exact hthursday
  | friday => exact hfriday
  | saturday => exact hsaturday

/-- **The date put in for the name of a day is the one that it means.** -/
theorem DayName.Means.eq_dateOf (hdays : NamedDays.of? today = some days) {name : DayName}
    (hd : name.Means today d) : d = days.dateOf name := by
  simp only [NamedDays.of?, Option.bind_eq_bind, Option.bind_eq_some_iff, pure,
    Option.some.injEq] at hdays
  obtain ⟨_, hyesterday, _, htomorrow, _, hafter, _, hnext, rfl⟩ := hdays
  cases name with
  | yesterday => exact Date.eq_of_day_eq (hd.trans (Date.day_of_addDays? hyesterday).symm)
  | today => exact Date.eq_of_day_eq hd
  | tomorrow => exact Date.eq_of_day_eq (hd.trans (Date.day_of_addDays? htomorrow).symm)
  | afterTomorrow => exact Date.eq_of_day_eq (hd.trans (Date.day_of_addDays? hafter).symm)
  | next weekday =>
    -- there is only one such weekday in the next seven days
    obtain ⟨rfl, hlow, hhigh⟩ := hd
    have hsame := Date.next?_eq_some_iff.mpr ⟨rfl, hlow, hhigh⟩
    rw [next?_of_nextDates? hnext] at hsame
    exact (Option.some.inj hsame).symm

/-- **A name becomes the figures of its date.** -/
theorem figures_dayName (days : NamedDays) : ∀ entry ∈ dayNames, entry.1 ∈ knownWords ∧
    figures days entry.1.toList = (days.dateOf entry.2).slashed.toList := by
  intro entry hentry
  fin_cases hentry <;> exact ⟨by decide, rfl⟩

/-- **A name becomes the figures of its time of day.** -/
theorem figures_timeName (days : NamedDays) : ∀ entry ∈ timeNames, entry.1 ∈ knownWords ∧
    figures days entry.1.toList = clockText (padded 2 entry.2.1).toList (some entry.2.2) := by
  intro entry hentry
  fin_cases hentry <;> exact ⟨by decide, rfl⟩

end Agenda
