import Agenda.Language.Period
import Agenda.Proofs.Language.Phrase
import Agenda.Proofs.Text.Decimal
import Agenda.Proofs.Text.Words

/-!
# Dates and times in figures

A number is read back from its figures (`WritesShort.shortNumber?`), a date from day, month and year
with slashes between them or from day and month alone (`Period.date?_of_year`,
`Period.date?_of_thisYear`), and a time of day from hour and minute with a colon between them
(`Period.figures?_clockText`). Printed dates and times are cases of these forms, so an endpoint that
is given by both is read as the date-time that they make up (`Period.Endpoint.ofText_slashed`). A
text without a dash is read as a deadline, and two such texts with a dash between them are the ends
of a period (`Period.ofFigures_of_single`, `Period.ofFigures_of_pair`).
-/

namespace Agenda

open Text

/-! ### Times that figures can name -/

/-- A time that figures name: on a full minute, in a year of four digits. -/
structure DateTime.HasFigures (t : DateTime) : Prop where
  year_nonneg : 0 ≤ t.date.civil.year
  year_le : t.date.civil.year ≤ 9999
  minute : t.time.nanos % (60 * nanosPerSecond) = 0

instance (t : DateTime) : Decidable t.HasFigures :=
  decidable_of_iff (0 ≤ t.date.civil.year ∧ t.date.civil.year ≤ 9999 ∧
      t.time.nanos % (60 * nanosPerSecond) = 0)
    ⟨fun h => ⟨h.1, h.2.1, h.2.2⟩, fun h => ⟨h.year_nonneg, h.year_le, h.minute⟩⟩

theorem TimeOfDay.hour_lt (t : TimeOfDay) : t.hour < 24 := by
  have hlt := t.nanos_lt
  unfold nanosPerDay nanosPerSecond at hlt
  unfold hour seconds nanosPerSecond
  omega

theorem TimeOfDay.minute_lt (t : TimeOfDay) : t.minute < 60 :=
  Nat.mod_lt _ (by decide)

/-- A clock shows a time of day on a full minute. -/
theorem TimeOfDay.ofClock?_of_minute {t : TimeOfDay} (h : t.nanos % (60 * nanosPerSecond) = 0) :
    ofClock? t.hour t.minute 0 = some t := by
  have hback : (t.hour * 3600 + t.minute * 60 + 0) * nanosPerSecond = t.nanos := by
    have hlt := t.nanos_lt
    unfold nanosPerDay nanosPerSecond at hlt
    unfold nanosPerSecond at h
    unfold hour minute seconds nanosPerSecond
    omega
  unfold ofClock?
  rw [if_pos ⟨t.hour_lt, t.minute_lt, by decide⟩, hback]
  exact dif_pos t.nanos_lt

/-! ### Figures -/

/-- A digit, a slash or a colon. -/
def IsFigure (c : Char) : Prop :=
  47 ≤ c.toNat ∧ c.toNat ≤ 58

instance (c : Char) : Decidable (IsFigure c) :=
  inferInstanceAs (Decidable (47 ≤ c.toNat ∧ c.toNat ≤ 58))

theorem isFigure_of_isDigit {c : Char} (h : c.isDigit = true) : IsFigure c := by
  rw [Char.isDigit, Bool.and_eq_true, decide_eq_true_eq, decide_eq_true_eq] at h
  have hle : 48 ≤ c.toNat := h.1
  have hge : c.toNat ≤ 57 := h.2
  exact ⟨by omega, by omega⟩

theorem IsFigure.not_blank {c : Char} (h : IsFigure c) : isBlank c = false := by
  have hall : ∀ n < 59, 47 ≤ n → blankRanges.contains n = false := by decide
  exact hall c.toNat (by have := h.2; omega) h.1

theorem IsFigure.ne {c other : Char} (h : IsFigure c) (hother : ¬IsFigure other) : c ≠ other := by
  rintro rfl
  exact hother h

/-- A word of figures. -/
structure IsFigures (w : List Char) : Prop where
  ne_nil : w ≠ []
  isFigure : ∀ c ∈ w, IsFigure c

theorem IsFigures.isWord {w : List Char} (h : IsFigures w) : IsWord w :=
  ⟨h.ne_nil, fun c hc => (h.isFigure c hc).not_blank⟩

theorem IsFigures.dash_notMem {w : List Char} (h : IsFigures w) : '-' ∉ w :=
  fun hdash => (h.isFigure _ hdash).ne (by decide) rfl

/-- A word of figures that ends in a digit. -/
structure IsNumeral (w : List Char) : Prop extends IsFigures w where
  isDigit_last : ∀ c ∈ w.getLast?, c.isDigit = true

theorem IsNumeral.of_isDigit {w : List Char} (hne : w ≠ []) (h : ∀ c ∈ w, c.isDigit = true) :
    IsNumeral w :=
  ⟨⟨hne, fun c hc => isFigure_of_isDigit (h c hc)⟩, fun c hc => h c (List.mem_of_getLast? hc)⟩

theorem IsNumeral.append {w w' : List Char} {sign : Char} (h : IsNumeral w) (hsign : IsFigure sign)
    (h' : IsNumeral w') : IsNumeral (w ++ sign :: w') := by
  refine ⟨⟨List.append_ne_nil_of_left_ne_nil h.ne_nil _, ?_⟩, fun c hc => h'.isDigit_last c ?_⟩
  · exact List.forall_mem_append.mpr ⟨h.isFigure, List.forall_mem_cons.mpr ⟨hsign, h'.isFigure⟩⟩
  · -- the last character is that of the second number, which is not empty
    obtain ⟨d, ds, rfl⟩ := List.exists_cons_of_ne_nil h'.ne_nil
    rwa [List.getLast?_append_cons, List.getLast?_cons_cons] at hc

theorem isNumeral_padded {width n : ℕ} : IsNumeral (padded width n).toList :=
  .of_isDigit padded_ne_nil fun _ => isDigit_of_mem_padded

/-! ### Numbers -/

/-- No sign stands in a number. -/
theorem Text.fields_of_isDigit {w : List Char} {sign : Char} (hw : ∀ c ∈ w, c.isDigit = true)
    (hsign : sign.isDigit = false) : fields (· == sign) w = [w] := by
  refine fields_beq_of_notMem fun hmem => ?_
  rw [hw sign hmem] at hsign
  cases hsign

theorem Text.fields_padded {width n : ℕ} {sign : Char} (hsign : sign.isDigit = false) :
    fields (· == sign) (padded width n).toList = [(padded width n).toList] :=
  fields_of_isDigit (fun _ => isDigit_of_mem_padded) hsign

/-- A number in one or two figures. -/
def WritesShort (n : ℕ) (w : List Char) : Prop :=
  n < 100 ∧ (w = (toString n).toList ∨ w = (padded 2 n).toList)

instance (n : ℕ) (w : List Char) : Decidable (WritesShort n w) :=
  inferInstanceAs (Decidable (_ ∧ _))

theorem writesShort_padded {n : ℕ} (h : n < 100) : WritesShort n (padded 2 n).toList :=
  ⟨h, Or.inr rfl⟩

namespace WritesShort

variable {n : ℕ} {w : List Char}

theorem isDigit (h : WritesShort n w) : ∀ c ∈ w, c.isDigit = true := by
  intro c hc
  rcases h.2 with hw | hw
  · exact isDigit_of_mem_toString (hw ▸ hc)
  · exact isDigit_of_mem_padded (hw ▸ hc)

theorem isNumeral (h : WritesShort n w) : IsNumeral w := by
  refine .of_isDigit ?_ h.isDigit
  rcases h.2 with hw | hw
  · rw [hw]
    exact toString_ne_nil n
  · rw [hw]
    exact padded_ne_nil

/-- **A number in one or two figures is read back.** -/
theorem shortNumber? (h : WritesShort n w) : Period.shortNumber? w = some n := by
  have hlength : w.length ≤ 2 ∧ readDigits? w = some n := by
    -- a numeral below 100 has no more than two digits, as a padded one has
    rcases h.2 with hw | hw
    · rw [hw, readDigits?_toString, toList_toString]
      exact ⟨(Nat.length_toDigits_le_iff (by decide) (by decide)).mpr h.1, rfl⟩
    · rw [hw, readDigits?_padded, length_padded (by decide) h.1]
      exact ⟨Nat.le_refl 2, rfl⟩
  unfold Period.shortNumber?
  rw [if_pos hlength.1, hlength.2]

end WritesShort

theorem Period.year?_padded_four {n : ℕ} (h : n < 10000) :
    year? (padded 4 n).toList = some (n : Int) := by
  unfold year?
  rw [readDigits?_padded, length_padded (by decide) h]
  rfl

/-- Two figures write a year of this millennium's first century. -/
theorem Period.year?_padded_two {n : ℕ} (h : n < 100) :
    year? (padded 2 n).toList = some (2000 + n : Int) := by
  unfold year?
  rw [readDigits?_padded, length_padded (by decide) h]
  rfl

/-! ### Dates -/

namespace Period

section

variable {today d : Date} {day month : List Char}

/-- **Day, month and year are read as the date that they make up.** -/
theorem date?_of_year {year : List Char} (hday : WritesShort d.civil.day day)
    (hmonth : WritesShort d.civil.month month) (hfields : fields (· == '/') year = [year])
    (hyear : year? year = some d.civil.year) :
    date? today (day ++ '/' :: (month ++ '/' :: year)) = some d := by
  have hparts : fields (· == '/') (day ++ '/' :: (month ++ '/' :: year)) = [day, month, year] := by
    rw [fields_beq_append_cons, fields_beq_append_cons, fields_of_isDigit hday.isDigit (by decide),
      fields_of_isDigit hmonth.isDigit (by decide), hfields]
    rfl
  unfold date?
  simp only [hparts]
  rw [hday.shortNumber?, hmonth.shortNumber?, hyear]
  exact Date.ofCivil?_civil d

/-- **Day and month are read as a date of this year.** -/
theorem date?_of_thisYear (hday : WritesShort d.civil.day day)
    (hmonth : WritesShort d.civil.month month) (hyear : d.civil.year = today.civil.year) :
    date? today (day ++ '/' :: month) = some d := by
  have hparts : fields (· == '/') (day ++ '/' :: month) = [day, month] := by
    rw [fields_beq_append_cons, fields_of_isDigit hday.isDigit (by decide),
      fields_of_isDigit hmonth.isDigit (by decide)]
    rfl
  unfold date?
  simp only [hparts]
  rw [hday.shortNumber?, hmonth.shortNumber?, ← hyear]
  exact Date.ofCivil?_civil d

/-- A word without a slash is no date. -/
theorem date?_of_notMem {word : List Char} (today : Date) (h : '/' ∉ word) :
    date? today word = none := by
  unfold date?
  simp only [fields_beq_of_notMem h]

end

end Period

theorem Date.toList_slashed {d : Date} (hnonneg : 0 ≤ d.civil.year) (hle : d.civil.year ≤ 9999) :
    d.slashed.toList = (padded 2 d.civil.day).toList ++ '/' ::
      ((padded 2 d.civil.month).toList ++ '/' :: (padded 4 d.civil.year.toNat).toList) := by
  unfold slashed yearText
  dsimp only
  rw [if_pos ⟨hnonneg, hle⟩]
  simp only [String.toList_append]
  show (_ ++ ['/'] ++ _ ++ ['/']) ++ _ = _
  simp only [List.append_assoc, List.cons_append, List.nil_append]

theorem Date.writesShort_civil (d : Date) :
    WritesShort d.civil.day (padded 2 d.civil.day).toList ∧
      WritesShort d.civil.month (padded 2 d.civil.month).toList := by
  obtain ⟨-, hmonth, -, hday⟩ := Civil.bounds_of_isValid d.isValid_civil
  exact ⟨writesShort_padded (by omega), writesShort_padded (by omega)⟩

theorem Date.isFigures_slashed {d : Date} (hnonneg : 0 ≤ d.civil.year)
    (hle : d.civil.year ≤ 9999) : IsFigures d.slashed.toList := by
  rw [toList_slashed hnonneg hle]
  exact (isNumeral_padded.append (by decide)
    (isNumeral_padded.append (by decide) isNumeral_padded)).toIsFigures

/-- **A date is read back from its figures.** -/
theorem Period.date?_slashed {d : Date} (today : Date) (hnonneg : 0 ≤ d.civil.year)
    (hle : d.civil.year ≤ 9999) : date? today d.slashed.toList = some d := by
  rw [Date.toList_slashed hnonneg hle]
  refine date?_of_year d.writesShort_civil.1 d.writesShort_civil.2 (fields_padded (by decide)) ?_
  rw [year?_padded_four (by omega), Int.toNat_of_nonneg hnonneg]

/-! ### Times of day -/

/-- An hour in figures, with a minute in two figures behind it or without one. -/
def clockText (hour : List Char) (minute : Option ℕ) : List Char :=
  hour ++ minute.elim [] fun minute => ':' :: (padded 2 minute).toList

section

variable {w : List Char} {hour : ℕ} {minute : Option ℕ}

theorem isNumeral_clockText (hhour : WritesShort hour w) : IsNumeral (clockText w minute) := by
  cases minute with
  | none =>
    rw [clockText, Option.elim_none, List.append_nil]
    exact hhour.isNumeral
  | some minute => exact hhour.isNumeral.append (by decide) isNumeral_padded

/-- There are only digits and a colon in a clock time. -/
theorem notMem_clockText {c : Char} (hhour : WritesShort hour w) (hdigit : c.isDigit = false)
    (hcolon : c ≠ ':') : c ∉ clockText w minute := by
  have hnone : ∀ w : List Char, (∀ c ∈ w, c.isDigit = true) → c ∉ w := by
    intro w hw hc
    rw [hw c hc] at hdigit
    cases hdigit
  unfold clockText
  rw [List.mem_append, not_or]
  refine ⟨hnone w hhour.isDigit, ?_⟩
  cases minute with
  | none => exact List.not_mem_nil
  | some minute =>
    rw [Option.elim_some, List.mem_cons, not_or]
    exact ⟨hcolon, hnone _ fun _ => isDigit_of_mem_padded⟩

theorem fields_clockText (hhour : WritesShort hour w) : fields (· == ':') (clockText w minute)
    = w :: (minute.map fun minute => (padded 2 minute).toList).toList := by
  cases minute with
  | none =>
    rw [clockText, Option.elim_none, List.append_nil]
    exact fields_of_isDigit hhour.isDigit (by decide)
  | some minute =>
    rw [clockText, Option.elim_some, fields_beq_append_cons,
      fields_of_isDigit hhour.isDigit (by decide), fields_padded (by decide)]
    rfl

end

namespace Period

theorem splitMeridiem_of_not_mem {word : List Char} (h : 'm' ∉ word) :
    splitMeridiem word = (word, none) := by
  have hhalf : Meridiem.ofWord? (word.drop (word.length - 2)) = none := by
    -- both halves of the day are written with an `m`
    have hne : ∀ name : String, 'm' ∈ name.toList →
        word.drop (word.length - 2) ≠ name.toList := by
      intro name hname heq
      rw [← heq] at hname
      exact h (List.mem_of_mem_drop hname)
    unfold Meridiem.ofWord?
    rw [if_neg (hne "am" (by decide)), if_neg (hne "pm" (by decide))]
  unfold splitMeridiem
  rw [hhalf]

section

variable {w word : List Char} {hour : ℕ} {minute : Option ℕ} {half : Option Meridiem}

/-- **Hour and minute are read back**, whatever half of the day stands behind them. -/
theorem figures?_of_split (hhour : WritesShort hour w) (hminute : minute.getD 0 < 60)
    (hsplit : splitMeridiem word = (clockText w minute, half)) :
    figures? word = some ⟨hour, minute, half⟩ := by
  unfold figures?
  simp only [hsplit, fields_clockText hhour]
  cases minute with
  | none =>
    simp only [Option.map_none, Option.toList_none, hhour.shortNumber?]
    rfl
  | some minute =>
    have hlt : minute < 100 := by
      rw [Option.getD_some] at hminute
      omega
    simp only [Option.map_some, Option.toList_some, length_padded (by decide : 0 < 2) hlt,
      hhour.shortNumber?, (writesShort_padded hlt).shortNumber?]
    rfl

theorem figures?_clockText (hhour : WritesShort hour w) (hminute : minute.getD 0 < 60) :
    figures? (clockText w minute) = some ⟨hour, minute, none⟩ :=
  figures?_of_split hhour hminute
    (splitMeridiem_of_not_mem (notMem_clockText hhour (by decide) (by decide)))

end

end Period

theorem TimeOfDay.toList_clock (t : TimeOfDay) :
    t.clock.toList = clockText (padded 2 t.hour).toList (some t.minute) := by
  unfold clock clockText
  rw [Option.elim_some]
  simp only [String.toList_append]
  show (_ ++ [':']) ++ _ = _
  simp only [List.append_assoc, List.cons_append, List.nil_append]

theorem TimeOfDay.writesShort_hour (t : TimeOfDay) : WritesShort t.hour (padded 2 t.hour).toList :=
  writesShort_padded (by have := t.hour_lt; omega)

theorem TimeOfDay.isFigures_clock (t : TimeOfDay) : IsFigures t.clock.toList := by
  rw [toList_clock]
  exact (isNumeral_clockText t.writesShort_hour).toIsFigures

namespace Period

/-- A clock time is no date. -/
theorem date?_clock (today : Date) (t : TimeOfDay) : date? today t.clock.toList = none := by
  rw [t.toList_clock]
  exact date?_of_notMem today (notMem_clockText t.writesShort_hour (by decide) (by decide))

/-- **A time of day is read from its figures with its hour and minute.** -/
theorem figures?_clock (t : TimeOfDay) :
    figures? t.clock.toList = some ⟨t.hour, some t.minute, none⟩ := by
  rw [t.toList_clock]
  exact figures?_clockText t.writesShort_hour t.minute_lt

/-! ### Date-times -/

variable {t : DateTime}

theorem Endpoint.addWords_slashed (today : Date) (h : t.HasFigures) :
    Endpoint.addWords today {} [t.date.slashed.toList, t.time.clock.toList]
      = .ok { date := some t.date, time := some t.time } := by
  have htime : Figures.time? ⟨t.time.hour, some t.time.minute, none⟩ = some t.time := by
    unfold Figures.time?
    dsimp only
    rw [if_pos Option.isSome_some, Option.getD_some]
    exact TimeOfDay.ofClock?_of_minute h.minute
  -- the first word is read as the date, and only then the second one as a time of day
  rw [addWords, date?_slashed today h.year_nonneg h.year_le]
  show addWords today { date := some t.date } [t.time.clock.toList] = _
  rw [addWords, date?_clock, figures?_clock]
  simp only [htime]
  rfl

/-- **The words of a date-time are read as an endpoint with its date and its time of day.** -/
theorem Endpoint.ofText_slashed {text : List Char} (today : Date) (h : t.HasFigures)
    (hwords : words text = [t.date.slashed.toList, t.time.clock.toList]) :
    Endpoint.ofText today text = .ok { date := some t.date, time := some t.time } := by
  unfold Endpoint.ofText
  rw [hwords]
  exact addWords_slashed today h

/-! ### Texts with one endpoint or two -/

section

variable {today : Date} {e : Endpoint} {text : List Char}

theorem words_ne_nil_of_ofText (h : Endpoint.ofText today text = .ok e) : words text ≠ [] := by
  intro hnil
  unfold Endpoint.ofText at h
  rw [hnil] at h
  cases h

/-- **A text without a dash is a deadline.** -/
theorem ofFigures_of_single (phrase : String) (hdash : '-' ∉ text)
    (h : Endpoint.ofText today text = .ok e) :
    ofFigures today phrase text = .ok ⟨none, e.asEnd today⟩ := by
  unfold ofFigures
  simp only [isEmpty_trim_of_words (words_ne_nil_of_ofText h), fields_beq_of_notMem hdash, h]
  rfl

/-- **Texts with a dash between them are the two ends of a period.** -/
theorem ofFigures_of_pair {e' : Endpoint} {text' : List Char} (phrase : String)
    (hdash : '-' ∉ text) (hdash' : '-' ∉ text') (h : Endpoint.ofText today text = .ok e)
    (h' : Endpoint.ofText today text' = .ok e') :
    ofFigures today phrase (text ++ '-' :: text') = between today e e' := by
  have hfields : fields (· == '-') (text ++ '-' :: text') = [text, text'] := by
    rw [fields_beq_append_cons, fields_beq_of_notMem hdash, fields_beq_of_notMem hdash']
    rfl
  -- the dash is not blank, so the text is not empty once it is trimmed
  have hwords : words (text ++ '-' :: text') ≠ [] := by
    intro hnil
    have hblank := List.all_eq_true.mp (pieces_eq_nil_iff.mp hnil) '-'
      (List.mem_append_right _ (List.mem_cons_self ..))
    revert hblank
    decide
  unfold ofFigures
  simp only [isEmpty_trim_of_words hwords, hfields, h, h',
    isEmpty_trim_of_words (words_ne_nil_of_ofText h),
    isEmpty_trim_of_words (words_ne_nil_of_ofText h')]
  rfl

end

/-! ### Written periods -/

/-- The words of a deadline. -/
def deadlineWords (ends : DateTime) : List (List Char) :=
  [ends.date.slashed.toList, ends.time.clock.toList]

/-- The words of a period. -/
def periodWords (starts ends : DateTime) : List (List Char) :=
  deadlineWords starts ++ ['-'] :: deadlineWords ends

variable {starts ends : DateTime}

theorem isFigures_of_mem_deadlineWords (h : ends.HasFigures) :
    ∀ w ∈ deadlineWords ends, IsFigures w := by
  unfold deadlineWords
  rw [List.forall_mem_cons, List.forall_mem_singleton]
  exact ⟨Date.isFigures_slashed h.year_nonneg h.year_le, TimeOfDay.isFigures_clock _⟩

theorem isWord_of_mem_deadlineWords (h : ends.HasFigures) : ∀ w ∈ deadlineWords ends, IsWord w :=
  fun w hw => (isFigures_of_mem_deadlineWords h w hw).isWord

/-- There is no dash in a deadline. -/
theorem dash_notMem_deadline (h : ends.HasFigures) : '-' ∉ unwords (deadlineWords ends) := by
  intro hdash
  rcases mem_unwords hdash with hspace | ⟨w, hw, hmem⟩
  · cases hspace
  · exact (isFigures_of_mem_deadlineWords h w hw).dash_notMem hmem

/-- **A deadline is read back from its words.** -/
theorem ofFigures_deadline (today : Date) (phrase : String) (h : ends.HasFigures) :
    ofFigures today phrase (unwords (deadlineWords ends)) = .ok ⟨none, ends⟩ :=
  ofFigures_of_single phrase (dash_notMem_deadline h)
    (Endpoint.ofText_slashed today h (words_unwords (isWord_of_mem_deadlineWords h)))

theorem unwords_periodWords (starts ends : DateTime) : unwords (periodWords starts ends) =
    (unwords (deadlineWords starts) ++ [' ']) ++ '-' :: (' ' :: unwords (deadlineWords ends)) := by
  unfold periodWords deadlineWords
  simp only [List.cons_append, List.nil_append, unwords_cons_cons, unwords_singleton,
    List.append_assoc]

/-- **A period is read back from its words.** -/
theorem ofFigures_period (today : Date) (phrase : String) (hstarts : starts.HasFigures)
    (hends : ends.HasFigures) (hle : starts ≤ ends) :
    ofFigures today phrase (unwords (periodWords starts ends)) = .ok ⟨some starts, ends⟩ := by
  have hfirst : words (unwords (deadlineWords starts) ++ [' ']) = deadlineWords starts := by
    rw [words_append_cons isBlank_space, words_unwords (isWord_of_mem_deadlineWords hstarts)]
    exact List.append_nil _
  have hsecond : words (' ' :: unwords (deadlineWords ends)) = deadlineWords ends := by
    rw [words_cons_of_isBlank isBlank_space, words_unwords (isWord_of_mem_deadlineWords hends)]
  have hdash : '-' ∉ unwords (deadlineWords starts) ++ [' '] := by
    rw [List.mem_append, not_or]
    exact ⟨dash_notMem_deadline hstarts, by decide⟩
  have hdash' : '-' ∉ ' ' :: unwords (deadlineWords ends) := by
    rw [List.mem_cons, not_or]
    exact ⟨by decide, dash_notMem_deadline hends⟩
  have hbetween : between today { date := some starts.date, time := some starts.time }
      { date := some ends.date, time := some ends.time } = .ok ⟨some starts, ends⟩ :=
    if_neg (Int.not_lt.mpr hle)
  rw [unwords_periodWords, ofFigures_of_pair phrase hdash hdash'
    (Endpoint.ofText_slashed today hstarts hfirst) (Endpoint.ofText_slashed today hends hsecond),
    hbetween]

/-- Words of figures, with dashes between them, have no letters and no commas. -/
theorem lt_of_mem_unwords {ws : List (List Char)} (h : ∀ w ∈ ws, IsFigures w ∨ w = ['-']) :
    ∀ c ∈ unwords ws, c.toNat < 65 ∧ c ≠ ',' := by
  intro c hc
  rcases mem_unwords hc with rfl | ⟨w, hw, hcw⟩
  · decide
  · rcases h w hw with hfigures | rfl
    · have hfigure := hfigures.isFigure c hcw
      exact ⟨by have := hfigure.2; omega, hfigure.ne (by decide)⟩
    · rw [List.mem_singleton.mp hcw]
      decide

/-- A phrase in figures is read as it stands, where the calendar has the days around today. -/
theorem ofSegments_of_figures {text : List Char} {now : DateTime} {p : Period}
    (hbefore : (now.date.addDays? (-1)).isSome) (hafter : (now.date.addDays? 7).isSome)
    (htext : ∀ c ∈ text, c.toNat < 65 ∧ c ≠ ',')
    (hfigures : ∀ phrase, ofFigures now.date phrase text = .ok p) :
    ofSegments [String.ofList text] now = .read (some p) := by
  obtain ⟨days, hdays⟩ := Phrase.NamedDays.exists_of? hbefore hafter
  have hphrase : Phrase.inFigures days (String.ofList text) = text := by
    rw [Phrase.inFigures_eq_self, String.toList_ofList]
    rw [String.toList_ofList]
    exact htext
  unfold ofSegments
  rw [List.isEmpty_cons, if_neg Bool.false_ne_true, hdays, String.intercalate_singleton]
  simp only [hphrase, hfigures]
  rfl

end Period

end Agenda
