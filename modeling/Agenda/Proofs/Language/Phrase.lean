import Agenda.Language.Phrase
import Agenda.Proofs.Calendar.Weekday
import Agenda.Proofs.Text.LowerCase

/-!
# Phrases in figures

A phrase that is written in figures already stays as it is (`Phrase.inFigures_eq_self`): every word
that stands for something else has a letter in it, and letters come after all digits and signs that
figures need. What the names of days stand for is known as long as the calendar has the days around
the present one (`Phrase.NamedDays.exists_of?`).
-/

namespace Agenda

namespace Phrase

variable {days : NamedDays} {run text : List Char}

/-! ### Words with a meaning -/

/-- The words that stand for something else in a phrase. -/
def knownWords : List String :=
  fillers ++ ["to", "yesterday", "today", "2day", "tomorrow", "tmr", "tml", "monday", "mon",
    "tuesday", "tues", "tue", "wednesday", "wed", "thursday", "thurs", "thur", "thu", "friday",
    "fri", "saturday", "sat", "sunday", "sun", "dawn", "morning", "noon", "afternoon", "evening",
    "night", "midnight"]

/-- A run that is no known word stands for itself. -/
theorem figures_of_notMem (h : String.ofList run ∉ knownWords) : figures days run = run := by
  have hne : ∀ name ∈ knownWords, String.ofList run ≠ name :=
    fun name hname heq => h (heq ▸ hname)
  have hnone : ∀ names ⊆ knownWords, String.ofList run ∉ names :=
    fun names hsub hmem => h (hsub hmem)
  -- every name that the tables know is one of the known words
  have hdate : days.date? (String.ofList run) = none := by
    unfold NamedDays.date?
    rw [if_neg (hne _ (by decide)), if_neg (hnone _ (by decide)), if_neg (hnone _ (by decide)),
      if_neg (hnone _ (by decide)), if_neg (hnone _ (by decide)), if_neg (hnone _ (by decide)),
      if_neg (hnone _ (by decide)), if_neg (hnone _ (by decide)), if_neg (hnone _ (by decide)),
      if_neg (hnone _ (by decide))]
  have htime : namedTime? (String.ofList run) = none := by
    unfold namedTime?
    split
    all_goals first | rfl | (rename_i hname; exact absurd hname (hne _ (by decide)))
  unfold figures
  dsimp only
  rw [if_neg (hnone _ (by decide)), if_neg (hne _ (by decide)), hdate, htime]

/-- Only the word `day` can be the beginning of a phrase of several words. -/
theorem substitute_cons (h : run ≠ "day".toList) (rest : List (List Char)) :
    substitute days (run :: rest) = figures days run :: substitute days rest := by
  match rest with
  | b :: c :: d :: e :: rest =>
    have hne : [run, b, c, d, e] ≠ dayAfterTomorrow := fun heq => h (List.cons.inj heq).1
    rw [substitute, if_neg hne]
  | [b, c, d] | [b, c] | [b] | [] => rfl

/-! ### Phrases in figures -/

/-- A run without letters, but for those of the halves of a day, is not a word with a meaning of its
own. -/
theorem figures_of_forall (h : ∀ c ∈ run, c.toNat < 65 ∨ c ∈ ['a', 'm', 'p']) :
    figures days run = run := by
  refine figures_of_notMem fun hmem => ?_
  -- each known word has a letter that is in neither half of the day
  have hletter : ∀ name ∈ knownWords,
      (name.toList.all fun c => c.toNat < 65 ∨ c ∈ ['a', 'm', 'p']) = false := by
    decide
  have hnot := hletter _ hmem
  rw [String.toList_ofList, List.all_eq_false] at hnot
  obtain ⟨c, hc, hother⟩ := hnot
  exact hother (decide_eq_true (h c hc))

/-- Runs without such letters stand for themselves before any others. -/
theorem substitute_append {front back : List (List Char)}
    (h : ∀ run ∈ front, ∀ c ∈ run, c.toNat < 65 ∨ c ∈ ['a', 'm', 'p']) :
    substitute days (front ++ back) = front ++ substitute days back := by
  induction front with
  | nil => rfl
  | cons run rest ih =>
    obtain ⟨hrun, hrest⟩ := List.forall_mem_cons.mp h
    have hday : run ≠ "day".toList := by
      rintro rfl
      exact absurd (hrun 'd' (by decide)) (by decide)
    rw [List.cons_append, substitute_cons hday, figures_of_forall hrun, ih hrest,
      List.cons_append]

theorem mem_of_mem_runs {c : Char} (hrun : run ∈ Text.runs text) (hc : c ∈ run) : c ∈ text := by
  rw [← Text.flatten_runs text]
  exact List.mem_flatten.mpr ⟨run, hrun, hc⟩

/-- **A phrase without letters and commas is in figures.** -/
theorem inFigures_eq_self {phrase : String}
    (h : ∀ c ∈ phrase.toList, c.toNat < 65 ∧ c ≠ ',') : inFigures days phrase = phrase.toList := by
  have hlower : Text.lower phrase.toList = phrase.toList := Text.lower_of_lt fun c hc => (h c hc).1
  have hcommas : (phrase.toList.map fun c => if c = ',' then ' ' else c) = phrase.toList := by
    have hmap := List.map_congr_left (f := fun c => if c = ',' then ' ' else c) (g := id)
      fun c hc => if_neg (h c hc).2
    rw [hmap, List.map_id]
  -- there is no letter, so no run is a known word
  have hruns : substitute days (Text.runs phrase.toList) = Text.runs phrase.toList := by
    have hsame : substitute days (Text.runs phrase.toList ++ [])
        = Text.runs phrase.toList ++ substitute days [] :=
      substitute_append fun run hrun c hc => Or.inl (h c (mem_of_mem_runs hrun hc)).1
    rwa [substitute, List.append_nil] at hsame
  unfold inFigures
  dsimp only
  rw [hlower, hcommas, hruns, Text.flatten_runs]

/-! ### Names of days -/

/-- **The names of days have a meaning** where the calendar has the day before and the seven days
after. -/
theorem NamedDays.exists_of? {today : Date} (hbefore : (today.addDays? (-1)).isSome)
    (hafter : (today.addDays? 7).isSome) : ∃ days, NamedDays.of? today = some days := by
  obtain ⟨hfirst, -⟩ := Date.isSome_addDays?_iff.mp hbefore
  obtain ⟨-, hlast⟩ := Date.isSome_addDays?_iff.mp hafter
  have hday : ∀ n : Int, -1 ≤ n → n ≤ 7 → ∃ date, today.addDays? n = some date := by
    intro n hlow hhigh
    refine Option.isSome_iff_exists.mp (Date.isSome_addDays?_iff.mpr ?_)
    omega
  have hnext := fun weekday => Option.isSome_iff_exists.mp (Date.isSome_next? hafter weekday)
  obtain ⟨yesterday, hyesterday⟩ := hday (-1) (by decide) (by decide)
  obtain ⟨tomorrow, htomorrow⟩ := hday 1 (by decide) (by decide)
  obtain ⟨afterTomorrow, hafterTomorrow⟩ := hday 2 (by decide) (by decide)
  obtain ⟨next, hdates⟩ : ∃ next, nextDates? today = some next := by
    obtain ⟨sunday, hsunday⟩ := hnext .sunday
    obtain ⟨monday, hmonday⟩ := hnext .monday
    obtain ⟨tuesday, htuesday⟩ := hnext .tuesday
    obtain ⟨wednesday, hwednesday⟩ := hnext .wednesday
    obtain ⟨thursday, hthursday⟩ := hnext .thursday
    obtain ⟨friday, hfriday⟩ := hnext .friday
    obtain ⟨saturday, hsaturday⟩ := hnext .saturday
    unfold nextDates?
    simp only [hsunday, hmonday, htuesday, hwednesday, hthursday, hfriday, hsaturday]
    exact ⟨_, rfl⟩
  unfold NamedDays.of?
  simp only [hyesterday, htomorrow, hafterTomorrow, hdates]
  exact ⟨_, rfl⟩

end Phrase

end Agenda
