import Agenda.Proofs.Task.DueDays
import Agenda.Proofs.Text.Decimal
import Agenda.Proofs.Text.Words
import Agenda.View.Listing
import Mathlib.Algebra.GroupWithZero.Nat
import Mathlib.Data.List.Infix

/-!
# Countdowns

A countdown spells the whole minutes between now and the end of a task in units of time. The units
get smaller, every count is below the next larger unit, and together they are the minutes
(`spells_spellMinutes`). What is written of two spellings is different (`amountWords_inj`), so a
countdown can be read back: two of them are alike exactly when they have the same whole minutes and
are on the same side of the end (`Task.countdown_adds_up`).

The side is that of the difference in whole seconds. For the first second after its end a task is
overdue, and its countdown still says that the end is to come (`Task.countdown_of_overdue`).
-/

namespace Agenda

open Text

/-! ### Differences in whole seconds and minutes -/

namespace DateTime

variable {t later : DateTime}

/-- The whole minutes between two date-times, whichever is the later one. -/
def minutesBetween (t t' : DateTime) : ℕ :=
  (t.nanosUntil t').natAbs / (60 * nanosPerSecond)

/-- A difference counts as negative from a whole second on. -/
theorem secondsUntil_neg_iff :
    t.secondsUntil later < 0 ↔ later.instant + nanosPerSecond ≤ t.instant := by
  unfold secondsUntil nanosUntil nanosPerSecond
  rcases Int.le_total 0 (later.instant - t.instant) with h | h
  · rw [Int.tdiv_eq_ediv_of_nonneg h]
    omega
  · obtain ⟨n, hn⟩ := Int.exists_eq_neg_ofNat h
    rw [hn, Int.neg_tdiv, Int.tdiv_eq_ediv_of_nonneg (Int.natCast_nonneg n)]
    omega

/-- The part of a second that is left out makes no whole minute. -/
theorem natAbs_secondsUntil_div (t t' : DateTime) :
    (t.secondsUntil t').natAbs / 60 = t.minutesBetween t' := by
  have hseconds : (t.secondsUntil t').natAbs = (t.nanosUntil t').natAbs / nanosPerSecond :=
    Int.natAbs_tdiv _ _
  rw [hseconds, Nat.div_div_eq_div_mul, Nat.mul_comm]
  rfl

end DateTime

/-! ### Minutes spelt in units -/

namespace CountdownUnit

/-- How many of a unit make up one of the next larger unit; there is none above a year. -/
def radix? : CountdownUnit → Option ℕ
  | year => none
  | month => some 12
  | week => some 4
  | day => some 7
  | hour => some 24
  | minute => some 60

theorem minutes_pos (unit : CountdownUnit) : 0 < unit.minutes := by
  cases unit <;> decide

theorem name_inj {unit unit' : CountdownUnit} (h : unit.name = unit'.name) : unit = unit' := by
  cases unit <;> cases unit' <;> revert h <;> decide

end CountdownUnit

open CountdownUnit

/-- The counts and units are a number of minutes: the units get smaller, no count is 0 or makes up
a larger unit, and their minutes add up to the number. -/
structure Spells (parts : List (ℕ × CountdownUnit)) (n : ℕ) : Prop where
  decreasing : parts.Pairwise fun part part' => part'.2.minutes < part.2.minutes
  positive : ∀ part ∈ parts, 0 < part.1
  below : ∀ part ∈ parts, ∀ bound ∈ part.2.radix?, part.1 < bound
  total : (parts.map fun part => part.1 * part.2.minutes).sum = n

variable {units : List CountdownUnit} {unit : CountdownUnit} {part : ℕ × CountdownUnit} {n : ℕ}

/-- The units that are spelt are among those that are asked for, in the same order. -/
theorem units_spellMinutes_sublist (units : List CountdownUnit) (n : ℕ) :
    ((spellMinutes units n).map Prod.snd).Sublist units := by
  induction units generalizing n with
  | nil => exact List.Sublist.slnil
  | cons unit rest ih =>
    rw [spellMinutes]
    split
    · exact (ih n).cons unit
    · exact (ih _).cons_cons unit

theorem pos_of_mem_spellMinutes (h : part ∈ spellMinutes units n) : 0 < part.1 := by
  induction units generalizing n with
  | nil => cases h
  | cons unit rest ih =>
    rw [spellMinutes] at h
    split at h
    · exact ih h
    · rename_i hcount
      rcases List.mem_cons.mp h with rfl | h
      · exact Nat.pos_of_ne_zero hcount
      · exact ih h

/-- Less than a unit is spelt in the smaller units with no count that makes up a larger one. -/
theorem lt_of_mem_spellMinutes
    (hchain : (unit :: units).IsChain fun u u' =>
      ∀ bound ∈ u'.radix?, u.minutes = bound * u'.minutes)
    (hlt : n < unit.minutes) (h : part ∈ spellMinutes units n) :
    ∀ bound ∈ part.2.radix?, part.1 < bound := by
  induction units generalizing unit n with
  | nil => cases h
  | cons unit' rest ih =>
    obtain ⟨hscale, hrest⟩ := List.isChain_cons_cons.mp hchain
    rw [spellMinutes] at h
    split at h
    · rename_i hcount
      refine ih hrest ?_ h
      exact (Nat.div_eq_zero_iff.mp hcount).resolve_left unit'.minutes_pos.ne'
    · -- what is left is less than the larger unit, which is so many of this one
      rcases List.mem_cons.mp h with rfl | h
      · intro bound hbound
        rw [hscale bound hbound] at hlt
        exact (Nat.div_lt_iff_lt_mul unit'.minutes_pos).mpr hlt
      · exact ih hrest (Nat.mod_lt n unit'.minutes_pos) h

/-- Nothing is left over when the minutes come last. -/
theorem sum_spellMinutes (units : List CountdownUnit) (n : ℕ) :
    ((spellMinutes (units ++ [minute]) n).map fun part => part.1 * part.2.minutes).sum = n := by
  induction units generalizing n with
  | nil =>
    rw [List.nil_append, spellMinutes]
    split
    · rename_i hcount
      exact ((Nat.div_one n).symm.trans hcount).symm
    · show n / 1 * 1 + 0 = n
      omega
  | cons unit rest ih =>
    rw [List.cons_append, spellMinutes]
    split
    · exact ih n
    · rw [List.map_cons, List.sum_cons, ih]
      exact Nat.div_add_mod' n unit.minutes

/-- **The minutes of a countdown are spelt in units.** -/
theorem spells_spellMinutes (n : ℕ) : Spells (spellMinutes CountdownUnit.all n) n where
  decreasing := by
    have hall : CountdownUnit.all.Pairwise fun u u' => u'.minutes < u.minutes := by decide
    exact List.pairwise_map.mp (hall.sublist (units_spellMinutes_sublist _ n))
  positive := fun part => pos_of_mem_spellMinutes
  below := by
    have hchain : CountdownUnit.all.IsChain fun u u' =>
        ∀ bound ∈ u'.radix?, u.minutes = bound * u'.minutes := by decide
    intro part h
    rw [CountdownUnit.all, spellMinutes] at h
    split at h
    · rename_i hcount
      refine lt_of_mem_spellMinutes hchain ?_ h
      exact (Nat.div_eq_zero_iff.mp hcount).resolve_left year.minutes_pos.ne'
    · rcases List.mem_cons.mp h with rfl | h
      · -- there may be any number of years
        exact fun bound hbound => nomatch hbound
      · exact lt_of_mem_spellMinutes hchain (Nat.mod_lt n year.minutes_pos) h
  total := sum_spellMinutes [year, month, week, day, hour] n

/-- Only no minutes are spelt with nothing. -/
theorem Spells.eq_nil_iff {parts : List (ℕ × CountdownUnit)} (h : Spells parts n) :
    parts = [] ↔ n = 0 := by
  rw [← h.total]
  cases parts with
  | nil => exact iff_of_true rfl rfl
  | cons part rest =>
    have hpos : 0 < part.1 * part.2.minutes :=
      Nat.mul_pos (h.positive part (List.mem_cons_self ..)) part.2.minutes_pos
    refine iff_of_false (List.cons_ne_nil part rest) ?_
    rw [List.map_cons, List.sum_cons]
    omega

/-! ### Spelt minutes in writing -/

/-- A count of a unit in words; one alone is in the singular. -/
def partWords (part : ℕ × CountdownUnit) : String :=
  toString part.1 ++ " " ++ part.2.name ++ (if part.1 = 1 then "" else "s")

/-- Counts and units in words. -/
def amountWords (parts : List (ℕ × CountdownUnit)) : String :=
  if parts.isEmpty then "less than a minute" else ", ".intercalate (parts.map partWords)

theorem countText_eq (count : ℕ) (unit : CountdownUnit) :
    countText count unit = partWords (count, unit) := by
  unfold countText partWords
  split
  · rename_i hone
    rw [hone]
    show _ = toString 1 ++ " " ++ unit.name ++ ""
    rw [String.append_empty]
    rfl
  · rfl

theorem toList_partWords (part : ℕ × CountdownUnit) : (partWords part).toList =
    Nat.toDigits 10 part.1 ++ ' ' :: (part.2.name.toList ++ if part.1 = 1 then [] else ['s']) := by
  unfold partWords
  rw [String.toList_append, String.toList_append, String.toList_append, toList_toString,
    apply_ite String.toList, List.append_assoc, List.append_assoc]
  rfl

/-- The blank and the letters of the words for units. -/
def unitLetters : List Char := " adehikmnorstuwy".toList

theorem mem_unitLetters_of_name {c : Char} (h : c ∈ unit.name.toList) :
    c ∈ unitLetters ∧ c ≠ ' ' := by
  have hall : unit.name.toList.all fun c => decide (c ∈ unitLetters ∧ c ≠ ' ') := by
    cases unit <;> decide
  exact of_decide_eq_true (List.all_eq_true.mp hall c h)

theorem isDigit_or_letter_of_mem {c : Char} (h : c ∈ (partWords part).toList) :
    c.isDigit = true ∨ c ∈ unitLetters := by
  rw [toList_partWords] at h
  rcases List.mem_append.mp h with h | h
  · exact Or.inl (Nat.isDigit_of_mem_toDigits (by decide) (by decide) h)
  rcases List.mem_cons.mp h with rfl | h
  · exact Or.inr (by decide)
  rcases List.mem_append.mp h with h | h
  · exact Or.inr (mem_unitLetters_of_name h).1
  · split at h
    · cases h
    · obtain rfl := List.mem_singleton.mp h
      exact Or.inr (by decide)

theorem notMem_partWords {c : Char} (hdigit : c.isDigit = false) (hletter : c ∉ unitLetters) :
    c ∉ (partWords part).toList := by
  intro h
  rcases isDigit_or_letter_of_mem h with h | h
  · rw [hdigit] at h
    cases h
  · exact hletter h

/-- **A count and its unit are read off from their words.** -/
theorem partWords_inj {part part' : ℕ × CountdownUnit} (h : partWords part = partWords part') :
    part = part' := by
  obtain ⟨count, unit⟩ := part
  obtain ⟨count', unit'⟩ := part'
  have hlist := congrArg String.toList h
  rw [toList_partWords, toList_partWords] at hlist
  dsimp only at hlist
  -- the first blank is that between the numeral and the unit
  have hnumeral : ' ' ∉ Nat.toDigits 10 count := fun hblank =>
    absurd (Nat.isDigit_of_mem_toDigits (by decide) (by decide) hblank) (by decide)
  have hunit : ' ' ∉ unit.name.toList ++ if count = 1 then [] else ['s'] := by
    intro hblank
    rcases List.mem_append.mp hblank with hblank | hblank
    · exact (mem_unitLetters_of_name hblank).2 rfl
    · split at hblank <;> revert hblank <;> decide
  obtain ⟨hcount, -, hname⟩ := (List.append_cons_inj_of_notMem hnumeral hunit).mp hlist
  have hsame : count = count' := by
    rw [← Nat.ofDigitChars_ten_toDigits (n := count), hcount, Nat.ofDigitChars_ten_toDigits]
  subst hsame
  have hnames := String.toList_injective (List.append_cancel_right hname)
  rw [name_inj hnames]

/-- Parts without commas are read off from the text that joins them with commas. -/
theorem fields_intercalate (first : List Char) (rest : List (List Char))
    (h : ∀ w ∈ first :: rest, ',' ∉ w) :
    fields (· == ',') ([',', ' '].intercalate (first :: rest)) = first :: rest.map (' ' :: ·) := by
  induction rest generalizing first with
  | nil =>
    rw [List.intercalate_singleton]
    exact fields_beq_of_notMem (h first (List.mem_cons_self ..))
  | cons next rest ih =>
    obtain ⟨hfirst, hrest⟩ := List.forall_mem_cons.mp h
    have hcut : [',', ' '].intercalate (first :: next :: rest)
        = first ++ ',' :: ([' '] ++ [',', ' '].intercalate (next :: rest)) := by
      rw [List.intercalate_cons_cons, List.append_assoc]
      rfl
    have hblank : ∀ c ∈ [' '], (c == ',') = false :=
      List.forall_mem_singleton.mpr (by decide)
    rw [hcut, fields_beq_append_cons, fields_beq_of_notMem hfirst, fields_append_of_not_mem hblank,
      ih next hrest]
    rfl

theorem mem_intercalate {sep : List Char} {c : Char} {texts : List (List Char)}
    (h : c ∈ sep.intercalate texts) : c ∈ sep ∨ ∃ text ∈ texts, c ∈ text := by
  induction texts with
  | nil => cases h
  | cons first rest ih =>
    cases rest with
    | nil =>
      rw [List.intercalate_singleton] at h
      exact Or.inr ⟨first, List.mem_cons_self .., h⟩
    | cons next rest =>
      rw [List.intercalate_cons_cons, List.mem_append, List.mem_append] at h
      rcases h with (h | h) | h
      · exact Or.inr ⟨first, List.mem_cons_self .., h⟩
      · exact Or.inl h
      · refine (ih h).imp_right ?_
        rintro ⟨text, htext, hc⟩
        exact ⟨text, List.mem_cons_of_mem _ htext, hc⟩

theorem toList_amountWords_cons (part : ℕ × CountdownUnit) (parts : List (ℕ × CountdownUnit)) :
    (amountWords (part :: parts)).toList
      = [',', ' '].intercalate ((part :: parts).map fun part => (partWords part).toList) := by
  show (", ".intercalate ((part :: parts).map partWords)).toList = _
  rw [String.toList_intercalate, List.map_map]
  rfl

/-- No amount but the smallest has this letter. -/
theorem notMem_amountWords_cons (part : ℕ × CountdownUnit) (parts : List (ℕ × CountdownUnit)) :
    'l' ∉ (amountWords (part :: parts)).toList := by
  intro h
  rw [toList_amountWords_cons] at h
  rcases mem_intercalate h with h | ⟨text, htext, h⟩
  · revert h
    decide
  · obtain ⟨part', -, rfl⟩ := List.mem_map.mp htext
    exact notMem_partWords (by decide) (by decide) h

theorem mem_amountWords_nil : 'l' ∈ (amountWords []).toList := by
  decide

/-- **Counts and units are read off from their words.** -/
theorem amountWords_inj {parts parts' : List (ℕ × CountdownUnit)}
    (h : amountWords parts = amountWords parts') : parts = parts' := by
  cases parts with
  | nil =>
    cases parts' with
    | nil => rfl
    | cons part' rest' =>
      exact absurd (h ▸ mem_amountWords_nil) (notMem_amountWords_cons part' rest')
  | cons part rest =>
    cases parts' with
    | nil => exact absurd (h ▸ mem_amountWords_nil) (notMem_amountWords_cons part rest)
    | cons part' rest' =>
      -- no count and no unit has a comma in its words
      have hfields : ∀ part rest, fields (· == ',') (amountWords (part :: rest)).toList
          = (partWords part).toList :: rest.map fun part => ' ' :: (partWords part).toList := by
        intro part rest
        have hcomma : ∀ w ∈ (part :: rest).map fun part => (partWords part).toList, ',' ∉ w :=
          List.forall_mem_map.mpr fun part _ => notMem_partWords (by decide) (by decide)
        rw [toList_amountWords_cons, List.map_cons, fields_intercalate _ _ hcomma, List.map_map]
        rfl
      have hlist := congrArg (fun s : String => fields (· == ',') s.toList) h
      simp only [hfields] at hlist
      obtain ⟨hpart, hrest⟩ := List.cons.inj hlist
      have hinj : Function.Injective fun part => ' ' :: (partWords part).toList :=
        fun part part' hsame => partWords_inj (String.toList_injective (List.cons.inj hsame).2)
      rw [partWords_inj (String.toList_injective hpart), hinj.list_map hrest]

/-! ### Countdowns -/

namespace DateTime

/-- A date-time has passed by less than a second. -/
def JustPassed (t now : DateTime) : Prop :=
  t < now ∧ now.instant < t.instant + nanosPerSecond

instance (t now : DateTime) : Decidable (t.JustPassed now) :=
  inferInstanceAs (Decidable (_ ∧ _))

end DateTime

/-- Whether a text ends in some characters is seen from its last part, if that is long enough. -/
theorem isSuffix_append_iff {ending text last : List Char} (h : ending.length ≤ last.length) :
    ending <:+ text ++ last ↔ ending <:+ last :=
  ⟨fun hsuffix => List.suffix_of_suffix_length_le hsuffix (List.suffix_append text last) h,
    fun hsuffix => hsuffix.trans (List.suffix_append text last)⟩

/-- What a view shows depends on the task and the time. -/
theorem Entry.of_view? {e : Entry} {v : View} {now : DateTime} (h : e.view? now = some v) :
    v.isOverdue = e.task.isOverdue now ∧ v.countdown = e.task.countdown now := by
  obtain ⟨_, -, rfl⟩ := Option.map_eq_some_iff.mp h
  exact ⟨rfl, rfl⟩

namespace Task

variable {t t' : Task} {now now' ends ends' : DateTime}

/-- The words at the end of a countdown, which tell whether a second has passed since the end. -/
def sideWords (now ends : DateTime) : String :=
  if ends.instant + nanosPerSecond ≤ now.instant then " ago." else " from now."

theorem countdown_eq (now : DateTime) (h : t.ends = some ends) : t.countdown now =
    some (amountWords (spellMinutes CountdownUnit.all (now.minutesBetween ends))
      ++ sideWords now ends) := by
  unfold countdown amountWords sideWords
  rw [h]
  simp only [Option.map_some, DateTime.natAbs_secondsUntil_div, DateTime.secondsUntil_neg_iff,
    List.isEmpty_map, countText_eq]

theorem ago_isSuffix_iff (amount : String) :
    "ago.".toList <:+ (amount ++ sideWords now ends).toList ↔
      ends.instant + nanosPerSecond ≤ now.instant := by
  unfold sideWords
  rw [String.toList_append]
  split
  · rename_i hpassed
    exact iff_of_true ((isSuffix_append_iff (by decide)).mpr (by decide)) hpassed
  · rename_i hahead
    exact iff_of_false (fun h => absurd ((isSuffix_append_iff (by decide)).mp h) (by decide)) hahead

theorem fromNow_isSuffix_iff (amount : String) :
    "from now.".toList <:+ (amount ++ sideWords now ends).toList ↔
      now.instant < ends.instant + nanosPerSecond := by
  unfold sideWords
  rw [String.toList_append, ← Int.not_le]
  split
  · rename_i hpassed
    refine iff_of_false (fun h => ?_) (not_not_intro hpassed)
    have hnow : "now.".toList <:+ "from now.".toList := by decide
    exact absurd ((isSuffix_append_iff (by decide)).mp (hnow.trans h)) (by decide)
  · rename_i hahead
    exact iff_of_true ((isSuffix_append_iff (by decide)).mpr (by decide)) hahead

/-- **The countdown tells that a task is overdue, except in the first second.** The countdown of a
task with an end says `ago.` exactly from one second after the end on, and `from now.` before. So it
agrees with the mark of an overdue task unless the end has passed by less than a second, and a view
is marked as overdue with an end that is still to come exactly then. -/
theorem countdown_of_overdue (now : DateTime) (h : t.ends = some ends) :
    ∃ text, t.countdown now = some text ∧
      ("ago.".toList <:+ text.toList ↔ ends.instant + nanosPerSecond ≤ now.instant) ∧
      ("from now.".toList <:+ text.toList ↔ now.instant < ends.instant + nanosPerSecond) ∧
      (("ago.".toList <:+ text.toList ↔ t.isOverdue now = true) ↔ ¬ends.JustPassed now) ∧
      ∀ (e : Entry) v, e.task = t → e.view? now = some v → v.countdown = some text ∧
        (v.isOverdue = true ∧ "from now.".toList <:+ text.toList ↔ ends.JustPassed now) := by
  refine ⟨_, countdown_eq now h, ago_isSuffix_iff _, fromNow_isSuffix_iff _, ?_, ?_⟩
  · rw [ago_isSuffix_iff, isOverdue_iff h]
    show (_ ↔ ends.instant < now.instant) ↔ ¬(ends.instant < now.instant ∧ _)
    unfold nanosPerSecond
    omega
  · intro e v he hview
    obtain ⟨hoverdue, hcountdown⟩ := Entry.of_view? hview
    rw [hcountdown, hoverdue, he, countdown_eq now h, fromNow_isSuffix_iff, isOverdue_iff h]
    exact ⟨rfl, Iff.rfl⟩

/-- A second after its end a task is told to have ended. -/
theorem tea_told_a_second_ago :
    let today : Date := ⟨20745, by decide, by decide⟩
    let ends : DateTime := today.at ⟨43200 * nanosPerSecond, by decide⟩
    let now : DateTime := today.at ⟨43201 * nanosPerSecond, by decide⟩
    let tea : Task := { description := "tea", ends := some ends }
    let shown : Entry := ⟨1, tea⟩
    tea.ends = some ends ∧ ¬ends.JustPassed now ∧
      tea.countdown now = some "less than a minute ago." ∧ tea.isOverdue now = true ∧
      ∃ v, shown.view? now = some v ∧ v.countdown = some "less than a minute ago." := by
  intro today ends now tea shown
  have hends : tea.ends = some ends := rfl
  have hsecond : ¬ends.JustPassed now := by decide
  have htext : tea.countdown now = some "less than a minute ago." := by decide +kernel
  obtain ⟨text, hcountdown, -, -, hagrees, hviews⟩ := countdown_of_overdue now hends
  obtain rfl := Option.some.inj (htext.symm.trans hcountdown)
  have hview : (shown.view? now).isSome := by decide +kernel
  obtain ⟨v, hv⟩ := Option.isSome_iff_exists.mp hview
  exact ⟨hends, hsecond, htext, (hagrees.mpr hsecond).mp (by decide), v, hv,
    (hviews shown v rfl hv).1⟩

/-- Half a second after its end a task is overdue, and its end is told to be still to come. -/
theorem tea_overdue_from_now :
    let today : Date := ⟨20745, by decide, by decide⟩
    let ends : DateTime := today.at ⟨43200 * nanosPerSecond, by decide⟩
    let now : DateTime := today.at ⟨43200500000000, by decide⟩
    let tea : Task := { description := "tea", ends := some ends }
    tea.countdown now = some "less than a minute from now." ∧
      ¬("ago.".toList <:+ "less than a minute from now.".toList ↔ tea.isOverdue now = true) := by
  decide +kernel

/-- The smallest amount is told in its own words. -/
theorem lessThanMinute_isInfix_iff (parts : List (ℕ × CountdownUnit)) :
    "less than a minute".toList <:+: (amountWords parts ++ sideWords now ends).toList ↔
      parts = [] := by
  rw [String.toList_append]
  cases parts with
  | nil => exact iff_of_true (List.prefix_append _ _).isInfix rfl
  | cons part rest =>
    refine iff_of_false (fun h => ?_) (List.cons_ne_nil part rest)
    have hletter : 'l' ∈ "less than a minute".toList := by decide
    rcases List.mem_append.mp (h.subset hletter) with hl | hl
    · exact notMem_amountWords_cons part rest hl
    · unfold sideWords at hl
      split at hl <;> revert hl <;> decide

/-- **Countdowns are alike when they have the same whole minutes and are on the same side.** -/
theorem countdown_eq_iff (h : t.ends = some ends) (h' : t'.ends = some ends') :
    t.countdown now = t'.countdown now' ↔
      now.minutesBetween ends = now'.minutesBetween ends' ∧
      (ends.instant + nanosPerSecond ≤ now.instant ↔
        ends'.instant + nanosPerSecond ≤ now'.instant) := by
  rw [countdown_eq now h, countdown_eq now' h', Option.some.injEq]
  constructor
  · intro hsame
    have hside : ends.instant + nanosPerSecond ≤ now.instant ↔
        ends'.instant + nanosPerSecond ≤ now'.instant := by
      rw [← ago_isSuffix_iff, hsame, ago_isSuffix_iff]
    have hwords : sideWords now ends = sideWords now' ends' := by
      unfold sideWords
      simp only [hside]
    rw [hwords, ← String.toList_inj, String.toList_append, String.toList_append] at hsame
    -- with the same words at the end, the amounts are the same, and so are their parts
    have hparts := amountWords_inj (String.toList_injective (List.append_cancel_right hsame))
    refine ⟨?_, hside⟩
    rw [← (spells_spellMinutes (now.minutesBetween ends)).total, hparts,
      (spells_spellMinutes _).total]
  · rintro ⟨hminutes, hside⟩
    unfold sideWords
    simp only [hminutes, hside]

/-- Of two differences with the same sign, neither less than a second past the end, both are past a
whole second or neither is. -/
theorem passed_iff_of_sign_eq (hsign : (now.nanosUntil ends).sign = (now'.nanosUntil ends').sign)
    (hnot : ¬ends.JustPassed now) (hnot' : ¬ends'.JustPassed now') :
    ends.instant + nanosPerSecond ≤ now.instant ↔
      ends'.instant + nanosPerSecond ≤ now'.instant := by
  have hpassed : ends.instant < now.instant ↔ ends'.instant < now'.instant := by
    have hneg : ∀ now ends : DateTime,
        ends.instant < now.instant ↔ (now.nanosUntil ends).sign = -1 := by
      intro now ends
      rw [Int.sign_eq_neg_one_iff_neg]
      unfold DateTime.nanosUntil
      omega
    rw [hneg, hneg, hsign]
  -- what has passed, but not just now, has passed by a second
  have hsecond : ∀ {now ends : DateTime}, ¬ends.JustPassed now →
      (ends.instant + nanosPerSecond ≤ now.instant ↔ ends.instant < now.instant) := by
    intro now ends hnot
    refine ⟨fun hle => ?_, fun hlt => Int.not_lt.mp fun hbefore => hnot ⟨hlt, hbefore⟩⟩
    unfold nanosPerSecond at hle
    omega
  rw [hsecond hnot, hsecond hnot', hpassed]

/-- **The countdown adds up.** A countdown tells counts of units, each with a plural unless it is
one, which are the spelling of the whole minutes between now and the end, and it says `less than a
minute` exactly when there are none. Two countdowns are alike exactly when they have the same whole
minutes and a whole second has passed since both ends or neither. For differences with the same sign
this is to have the same whole minutes, unless one of the ends has passed by less than a second. -/
theorem countdown_adds_up (now now' : DateTime) (h : t.ends = some ends)
    (h' : t'.ends = some ends') :
    (∃ parts, Spells parts (now.minutesBetween ends) ∧
      t.countdown now = some (amountWords parts ++ sideWords now ends) ∧
      ("less than a minute".toList <:+: (amountWords parts ++ sideWords now ends).toList ↔
        now.minutesBetween ends = 0)) ∧
    (t.countdown now = t'.countdown now' ↔
      now.minutesBetween ends = now'.minutesBetween ends' ∧
      (ends.instant + nanosPerSecond ≤ now.instant ↔
        ends'.instant + nanosPerSecond ≤ now'.instant)) ∧
    ((now.nanosUntil ends).sign = (now'.nanosUntil ends').sign →
      ¬ends.JustPassed now → ¬ends'.JustPassed now' →
      (t.countdown now = t'.countdown now' ↔
        now.minutesBetween ends = now'.minutesBetween ends')) := by
  refine ⟨⟨_, spells_spellMinutes _, countdown_eq now h, ?_⟩, countdown_eq_iff h h', ?_⟩
  · rw [lessThanMinute_isInfix_iff]
    exact (spells_spellMinutes _).eq_nil_iff
  · intro hsign hnot hnot'
    rw [countdown_eq_iff h h', and_iff_left (passed_iff_of_sign_eq hsign hnot hnot')]

/-- Differences in the seconds leave a countdown as it is. -/
theorem tea_and_cake_in_two_days :
    let today : Date := ⟨20745, by decide, by decide⟩
    let later : Date := ⟨20747, by decide, by decide⟩
    let now : DateTime := today.at ⟨43200 * nanosPerSecond, by decide⟩
    let ends : DateTime := later.at ⟨54000500000000, by decide⟩
    let ends' : DateTime := later.at ⟨54059 * nanosPerSecond, by decide⟩
    let tea : Task := { description := "tea", ends := some ends }
    let cake : Task := { description := "cake", ends := some ends' }
    tea.ends = some ends ∧ cake.ends = some ends' ∧
      tea.countdown now = some "2 days, 3 hours from now." ∧
      tea.countdown now = cake.countdown now := by
  intro today later now ends ends' tea cake
  have hends : tea.ends = some ends := rfl
  have hends' : cake.ends = some ends' := rfl
  have hminutes : now.minutesBetween ends = now.minutesBetween ends' := by decide
  obtain ⟨-, -, halike⟩ := countdown_adds_up now now hends hends'
  exact ⟨hends, hends', by decide +kernel,
    (halike (by decide) (by decide) (by decide)).mpr hminutes⟩

/-- Half a second and two seconds after the end have the same sign and the same whole minutes, and
are told apart. -/
theorem tea_told_apart_within_a_minute :
    let today : Date := ⟨20745, by decide, by decide⟩
    let ends : DateTime := today.at ⟨43200 * nanosPerSecond, by decide⟩
    let now : DateTime := today.at ⟨43200500000000, by decide⟩
    let now' : DateTime := today.at ⟨43202 * nanosPerSecond, by decide⟩
    let tea : Task := { description := "tea", ends := some ends }
    (now.nanosUntil ends).sign = (now'.nanosUntil ends).sign ∧
      now.minutesBetween ends = now'.minutesBetween ends ∧
      tea.countdown now = some "less than a minute from now." ∧
      tea.countdown now' = some "less than a minute ago." := by
  decide +kernel

end Task

end Agenda
