import Agenda.Proofs.Language.Phrase
import Agenda.Proofs.Session.Shown

/-!
# Every line is answered

A line goes without an answer only when it needs a day that the calendar does not have. Where the
calendar has the day before and the seven days after the present one, no reading runs into a missing
day (`Action.ofText_ne_offCalendar`) and nothing that is shown does, so every line is answered
(`Session.every_line_answered`). The other steps that could go wrong on the way are guarded by the
steps before them, which `Session.Guarded` lists: ids count from one and not beyond the list, a text
is only cut behind characters that it begins with, and a task is looked for before its position is
used.
-/

namespace Agenda

open Text

/-! ### Readings -/

namespace Reading

variable {α β : Type} {r : Reading α}

theorem read_ne_offCalendar (a : α) : read a ≠ offCalendar := by
  intro h
  cases h

theorem refused_ne_offCalendar (cause : Refusal) : (refused cause : Reading α) ≠ offCalendar := by
  intro h
  cases h

theorem ofExcept_ne_offCalendar (r : Except Refusal α) : ofExcept r ≠ offCalendar := by
  cases r with
  | ok a => exact read_ne_offCalendar a
  | error cause => exact refused_ne_offCalendar cause

theorem bind_ne_offCalendar {f : α → Reading β} (hr : r ≠ offCalendar)
    (hf : ∀ a, f a ≠ offCalendar) : (r >>= f) ≠ offCalendar := by
  cases r with
  | read a => exact hf a
  | refused cause => exact refused_ne_offCalendar cause
  | offCalendar => exact absurd rfl hr

theorem map_ne_offCalendar {f : α → β} (hr : r ≠ offCalendar) : (f <$> r) ≠ offCalendar := by
  cases r with
  | read a => exact read_ne_offCalendar (f a)
  | refused cause => exact refused_ne_offCalendar cause
  | offCalendar => exact absurd rfl hr

end Reading

open Reading

section Readings

variable {now : DateTime} {days : Phrase.NamedDays}
  (hdays : Phrase.NamedDays.of? now.date = some days)

include hdays

theorem Period.ofSegments_ne_offCalendar (segments : List String) :
    Period.ofSegments segments now ≠ .offCalendar := by
  unfold Period.ofSegments
  rw [hdays]
  split
  · exact read_ne_offCalendar _
  · exact ofExcept_ne_offCalendar _

theorem Period.dayOfPhrase_ne_offCalendar (phrase : String) :
    Period.dayOfPhrase phrase now ≠ .offCalendar := by
  refine bind_ne_offCalendar (Period.ofSegments_ne_offCalendar hdays _) fun period => ?_
  split
  · exact read_ne_offCalendar _
  · exact refused_ne_offCalendar _
  · exact refused_ne_offCalendar _

theorem Filter.ofText_ne_offCalendar (s : String) : Filter.ofText s now ≠ .offCalendar := by
  unfold Filter.ofText
  dsimp only
  split
  · exact read_ne_offCalendar _
  split
  · exact refused_ne_offCalendar _
  · exact read_ne_offCalendar _
  split
  · exact read_ne_offCalendar _
  · exact read_ne_offCalendar _
  · rename_i hoff
    exact absurd hoff (Period.dayOfPhrase_ne_offCalendar hdays _)

namespace Action

theorem add_ne_offCalendar (text : String) : add text now ≠ .offCalendar := by
  refine bind_ne_offCalendar (ofExcept_ne_offCalendar _) fun body => ?_
  refine bind_ne_offCalendar (ofExcept_ne_offCalendar _) fun task => ?_
  refine bind_ne_offCalendar (Period.ofSegments_ne_offCalendar hdays _) fun period => ?_
  exact read_ne_offCalendar _

theorem edit_ne_offCalendar (l : TaskList) (text : String) : edit l text now ≠ .offCalendar := by
  unfold edit
  split
  · exact refused_ne_offCalendar _
  refine bind_ne_offCalendar (ofExcept_ne_offCalendar _) fun named => ?_
  refine bind_ne_offCalendar (ofExcept_ne_offCalendar _) fun body => ?_
  split
  · exact refused_ne_offCalendar _
  refine bind_ne_offCalendar (Period.ofSegments_ne_offCalendar hdays _) fun period => ?_
  refine bind_ne_offCalendar (ofExcept_ne_offCalendar _) fun targets => ?_
  refine bind_ne_offCalendar (ofExcept_ne_offCalendar _) fun revisions => ?_
  exact read_ne_offCalendar _

/-- **No reading of a line runs into a missing day** when the names of days have a meaning. -/
theorem ofText_ne_offCalendar (implicitAdd : Bool) (l : TaskList) (text : String) :
    ofText implicitAdd l text now ≠ .offCalendar := by
  unfold ofText
  dsimp only
  split
  · rename_i verb hverb
    cases verb with
    | add => exact map_ne_offCalendar (add_ne_offCalendar hdays _)
    | edit => exact map_ne_offCalendar (edit_ne_offCalendar hdays l _)
    | remove | done | undone => exact map_ne_offCalendar (ofExcept_ne_offCalendar _)
    | «show» => exact map_ne_offCalendar (Filter.ofText_ne_offCalendar hdays _)
    | hide | undo | redo | clear | help | about | settings | exit => exact read_ne_offCalendar _
  · split
    · exact map_ne_offCalendar (add_ne_offCalendar hdays _)
    · exact refused_ne_offCalendar _

end Action

end Readings

/-! ### Cuts -/

namespace Action

theorem isPrefix_idListTail (fuel : ℕ) (text : List Char) : idListTail fuel text <+: text := by
  induction fuel generalizing text with
  | zero => exact List.nil_prefix
  | succ fuel ih =>
    have hgap := List.takeWhile_append_dropWhile (p := isBlank) (l := text)
    unfold idListTail
    dsimp only
    split
    · exact List.nil_prefix
    rename_i c rest hdrop
    rw [hdrop] at hgap
    split
    · have hblanks := List.takeWhile_append_dropWhile (p := isBlank) (l := rest)
      have hid := List.takeWhile_append_dropWhile (p := isWordChar) (l := rest.dropWhile isBlank)
      split
      · exact List.nil_prefix
      -- the gap, the sign, the blanks and the id, and then what the rest has
      · conv_rhs => rw [← hgap, ← hblanks, ← hid]
        simp only [List.append_assoc, List.cons_append, List.nil_append,
          List.prefix_append_right_inj, List.cons_prefix_cons, true_and]
        exact ih _
    · exact List.nil_prefix

/-- The ids at the beginning of a text end at the end of one of its characters. -/
theorem isValid_of_idListStart? {argument : String} {ids : List Char}
    (h : idListStart? argument.toList = some ids) :
    (String.ofList ids).rawEndPos.IsValid argument ∧
      argument = String.ofList ids ++ String.ofList (argument.toList.drop ids.length) := by
  have hprefix : ids <+: argument.toList := by
    unfold idListStart? at h
    dsimp only at h
    split at h
    · cases h
    cases h
    have hid := List.takeWhile_append_dropWhile (p := isWordChar) (l := argument.toList)
    conv_rhs => rw [← hid]
    exact (List.prefix_append_right_inj _).mpr (isPrefix_idListTail _ _)
  obtain ⟨rest, hrest⟩ := hprefix
  have hcut : argument = String.ofList ids ++ String.ofList (argument.toList.drop ids.length) := by
    refine String.toList_injective ?_
    rw [String.toList_append, String.toList_ofList, String.toList_ofList, ← hrest,
      List.drop_left]
  exact ⟨String.Pos.Raw.isValid_iff_exists_append.mpr ⟨_, _, hcut, rfl⟩, hcut⟩

/-! ### Positions -/

/-- **Resolved ids have tasks.** -/
theorem exists_targetsAt {l : TaskList} {ids : String} {named : List ℕ}
    (h : IdList.resolve ids l.idScope = .ok named) :
    ∃ targets, targetsAt l named = .ok targets ∧ targets.map (·.position + 1) = named ∧
      ∀ target ∈ targets, target.position < l.size := by
  obtain ⟨targets, htargets⟩ : ∃ targets, targetsAt l named = .ok targets := by
    have hbounds := IdList.bounds_of_mem_resolve h
    clear h
    induction named with
    | nil => exact ⟨[], rfl⟩
    | cons id rest ih =>
      obtain ⟨⟨hpos, hle⟩, hrest⟩ := List.forall_mem_cons.mp hbounds
      obtain ⟨targets, htargets⟩ := ih hrest
      have hlt : id - 1 < l.tasks.length := Nat.sub_one_lt_of_le hpos hle
      have hget : l.get? (id - 1) = some l.tasks[id - 1] := List.getElem?_eq_getElem hlt
      refine ⟨⟨id - 1, l.tasks[id - 1]⟩ :: targets, ?_⟩
      simp only [targetsAt, hget, htargets]
  have hnamed := named_targetsAt h htargets
  have hsame := hnamed.resolve
  rw [h] at hsame
  exact ⟨targets, htargets, (Except.ok.inj hsame).symm, hnamed.lt_size⟩

end Action

/-! ### Spans -/

/-- The time between two date-times can be counted in milliseconds by a machine word. -/
theorem DateTime.natAbs_nanosUntil_le (t t' : DateTime) :
    (t.nanosUntil t').natAbs ≤ Int64.maxValue.toInt.toNat * 1000000 := by
  have hword : Int64.maxValue.toInt.toNat = 9223372036854775807 := by decide
  have htime := t.time.nanos_lt
  have htime' := t'.time.nanos_lt
  have hfirst := t.date.first_le
  have hfirst' := t'.date.first_le
  have hlast := t.date.le_last
  have hlast' := t'.date.le_last
  unfold nanosUntil instant
  rw [hword]
  unfold firstDay lastDay at *
  unfold nanosPerDay nanosPerSecond at *
  omega

/-! ### Sessions -/

namespace Session

/-- What guards the steps of a line that could go wrong at a time. -/
structure Guarded (s : Session) (now : DateTime) : Prop where
  /-- The calendar has all days that names can stand for. -/
  days : ∃ days, Phrase.NamedDays.of? now.date = some days
  /-- The calendar has the day that a view looks ahead to. -/
  tomorrow : now.date.addDays? 1 ≠ none
  /-- Every id of a resolved list is one more than a position of the list, where a task is. -/
  captured : ∀ ids named, IdList.resolve ids s.store.list.idScope = .ok named →
    ∃ targets, Action.targetsAt s.store.list named = .ok targets ∧
      targets.map (·.position + 1) = named ∧ ∀ target ∈ targets, target.position < s.store.total
  /-- The place of the task added last is one of the list. -/
  newest : ∀ position, s.store.list.newest? = some position → position < s.store.total
  /-- The ids of an edit end where one of the characters of its argument does, and what is cut off
  behind them is the rest of the argument. -/
  cut : ∀ argument ids, Action.idListStart? argument.toList = some ids →
    (String.ofList ids).rawEndPos.IsValid argument ∧
      argument = String.ofList ids ++ String.ofList (argument.toList.drop ids.length)
  /-- A position that a command has looked up on a draft is one of the draft, with its task. -/
  found : ∀ (l : TaskList) t hint position, l.positionOf t hint = .ok position →
    position < l.size ∧ l.get? position = some t
  /-- The time until the end of a task fits a machine word in milliseconds. -/
  span : ∀ t : DateTime, (now.nanosUntil t).natAbs ≤ Int64.maxValue.toInt.toNat * 1000000

variable {s : Session} {now : DateTime}

theorem guarded (s : Session) (hbefore : (now.date.addDays? (-1)).isSome)
    (hafter : (now.date.addDays? 7).isSome) : s.Guarded now where
  days := Phrase.NamedDays.exists_of? hbefore hafter
  tomorrow := by
    have hfirst := now.date.first_le
    obtain ⟨-, hlast⟩ := Date.isSome_addDays?_iff.mp hafter
    exact Option.isSome_iff_ne_none.mp (Date.isSome_addDays?_iff.mpr (by omega))
  captured := fun _ _ => Action.exists_targetsAt
  newest := fun position h => by
    unfold TaskList.newest? at h
    split at h
    · cases h
    · exact (List.getElem?_eq_some_iff.mp (getElem?_of_lastIndexOf? h)).1
  cut := fun _ _ => Action.isValid_of_idListStart?
  found := fun l t hint position h => by
    have hget := TaskList.get?_of_positionOf h
    exact ⟨(List.getElem?_eq_some_iff.mp hget).1, hget⟩
  span := now.natAbs_nanosUntil_le

/-- Only an action that shows tasks can go without an answer. -/
theorem exists_perform {action : Action}
    (h : ∀ filter, action = .show filter → s.showing? filter now ≠ none) :
    ∃ reply s', s.perform now action = some (reply, s') := by
  cases action with
  | execute c | undo | redo =>
    simp only [perform]
    split <;> exact ⟨_, _, rfl⟩
  | «show» filter =>
    obtain ⟨reply, hreply⟩ := Option.ne_none_iff_exists'.mp (h filter rfl)
    refine ⟨reply, s, ?_⟩
    rw [perform, hreply]
    rfl
  | hide | help | about | settings | exit => exact ⟨_, _, rfl⟩

/-- A line is answered on days with a day before and seven days after them. -/
theorem exists_run (s : Session) (text : String) (hbefore : (now.date.addDays? (-1)).isSome)
    (hafter : (now.date.addDays? 7).isSome) : ∃ reply s', s.run text now = some (reply, s') := by
  have hguarded := guarded s hbefore hafter
  obtain ⟨days, hdays⟩ := hguarded.days
  unfold run
  cases hread : Action.ofText s.implicitAdd s.store.list text now with
  | offCalendar => exact absurd hread (Action.ofText_ne_offCalendar hdays _ _ text)
  | refused cause => exact ⟨_, _, rfl⟩
  | read action =>
    refine exists_perform fun filter _ hnone => ?_
    -- neither the filter nor a view lacks a tomorrow
    obtain ⟨e, -, ⟨-, hlacks⟩, -⟩ := showing?_eq_none_iff.mp hnone
    exact hguarded.tomorrow hlacks

/-- **Every line is answered** at any time that is not on the first day of the calendar or in its
last week, whatever the list, the history and the text, and whether or not saving works. No step on
the way goes wrong, since each is guarded. -/
theorem every_line_answered (s : Session) (text : String) (now : DateTime)
    (hbefore : (now.date.addDays? (-1)).isSome) (hafter : (now.date.addDays? 7).isSome) :
    (∃ reply s', s.run text now = some (reply, s')) ∧ s.Guarded now :=
  ⟨s.exists_run text hbefore hafter, s.guarded hbefore hafter⟩

/-- A week before the last day of the calendar a task that ends on it can be asked for. -/
theorem answered_a_week_before_the_end :
    let now : DateTime := ⟨⟨lastDay - 7, by decide, by decide⟩, .midnight⟩
    let s : Session :=
      { store := { list := { tasks := [{ description := "tea", ends := some now }] }
                   repository := .memory [] false } }
    (now.date.addDays? (-1)).isSome ∧ (now.date.addDays? 7).isSome ∧
      ∃ reply s', s.run "show sunday" now = some (reply, s') := by
  intro now s
  have hbefore : (now.date.addDays? (-1)).isSome := by decide
  have hafter : (now.date.addDays? 7).isSome := by decide
  exact ⟨hbefore, hafter, (every_line_answered s "show sunday" now hbefore hafter).1⟩

/-- A day later there is no answer: all names of days are looked up together. -/
example :
    let now : DateTime := ⟨⟨lastDay - 6, by decide, by decide⟩, .midnight⟩
    ({ store := { list := { tasks := [] }, repository := .memory [] false } } : Session).run
      "show sunday" now = none := by decide +kernel

end Session

end Agenda
