import Agenda.Proofs.Screen.Run
import Agenda.Proofs.Session.Newest
import Agenda.Proofs.Session.Reminders

/-!
# Announced tasks

A console announces the next task when it is time to, and remembers the task that it has announced
last. So a task is not announced twice in a row, but it is announced again once another task has
been announced in between (`Console.Overtaken`). As long as time does not go back, the other task
can only have come first because the list has changed: `Console.announced_again_iff`.
-/

namespace Agenda

namespace Console

variable {c : Console} {event : Event} {events : List Event} {now : DateTime}
  {reminder : Reminder} {t : Task}

/-- The tasks that events announce, in order. -/
def announcements (c : Console) : List Event → List Task
  | [] => []
  | event :: rest => (event.announced? c).toList ++ (c.step event).announcements rest

/-- The times of the checks among events. -/
def checkTimes (events : List Event) : List DateTime :=
  events.filterMap fun
    | .remind now => some now
    | _ => none

theorem after_nil (c : Console) : c.after [] = c := rfl

theorem after_append (c : Console) (before after : List Event) :
    c.after (before ++ after) = (c.after before).after after :=
  List.foldl_append

/-- A line announces nothing. -/
theorem announcements_line (c : Console) (text : String) (now : DateTime) (rest : List Event) :
    c.announcements (.line text now :: rest) = (c.step (.line text now)).announcements rest := by
  have hevent : (Event.line text now).announced? c = none := rfl
  rw [announcements, hevent, Option.toList_none, List.nil_append]

theorem announcements_append (c : Console) (before after : List Event) :
    c.announcements (before ++ after)
      = c.announcements before ++ (c.after before).announcements after := by
  induction before generalizing c with
  | nil => rfl
  | cons event rest ih =>
    rw [List.cons_append, announcements, announcements, ih, List.append_assoc]
    rfl

/-! ### Announced again -/

/-- A time in the hour after a noon. -/
def afterNoon (minutes : Fin 60) : DateTime :=
  ⟨⟨20745, by decide, by decide⟩, ⟨(43200 + 60 * minutes) * nanosPerSecond, by
    have := minutes.isLt
    unfold nanosPerDay nanosPerSecond
    omega⟩⟩

/-- Among the events a check announces another task, and the list has changed by then. -/
def Overtaken (c : Console) (t : Task) (events : List Event) : Prop :=
  ∃ before now after reminder, events = before ++ .remind now :: after ∧
    (c.after before).announced? now = some reminder ∧ reminder.task ≠ t ∧
    (c.after before).session.store.tasks ≠ c.session.store.tasks

/-- A reminder is of the next task. -/
theorem soonest?_of_due? (h : c.due? now = some reminder) :
    ∃ starts, c.session.store.soonest? now = some (starts, reminder.task) := by
  obtain ⟨starts, -, hsoonest, -⟩ :=
    Session.reminder?_eq_some_some_iff.mp (Option.join_eq_some_iff.mp h)
  exact ⟨starts, hsoonest⟩

/-- A task other than the one announced last is announced as soon as it is due. -/
theorem mem_announcements_of_due? (hreminded : c.reminded ≠ some t)
    (hdue : (c.after events).due? now = some reminder) (htask : reminder.task = t) :
    t ∈ c.announcements (events ++ [.remind now]) := by
  induction events generalizing c with
  | nil =>
    subst htask
    have hannounced := announced?_eq_some_iff.mpr ⟨hdue, hreminded⟩
    have hevent : (Event.remind now).announced? c = some reminder.task := by
      rw [Event.announced?, show c.announced? now = some reminder from hannounced]
      rfl
    rw [List.nil_append, announcements, hevent]
    exact List.mem_cons_self ..
  | cons event rest ih =>
    rw [List.cons_append, announcements, List.mem_append]
    by_cases hstill : (c.step event).reminded = some t
    · -- the event has announced the task itself
      rw [reminded_step] at hstill
      cases hevent : event.announced? c with
      | none =>
        rw [hevent, Option.none_or] at hstill
        exact absurd hstill hreminded
      | some t' =>
        rw [hevent, Option.some_or] at hstill
        refine Or.inl ?_
        rw [Option.some.inj hstill]
        exact List.mem_cons_self ..
    · exact Or.inr (ih hstill hdue)

/-- The task announced last is announced again only after another one. -/
theorem exists_other_of_mem_announcements (hreminded : c.reminded = some t)
    (h : t ∈ c.announcements events) :
    ∃ before now after reminder, events = before ++ .remind now :: after ∧
      (c.after before).announced? now = some reminder ∧ reminder.task ≠ t := by
  induction events generalizing c with
  | nil => cases h
  | cons event rest ih =>
    cases hevent : event.announced? c with
    | some t' =>
      obtain ⟨now, rfl⟩ : ∃ now, event = .remind now := by
        cases event with
        | remind now => exact ⟨now, rfl⟩
        | _ => cases hevent
      obtain ⟨reminder, hannounced, -⟩ := Option.map_eq_some_iff.mp hevent
      refine ⟨[], now, rest, reminder, rfl, hannounced, ?_⟩
      rintro rfl
      exact (announced?_eq_some_iff.mp hannounced).2 hreminded
    | none =>
      have hstill : (c.step event).reminded = some t := by
        rw [reminded_step, hevent, Option.none_or, hreminded]
      rw [announcements, hevent] at h
      obtain ⟨before, now, after, reminder, rfl, hannounced, hne⟩ := ih hstill h
      exact ⟨event :: before, now, after, reminder, rfl, hannounced, hne⟩

/-- While the list is the same and an announced task has not begun, no other task is due. -/
theorem task_of_due?_of_same_tasks {c' c'' : Console} {first last : DateTime}
    {reminder' other : Reminder} (hfirst : c.due? first = some reminder)
    (hlast : c''.due? last = some reminder') (hsame : reminder'.task = reminder.task)
    (htasks : c'.session.store.tasks = c.session.store.tasks) (hle : first ≤ now)
    (hle' : now ≤ last) (hdue : c'.due? now = some other) : other.task = reminder.task := by
  obtain ⟨starts, hsoonest⟩ := soonest?_of_due? hfirst
  obtain ⟨starts', hsoonest'⟩ := soonest?_of_due? hlast
  obtain ⟨starts'', hother⟩ := soonest?_of_due? hdue
  obtain ⟨hstarts, -⟩ := Store.starts_of_soonest? hsoonest
  obtain ⟨hstarts', hlt⟩ := Store.starts_of_soonest? hsoonest'
  rw [hsame, hstarts] at hstarts'
  rw [← Option.some.inj hstarts'] at hlt
  have hnext := Store.soonest?_of_le hsoonest htasks hle (Int.lt_of_le_of_lt hle' hlt)
  rw [hother] at hnext
  exact (Prod.mk.inj (Option.some.inj hnext)).2

/-- A check among events lies between the checks before and after them. -/
theorem le_of_checkTimes {first last : DateTime} {before after : List Event}
    (h : (checkTimes
      (.remind first :: ((before ++ .remind now :: after) ++ [.remind last]))).Pairwise (· ≤ ·)) :
    first ≤ now ∧ now ≤ last := by
  have hsplit : checkTimes (.remind first :: ((before ++ .remind now :: after) ++ [.remind last]))
      = first :: (checkTimes before ++ now :: (checkTimes after ++ [last])) := by
    simp [checkTimes]
  rw [hsplit, List.pairwise_cons, List.pairwise_append, List.pairwise_cons] at h
  obtain ⟨hfirst, -, ⟨hnow, -⟩, -⟩ := h
  exact ⟨hfirst now (by simp), hnow last (by simp)⟩

/-- **An announced task is announced again exactly when another one has overtaken it.** A check
announces a task, and after some events its reminder is due at another check, while time does not go
back between the checks. Then the task is announced again, at that check or before, exactly when in
the meantime the list has changed and another task has been announced. -/
theorem announced_again_iff {first last : DateTime} {reminder reminder' : Reminder}
    (htimes : (checkTimes (.remind first :: (events ++ [.remind last]))).Pairwise (· ≤ ·))
    (hfirst : c.announced? first = some reminder)
    (hdue : ((c.step (.remind first)).after events).due? last = some reminder')
    (hsame : reminder'.task = reminder.task) :
    reminder.task ∈ (c.step (.remind first)).announcements (events ++ [.remind last]) ↔
      (c.step (.remind first)).Overtaken reminder.task events := by
  have hstep : c.step (.remind first) =
      { c with status := some (.normal, reminder.message), reminded := some reminder.task } := by
    rw [step_remind, hfirst]
  have hreminded : (c.step (.remind first)).reminded = some reminder.task := by
    rw [hstep]
  have htasks : (c.step (.remind first)).session.store.tasks = c.session.store.tasks := by
    rw [hstep]
  constructor
  · intro hmem
    obtain ⟨before, now, after, other, hevents, hannounced, hne⟩ :=
      exists_other_of_mem_announcements hreminded hmem
    have hother := (announced?_eq_some_iff.mp hannounced).1
    rcases List.eq_nil_or_concat after with rfl | ⟨init, final, rfl⟩
    -- the last check announces the task itself
    · obtain ⟨rfl, hlast⟩ := List.append_inj' hevents rfl
      obtain rfl := Event.remind.inj (List.singleton_inj.mp hlast)
      rw [hdue] at hother
      rw [← Option.some.inj hother] at hne
      exact absurd hsame hne
    · obtain rfl : events = before ++ .remind now :: init := by
        rw [List.concat_eq_append, ← List.cons_append, ← List.append_assoc] at hevents
        exact (List.append_inj' hevents rfl).1
      obtain ⟨hle, hle'⟩ := le_of_checkTimes htimes
      refine ⟨before, now, init, other, rfl, hannounced, hne, fun heq => hne ?_⟩
      exact task_of_due?_of_same_tasks (announced?_eq_some_iff.mp hfirst).1 hdue hsame
        (heq.trans htasks) hle hle' hother
  · rintro ⟨before, now, after, other, rfl, hannounced, hne, -⟩
    have hforgotten : (((c.step (.remind first)).after before).step (.remind now)).reminded
        ≠ some reminder.task := by
      rw [step_remind, hannounced]
      exact fun heq => hne (Option.some.inj heq)
    rw [after_append] at hdue
    have hagain := mem_announcements_of_due? hforgotten hdue hsame
    rw [List.append_assoc, announcements_append, List.cons_append, announcements]
    exact List.mem_append_right _ (List.mem_append_right _ hagain)

/-- A console that shows a list in memory, with the default settings. -/
def overList (l : TaskList) (now : DateTime) : Console :=
  start { store := { list := l, repository := .memory l.tasks false } } {} now

/-- Three checks while the list stays as it is. -/
theorem tea_announced_once :
    let tea : Task := { description := "tea", starts := some (afterNoon 5) }
    let c : Console := overList { tasks := [tea] } (afterNoon 0)
    let events : List Event := [.remind (afterNoon 1), .next]
    let first : Reminder := ⟨tea, "Next task: tea begins in 5 minutes."⟩
    let second : Reminder := ⟨tea, "Next task: tea begins in 3 minutes."⟩
    (checkTimes (.remind (afterNoon 0) :: (events ++ [.remind (afterNoon 2)]))).Pairwise (· ≤ ·) ∧
      c.announced? (afterNoon 0) = some first ∧
      ((c.step (.remind (afterNoon 0))).after events).due? (afterNoon 2) = some second ∧
      tea ∉ (c.step (.remind (afterNoon 0))).announcements (events ++ [.remind (afterNoon 2)]) := by
  intro tea c events first second
  have htimes : (checkTimes (.remind (afterNoon 0) :: (events ++ [.remind (afterNoon 2)]))).Pairwise
      (· ≤ ·) := by
    decide +kernel
  have hfirst : c.announced? (afterNoon 0) = some first := by decide +kernel
  have hdue : ((c.step (.remind (afterNoon 0))).after events).due? (afterNoon 2) = some second := by
    decide +kernel
  refine ⟨htimes, hfirst, hdue, ?_⟩
  rw [announced_again_iff htimes hfirst hdue rfl]
  rintro ⟨before, now, after, other, hevents, -, -, hchanged⟩
  -- the only check among the events is the first of them
  cases before with
  | nil =>
    rw [after_nil] at hchanged
    exact hchanged rfl
  | cons event rest =>
    have hrest := (List.cons.inj hevents).2
    cases rest with
    | nil => cases hrest
    | cons event' rest' =>
      have hnil := (List.cons.inj hrest).2
      exact absurd hnil.symm (List.append_ne_nil_of_right_ne_nil _ (List.cons_ne_nil _ _))

/-! ### A task announced twice -/

section OnList

variable {l l' : TaskList} {command : Command} {text : String} {announced : Option Task}

/-- A console with the default settings over a list that can be saved. -/
structure OnList (c : Console) (l : TaskList) (announced : Option Task) : Prop where
  working : ∃ history, Session.Working c.session l history
  settings : c.settings = {}
  reminded : c.reminded = announced

theorem OnList.line (h : c.OnList l announced)
    (hread : Action.ofText false l text now = .read (.execute command))
    (happly : command.apply.run l = .ok () l') :
    (c.step (.line text now)).OnList l'.sorted announced := by
  obtain ⟨history, hworking⟩ := h.working
  obtain ⟨hsession, hsettings⟩ := step_line c text now
  have hstep := (hworking.step hread happly).2
  rw [← hsession] at hstep
  refine ⟨⟨_, hstep⟩, hsettings.trans h.settings, ?_⟩
  rw [reminded_step, h.reminded]
  rfl

theorem onList_overList (l : TaskList) (now : DateTime) : (overList l now).OnList l none :=
  ⟨⟨{}, Repository.works_memory l.tasks, rfl, rfl, rfl⟩, rfl, rfl⟩

theorem OnList.due? (h : c.OnList l announced) (now : DateTime) :
    c.due? now = (overList l now).due? now := by
  obtain ⟨history, hworking⟩ := h.working
  have hsoonest : c.session.store.soonest? now = (overList l now).session.store.soonest? now :=
    Store.soonest?_congr (congrArg TaskList.tasks hworking.list)
  unfold Console.due? Session.reminder?
  rw [hsoonest, h.settings]
  rfl

theorem OnList.remind (h : c.OnList l announced)
    (hdue : (overList l now).due? now = some reminder) (hnew : announced ≠ some reminder.task)
    (rest : List Event) :
    c.announcements (.remind now :: rest)
        = reminder.task :: (c.step (.remind now)).announcements rest ∧
      (c.step (.remind now)).OnList l (some reminder.task) := by
  have hannounced : c.announced? now = some reminder := by
    rw [announced?_eq_some_iff, h.due?, h.reminded]
    exact ⟨hdue, hnew⟩
  have hstep := step_remind c now
  rw [hannounced] at hstep
  refine ⟨?_, ?_⟩
  · rw [announcements, Event.announced?, show c.announced? now = some reminder from hannounced]
    rfl
  · rw [hstep]
    exact ⟨h.working, h.settings, rfl⟩

end OnList

/-- A task that begins sooner is added and removed again, and the other task is announced twice. -/
theorem call_announced_twice :
    let call : Task :=
      { description := "call", starts := some (afterNoon 8), ends := some (afterNoon 20) }
    let dust : Task :=
      { description := "dust", starts := some (afterNoon 5), ends := some (afterNoon 30) }
    let c : Console := overList { tasks := [call] } (afterNoon 0)
    c.announcements [.remind (afterNoon 0), .line "add dust @ 12:05 - 12:30" (afterNoon 0),
      .remind (afterNoon 0), .line "remove 2" (afterNoon 0), .remind (afterNoon 0)]
      = [call, dust, call] := by
  intro call dust c
  have hadd : Action.ofText false { tasks := [call] } "add dust @ 12:05 - 12:30" (afterNoon 0)
      = .read (.execute (.add dust)) := by decide +kernel
  have hremove : Action.ofText false { tasks := [call, dust], added := [dust] } "remove 2"
      (afterNoon 0) = .read (.execute (.remove [⟨1, dust⟩])) := by decide +kernel
  have happlyAdd : (Command.add dust).apply.run { tasks := [call] }
      = .ok () { tasks := [call, dust], added := [dust] } := rfl
  have happlyRemove : (Command.remove [⟨1, dust⟩]).apply.run
      { tasks := [call, dust], added := [dust] }
        = .ok () { tasks := [call], added := [dust] } := rfl
  -- both lists are in order already
  have hsorted : ({ tasks := [call, dust], added := [dust] } : TaskList).sorted
      = { tasks := [call, dust], added := [dust] } :=
    congrArg (TaskList.mk · _) (saveOrder_of_pairwise (by decide +kernel) (by decide +kernel)
      (by decide +kernel))
  have hsorted' : ({ tasks := [call], added := [dust] } : TaskList).sorted
      = { tasks := [call], added := [dust] } :=
    congrArg (TaskList.mk · _) (saveOrder_of_pairwise (List.pairwise_singleton ..)
      (List.pairwise_singleton ..) (List.pairwise_singleton ..))
  have hdueCall : (overList { tasks := [call] } (afterNoon 0)).due? (afterNoon 0)
      = some ⟨call, "Next task: call begins in 8 minutes."⟩ := by
    decide +kernel
  have hdueDust :
      (overList { tasks := [call, dust], added := [dust] } (afterNoon 0)).due? (afterNoon 0)
        = some ⟨dust, "Next task: dust begins in 5 minutes."⟩ := by
    decide +kernel
  have hdueAgain :
      (overList { tasks := [call], added := [dust] } (afterNoon 0)).due? (afterNoon 0)
        = some ⟨call, "Next task: call begins in 8 minutes."⟩ := by
    decide +kernel
  have h := onList_overList { tasks := [call] } (afterNoon 0)
  obtain ⟨hfirst, h₁⟩ := h.remind hdueCall (by decide) _
  have h₂ := h₁.line hadd happlyAdd
  rw [hsorted] at h₂
  obtain ⟨hsecond, h₃⟩ := h₂.remind hdueDust (by decide) _
  have h₄ := h₃.line hremove happlyRemove
  rw [hsorted'] at h₄
  obtain ⟨hthird, -⟩ := h₄.remind hdueAgain (by decide) []
  rw [hfirst, announcements_line, hsecond, announcements_line, hthird, announcements]

end Console

end Agenda
