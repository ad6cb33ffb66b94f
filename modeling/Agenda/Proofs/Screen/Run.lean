import Agenda.Proofs.Session.Run
import Agenda.Screen.Draw

/-!
# Runs of a console

A console lives through events: lines are submitted, keys are pressed, snapshots are picked up, the
next task is checked, the screen is drawn, and from outside the repository is changed, for instance
so that saving fails for a while. `Console.after` is the console after a list of events.

An event answers a line, picks up a snapshot, announces a task, or leaves the rows and what is
remembered as they are: `Console.Stepped` lists these ways, and `Console.stepped` says that there is
no other.
-/

namespace Agenda.Console

/-! ### Events -/

/-- What can happen to a console. -/
inductive Event where
  /-- A line is submitted. -/
  | line (text : String) (now : DateTime)
  /-- The input line is submitted. -/
  | submit (now : DateTime)
  | typeChar (ch : Char)
  | backspace
  | left
  | right
  | next
  | previous
  | escape
  /-- The latest snapshot is picked up. -/
  | sync (now : DateTime)
  /-- It is checked whether the next task is about to begin. -/
  | remind (now : DateTime)
  | draw (width height : ℕ)
  /-- The repository changes from outside. -/
  | outside (change : Repository → Repository)

/-- The console after an event; what has no answer leaves it as it was. -/
def step (c : Console) : Event → Console
  | .line text now => (c.submitLine text now).getD c
  | .submit now => (c.submit now).getD c
  | .typeChar ch => c.typeChar ch
  | .backspace => c.backspace
  | .left => c.left
  | .right => c.right
  | .next => c.next
  | .previous => c.previous
  | .escape => c.escape
  | .sync now => c.sync now
  | .remind now => (c.remind now).getD c
  | .draw width height => (Screen.draw c width height).2
  | .outside change =>
    { c with session.store.repository := change c.session.store.repository }

/-- The console after events. -/
def after (c : Console) (events : List Event) : Console :=
  events.foldl step c

/-! ### Announcements -/

variable {c c' : Console} {event : Event} {now : DateTime} {reminder : Reminder}

/-- The reminder that is due at a time, whether or not its task has been announced. -/
def due? (c : Console) (now : DateTime) : Option Reminder :=
  (c.session.reminder? now c.settings.reminderMinutes.toInt).join

/-- The reminder that a check at a time shows: the one that is due, unless its task is the one that
was announced last. -/
def announced? (c : Console) (now : DateTime) : Option Reminder :=
  (c.due? now).filter fun reminder => c.reminded ≠ some reminder.task

theorem announced?_eq_some_iff : c.announced? now = some reminder ↔
    c.due? now = some reminder ∧ c.reminded ≠ some reminder.task := by
  unfold announced?
  rw [Option.filter_eq_some_iff, decide_eq_true_iff]

/-- **A check sets the status exactly when it announces a task**, and changes nothing otherwise. -/
theorem step_remind (c : Console) (now : DateTime) : c.step (.remind now) =
    match c.announced? now with
    | some reminder =>
      { c with status := some (.normal, reminder.message), reminded := some reminder.task }
    | none => c := by
  show (c.remind now).getD c = _
  unfold remind announced? due?
  -- off the calendar, or nothing is due, or a reminder is
  rcases c.session.reminder? now c.settings.reminderMinutes.toInt with _ | _ | reminder
  · rfl
  · rfl
  · by_cases h : c.reminded = some reminder.task
    · simp [Option.filter, h]
    · simp [Option.filter, h]

/-- The task that an event announces. -/
def Event.announced? (c : Console) : Event → Option Task
  | remind now => (c.announced? now).map (·.task)
  | _ => none

/-! ### What an event can do -/

/-- Consoles with the same rows, over the same list and with the same snapshots to pick up. -/
structure SameRows (c c' : Console) : Prop where
  tasks : c'.session.store.tasks = c.session.store.tasks
  outbox : c'.session.store.outbox = c.session.store.outbox
  title : c'.title = c.title
  rows : c'.rows = c.rows

theorem SameRows.refl (c : Console) : c.SameRows c :=
  ⟨rfl, rfl, rfl, rfl⟩

/-- What an event can do to the rows of a console and to what it remembers. -/
inductive Stepped (c : Console) (event : Event) : Console → Prop
  /-- A line is answered. -/
  | answered {text : String} {now : DateTime} {reply : Reply} {session : Session}
    {input : List Char} {cursor : ℕ} (hrun : c.session.run text now = some (reply, session))
    (hevent : event.announced? c = none) :
    Stepped c event (({ c with session, input, cursor } : Console).answer now reply)
  /-- The latest snapshot is picked up. -/
  | synced (now : DateTime) (hevent : event.announced? c = none) : Stepped c event (c.sync now)
  /-- A task is announced. -/
  | announced {reminder : Reminder} (hevent : event.announced? c = some reminder.task) :
    Stepped c event
      { c with status := some (.normal, reminder.message), reminded := some reminder.task }
  /-- The rows and what is remembered stay as they are. -/
  | same {c' : Console} (hrows : c.SameRows c') (hreminded : c'.reminded = c.reminded)
    (hevent : event.announced? c = none) : Stepped c event c'

theorem stepped_submitLine (input : List Char) (cursor : ℕ) (text : String) (now : DateTime)
    (hevent : event.announced? c = none) :
    Stepped c event ((({ c with input, cursor } : Console).submitLine text now).getD c) := by
  unfold submitLine
  rcases hrun : c.session.run text now with _ | ⟨reply, session⟩
  · exact .same (SameRows.refl c) rfl hevent
  · exact .answered hrun hevent

/-- **An event answers a line, picks up a snapshot, announces a task, or leaves all this as it
is.** -/
theorem stepped (c : Console) (event : Event) : Stepped c event (c.step event) := by
  cases event with
  | line text now => exact stepped_submitLine c.input c.cursor text now rfl
  | submit now =>
    show Stepped c _ ((c.submit now).getD c)
    unfold submit
    dsimp only
    split
    · exact .same ⟨rfl, rfl, rfl, rfl⟩ rfl rfl
    · exact stepped_submitLine [] 0 _ now rfl
  | sync now => exact .synced now rfl
  | remind now =>
    rw [step_remind]
    cases hannounced : c.announced? now with
    | none => exact .same (SameRows.refl c) rfl (by simp [Event.announced?, hannounced])
    | some reminder => exact .announced (by simp [Event.announced?, hannounced])
  | next =>
    show Stepped c _ c.next
    unfold next
    split
    · exact .same (SameRows.refl c) rfl rfl
    · split <;> exact .same ⟨rfl, rfl, rfl, rfl⟩ rfl rfl
  | previous =>
    show Stepped c _ c.previous
    unfold previous
    split
    · exact .same (SameRows.refl c) rfl rfl
    · split <;> exact .same ⟨rfl, rfl, rfl, rfl⟩ rfl rfl
  | backspace =>
    show Stepped c _ c.backspace
    unfold backspace
    split <;> exact .same ⟨rfl, rfl, rfl, rfl⟩ rfl rfl
  | right =>
    show Stepped c _ c.right
    unfold right
    split <;> exact .same ⟨rfl, rfl, rfl, rfl⟩ rfl rfl
  | escape =>
    show Stepped c _ c.escape
    unfold escape
    split <;> exact .same ⟨rfl, rfl, rfl, rfl⟩ rfl rfl
  | typeChar ch => exact .same ⟨rfl, rfl, rfl, rfl⟩ rfl rfl
  | left => exact .same ⟨rfl, rfl, rfl, rfl⟩ rfl rfl
  | draw width height => exact .same ⟨rfl, rfl, rfl, rfl⟩ rfl rfl
  | outside change => exact .same ⟨rfl, rfl, rfl, rfl⟩ rfl rfl

/-! ### Answers and syncs -/

variable {reply : Reply} {rows : Listing}

@[simp] theorem rows_setRows (c : Console) (rows : Listing) : (c.setRows rows).rows = rows := by
  unfold setRows
  dsimp only
  split <;> rfl

@[simp] theorem title_setRows (c : Console) (rows : Listing) :
    (c.setRows rows).title = c.title := by
  unfold setRows
  dsimp only
  split <;> rfl

@[simp] theorem session_setRows (c : Console) (rows : Listing) :
    (c.setRows rows).session = c.session := by
  unfold setRows
  dsimp only
  split <;> rfl

@[simp] theorem settings_setRows (c : Console) (rows : Listing) :
    (c.setRows rows).settings = c.settings := by
  unfold setRows
  dsimp only
  split <;> rfl

@[simp] theorem reminded_setRows (c : Console) (rows : Listing) :
    (c.setRows rows).reminded = c.reminded := by
  unfold setRows
  dsimp only
  split <;> rfl

@[simp] theorem input_setRows (c : Console) (rows : Listing) :
    (c.setRows rows).input = c.input := by
  unfold setRows
  dsimp only
  split <;> rfl

@[simp] theorem cursor_setRows (c : Console) (rows : Listing) :
    (c.setRows rows).cursor = c.cursor := by
  unfold setRows
  dsimp only
  split <;> rfl

/-- An answer is a reaction to what the reply asks for, after news on the screen. -/
theorem exists_answer_eq (c : Console) (now : DateTime) (reply : Reply) :
    ∃ status title hidden, c.answer now reply
      = ({ c with status, title, hidden } : Console).react now reply.request := by
  unfold answer
  dsimp only
  split
  · exact ⟨_, _, _, rfl⟩
  · exact ⟨_, _, _, rfl⟩

/-- A sync shows a snapshot as it is picked up, or shows nothing new. -/
theorem sync_cases (c : Console) (now : DateTime) :
    (∃ entries, c.sync now
      = ({ c with session.store.outbox := [] } : Console).setRows ⟨entries, now⟩) ∨
    c.sync now = { c with session.store.outbox := [] } := by
  unfold sync
  dsimp only
  split
  · split
    · exact Or.inl ⟨_, rfl⟩
    · exact Or.inr rfl
  · exact Or.inr rfl

/-- An answer goes only to the screen, and announces nothing. -/
theorem answer_spec (c : Console) (now : DateTime) (reply : Reply) :
    (c.answer now reply).session = c.session ∧ (c.answer now reply).settings = c.settings ∧
      (c.answer now reply).reminded = c.reminded := by
  unfold answer react
  dsimp only
  split <;> split <;> simp

theorem sync_spec (c : Console) (now : DateTime) :
    (c.sync now).session = { c.session with store.outbox := [] } ∧
      (c.sync now).title = c.title ∧
      (c.sync now).reminded = c.reminded ∧
      (c.sync now).rows.entries =
        if c.title = allTasks then (c.session.store.outbox.getLast?).getD c.rows.entries
        else c.rows.entries := by
  unfold sync
  dsimp only
  cases hlatest : c.session.store.outbox.getLast? with
  | none =>
    refine ⟨rfl, rfl, rfl, ?_⟩
    rw [Option.getD_none, ite_self]
  | some entries =>
    dsimp only
    -- only the whole list is replaced by the latest snapshot
    split
    · simp
    · exact ⟨rfl, rfl, rfl, rfl⟩

/-- A line goes on to the session. -/
theorem step_line (c : Console) (text : String) (now : DateTime) :
    (c.step (.line text now)).session = c.session.step (.line text now) ∧
      (c.step (.line text now)).settings = c.settings := by
  show ((c.submitLine text now).getD c).session = _ ∧ ((c.submitLine text now).getD c).settings = _
  unfold submitLine
  rcases hrun : c.session.run text now with _ | ⟨reply, session⟩
  · exact ⟨(Session.step_of_run_none hrun).symm, rfl⟩
  · obtain ⟨hsession, hsettings, -⟩ := answer_spec { c with session } now reply
    exact ⟨hsession.trans (Session.step_of_run_some hrun).symm, hsettings⟩

/-- **Only an announcement changes what is remembered.** -/
theorem reminded_step (c : Console) (event : Event) :
    (c.step event).reminded = (event.announced? c).or c.reminded := by
  have hstepped := stepped c event
  generalize c.step event = c' at hstepped
  cases hstepped with
  | answered hrun hevent =>
    rw [hevent, (answer_spec _ _ _).2.2]
    rfl
  | synced now hevent =>
    rw [hevent, (sync_spec c now).2.2.1]
    rfl
  | announced hevent =>
    rw [hevent]
    rfl
  | same hrows hreminded hevent =>
    rw [hevent, hreminded]
    rfl

end Agenda.Console
