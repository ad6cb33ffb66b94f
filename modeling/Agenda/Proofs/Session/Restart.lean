import Agenda.Cli
import Agenda.Proofs.Session.WellFormed

/-!
# What a restart brings back

After a line that has changed the list, the task file can be opened again by any program, and the
list that is loaded from it is the list in memory, in the same order, without the times at the
beginning of 1970 (`reopened_after_success`). A task file has zero for such a time, and zero stands
for no time. So a restart brings back the list exactly as long as no task begins or ends at that
second; `first_second_lost` shows a line after which one does.

Everything else that could get lost on the way is known not to: lines name full seconds only
(`Period.isWhole_ofSegments`), tags come back in full, and the file stays where it is while lines
are run, whether they can be saved or not (`IsIn`).
-/

namespace Agenda

/-! ### What is loaded -/

namespace FileLocation

variable {l l' : FileLocation} {tasks : List Task}

/-- **What has been saved is loaded**, apart from what a record cannot hold. -/
theorem load_of_save (h : (save tasks).run l = .ok () l') (writer : Writer) :
    ({ l' with writer } : FileLocation).load = .ok (tasks.map Task.reloaded) := by
  have hfind := find?_of_save h
  have hparse := TaskFile.parse?_print (tasks.map Record.ofTask)
  unfold load
  simp only [hfind, contents, hparse, List.map_map]
  congr 2
  funext t
  exact Record.toTask_ofTask t

/-- Loaded tasks have full seconds only. -/
theorem isWhole_of_load (h : l.load = .ok tasks) : ∀ t ∈ tasks, t.IsWhole := by
  unfold load at h
  split at h
  · cases h
    intro t ht
    cases ht
  · cases h
  · split at h
    · cases h
      intro t ht
      obtain ⟨r, -, rfl⟩ := List.mem_map.mp ht
      exact r.isWhole_toTask
    · cases h

end FileLocation

namespace Cli

variable {disk : Disk} {folder : String} {writer : Writer} {settings : Settings}

theorem openStore_ok {l : FileLocation} {tasks : List Task}
    (hopen : FileLocation.open? disk folder settings.tasksFile writer = .ok l)
    (hload : l.load = .ok tasks) : openStore disk folder writer settings
      = .ok { list := { tasks }, repository := .file l } := by
  unfold openStore Store.open? Repository.load
  simp only [hopen, hload]
  rfl

theorem exists_of_openStore {store : Store}
    (h : openStore disk folder writer settings = .ok store) :
    ∃ l tasks, FileLocation.open? disk folder settings.tasksFile writer = .ok l ∧
      l.load = .ok tasks ∧ store = { list := { tasks }, repository := .file l } := by
  cases hopen : FileLocation.open? disk folder settings.tasksFile writer with
  | error reason =>
    unfold openStore at h
    rw [hopen] at h
    cases h
  | ok l =>
    cases hload : l.load with
    | error reason =>
      unfold openStore Store.open? Repository.load at h
      simp only [hopen, hload] at h
      cases h
    | ok tasks =>
      rw [openStore_ok hopen hload] at h
      cases h
      exact ⟨l, tasks, rfl, hload, rfl⟩

end Cli

/-! ### Sessions on a file -/

namespace Session

variable {s s' : Session} {opened : FileLocation}

/-- An event that leaves the task file where it is, even if it changes what the file holds. Every
line is one. -/
def Event.KeepsFile : Event → Prop
  | line _ _ => True
  | outside change => ∀ l, ∃ l', change (.file l) = .file l' ∧ l.SameFile l'

/-- A session has its list in the file that was opened. -/
def IsIn (opened : FileLocation) (s : Session) : Prop :=
  ∃ l, s.store.repository = .file l ∧ opened.SameFile l

theorem save_of_transaction_ok {draft : Draft Unit} {store store' : Store} {l : FileLocation}
    (hfile : store.repository = .file l)
    (h : (Store.transaction draft).run store = .ok () store') :
    ∃ l', (FileLocation.save store'.list.tasks).run l = .ok () l' ∧
      store'.repository = .file l' := by
  obtain ⟨_, -, hsave, -, -⟩ := Store.exists_of_transaction_ok h
  rw [hfile] at hsave
  exact Repository.exists_file_of_save hsave

theorem isIn_of_kept (h : IsIn opened s) (hkept : s.Kept s') : IsIn opened s' := by
  obtain ⟨l, hfile, hsame⟩ := h
  have hrepository := hkept.repository
  rw [hfile] at hrepository
  obtain ⟨l', hfile', hkept'⟩ := hrepository.exists_file
  exact ⟨l', hfile', hsame.trans hkept'.sameFile⟩

theorem isIn_of_ran {text : String} {now : DateTime} {status : Status} {move : Option Move}
    (h : IsIn opened s) (hran : Ran s text now status move s') : IsIn opened s' := by
  rcases transaction_or_kept hran with ⟨-, draft, hrun⟩ | ⟨-, hkept⟩
  · obtain ⟨l, hfile, hsame⟩ := h
    obtain ⟨l', hsave, hfile'⟩ := save_of_transaction_ok hfile hrun
    exact ⟨l', hfile', hsame.trans (FileLocation.sameFile_of_save hsave)⟩
  · exact isIn_of_kept h hkept

theorem isIn_step {event : Event} (h : IsIn opened s) (hkeeps : event.KeepsFile) :
    IsIn opened (s.step event) := by
  cases event with
  | line text now =>
    rcases hrun : s.run text now with _ | ⟨reply, s'⟩
    · rw [step_of_run_none hrun]
      exact h
    · rw [step_of_run_some hrun]
      exact isIn_of_ran h (ran hrun)
  | outside change =>
    obtain ⟨l, hfile, hsame⟩ := h
    obtain ⟨l', hchange, hsame'⟩ := hkeeps l
    refine ⟨l', ?_, hsame.trans hsame'⟩
    show change s.store.repository = .file l'
    rw [hfile, hchange]

/-- **The task file stays where it is** in all sessions. -/
theorem isIn_after {events : List Event} (h : IsIn opened s)
    (hkeeps : ∀ event ∈ events, event.KeepsFile) : IsIn opened (s.after events) := by
  induction events generalizing s with
  | nil => exact h
  | cons event rest ih =>
    obtain ⟨hevent, hrest⟩ := List.forall_mem_cons.mp hkeeps
    exact ih (isIn_step h hevent) hrest

/-- After a line that has changed the list, the task file can be opened again, and the list in
memory is loaded from it as far as records hold it. -/
theorem exists_reopened {disk : Disk} {folder : String} {writer : Writer} {settings : Settings}
    {store : Store} {implicitAdd : Bool} {events : List Event} {text : String} {now : DateTime}
    {reply : Reply} (hopen : Cli.openStore disk folder writer settings = .ok store)
    (hkeeps : ∀ event ∈ events, event.KeepsFile)
    (hrun : (({ store, implicitAdd } : Session).after events).run text now = some (reply, s'))
    (hsuccess : reply.status = .success) (writer' : Writer) :
    ∃ l reopened, s'.store.repository = .file l ∧
      Cli.openStore l.disk folder writer' settings = .ok reopened ∧
      reopened.list.tasks = s'.store.list.tasks.map Task.reloaded := by
  obtain ⟨opened, _, hlocation, -, hstore⟩ := Cli.exists_of_openStore hopen
  have hstart : IsIn opened { store, implicitAdd } :=
    ⟨opened, congrArg Store.repository hstore, .refl opened⟩
  -- before the line the file is where it was opened, and saving has not moved it
  obtain ⟨l, hfile, hsame⟩ := isIn_after hstart hkeeps
  rcases transaction_or_kept (ran hrun) with ⟨-, draft, htransaction⟩ | ⟨hfailed, -⟩
  swap
  · exact absurd hsuccess hfailed
  obtain ⟨l', hsave, hfile'⟩ := save_of_transaction_ok hfile htransaction
  have hsame' := hsame.trans (FileLocation.sameFile_of_save hsave)
  have hreopen := FileLocation.open?_of_sameFile hlocation hsame' writer'
  exact ⟨l', _, hfile', Cli.openStore_ok hreopen (FileLocation.load_of_save hsave writer'), rfl⟩

/-- All tasks of a session on a file have full seconds only. -/
theorem isWhole_after {disk : Disk} {folder : String} {writer : Writer} {settings : Settings}
    {store : Store} (hopen : Cli.openStore disk folder writer settings = .ok store)
    (implicitAdd : Bool) (events : List Event) :
    ∀ t ∈ (({ store, implicitAdd } : Session).after events).store.list.tasks, t.IsWhole := by
  obtain ⟨opened, tasks, -, hload, hstore⟩ := Cli.exists_of_openStore hopen
  have hfirst : ∀ t ∈ store.list.bag, t.IsWhole := by
    rw [hstore]
    exact FileLocation.isWhole_of_load hload
  have hstart : OnTimeline store.list.bag { store, implicitAdd } := ⟨rfl, trivial⟩
  refine (allTasks_after Task.keptByLines_isWhole hfirst hstart ?_ events).list
  intro c hc
  cases hc

/-- **A restart brings back the list, but for the beginning of 1970.** After every line that has
changed the list of a session on a file, the file can be opened again, and what is loaded are the
tasks in memory, in their order, without the times that are the beginning of 1970. So the list
comes back unchanged if and only if no task begins or ends at that second. -/
theorem reopened_after_success {disk : Disk} {folder : String} {writer : Writer}
    {settings : Settings} {store : Store} {implicitAdd : Bool} {events : List Event} {text : String}
    {now : DateTime} {reply : Reply} (hopen : Cli.openStore disk folder writer settings = .ok store)
    (hkeeps : ∀ event ∈ events, event.KeepsFile)
    (hrun : (({ store, implicitAdd } : Session).after events).run text now = some (reply, s'))
    (hsuccess : reply.status = .success) (writer' : Writer) :
    ∃ l reopened, s'.store.repository = .file l ∧
      Cli.openStore l.disk folder writer' settings = .ok reopened ∧
      reopened.list.tasks = s'.store.list.tasks.map Task.withoutUnixEpoch ∧
      (reopened.list.tasks = s'.store.list.tasks ↔ ∀ t ∈ s'.store.list.tasks,
        t.starts ≠ some DateTime.unixEpoch ∧ t.ends ≠ some DateTime.unixEpoch) := by
  obtain ⟨l, reopened, hfile, hreopen, htasks⟩ :=
    exists_reopened hopen hkeeps hrun hsuccess writer'
  -- the line is one more event, so its tasks have full seconds too
  have hafter : ({ store, implicitAdd } : Session).after (events ++ [.line text now]) = s' := by
    have hstep := step_of_run_some hrun
    rw [after, List.foldl_append, List.foldl_cons, List.foldl_nil]
    exact hstep
  have hwhole := isWhole_after hopen implicitAdd (events ++ [.line text now])
  rw [hafter] at hwhole
  have hreloaded : reopened.list.tasks = s'.store.list.tasks.map Task.withoutUnixEpoch := by
    rw [htasks]
    exact List.map_congr_left fun t ht => Task.reloaded_of_isWhole (hwhole t ht)
  refine ⟨l, reopened, hfile, hreopen, hreloaded, ?_⟩
  rw [hreloaded]
  exact Task.map_withoutUnixEpoch_eq_self_iff

/-! ### The first task -/

/-- A line that adds the first task is answered by success if the task can be saved. -/
theorem exists_of_first_addition {repository : Repository} {t : Task} {text : String}
    {now : DateTime} (hlist : s.store.list.tasks = [])
    (hread : Action.ofText s.implicitAdd s.store.list text now = .read (.execute (.add t)))
    (hsave : (Repository.save [t]).run s.store.repository = .ok () repository) :
    ∃ reply s', s.run text now = some (reply, s') ∧ reply.status = .success ∧
      s'.store.list.tasks = [t] := by
  have htasks : (s.store.list.push t).tasks = [t] := by
    rw [TaskList.push, hlist, List.nil_append]
  have hsorted : (s.store.list.push t).sorted.tasks = [t] := by
    have hperm := saveOrder_perm (s.store.list.push t).tasks
    rw [htasks] at hperm
    rw [TaskList.sorted, htasks]
    exact List.perm_singleton.mp hperm
  have hdraft : (Command.add t).apply.run s.store.list = .ok () (s.store.list.push t) := rfl
  rw [← hsorted] at hsave
  have hrun : (Command.add t).run.run s.store = _ := Store.transaction_ok hdraft hsave
  unfold run
  rw [hread]
  simp only [perform, History.execute_ok hrun]
  exact ⟨_, _, rfl, rfl, hsorted⟩

/-- A store in a folder on a disk that had nothing on it. -/
def onNewDisk : Store where
  list := { tasks := [] }
  repository := .file ⟨Disk.put {} ["data"] .folder, "/data/tasks.json", .ofNumber 1⟩

theorem openStore_onNewDisk : Cli.openStore {} "/data" (.ofNumber 1) {} = .ok onNewDisk := rfl

/-- The second day of 1970 comes back. -/
theorem second_day_reopened :
    let now : DateTime := ⟨⟨20000, by decide, by decide⟩, .midnight⟩
    ∃ reply s' l reopened,
      Cli.openStore {} "/data" (.ofNumber 1) {} = .ok onNewDisk ∧
      ({ store := onNewDisk } : Session).run "add moon @ 2/1/1970 00:00" now = some (reply, s') ∧
      reply.status = .success ∧ s'.store.repository = .file l ∧
      Cli.openStore l.disk "/data" (.ofNumber 2) {} = .ok reopened ∧
      reopened.list.tasks = s'.store.list.tasks := by
  intro now
  let s : Session := { store := onNewDisk }
  let moon : Task :=
    { description := "moon", ends := some ⟨⟨1, by decide, by decide⟩, .midnight⟩ }
  have hread : Action.ofText false { tasks := [] } "add moon @ 2/1/1970 00:00" now
      = .read (.execute (.add moon)) := by decide +kernel
  obtain ⟨reply, s', hrun, hsuccess, hlist⟩ :=
    exists_of_first_addition (s := s) rfl hread rfl
  have hkeeps : ∀ event ∈ ([] : List Event), event.KeepsFile := List.forall_mem_nil _
  have hafter : (s.after []).run "add moon @ 2/1/1970 00:00" now = some (reply, s') := hrun
  obtain ⟨l, reopened, hfile, hreopen, -, hsame⟩ :=
    reopened_after_success openStore_onNewDisk hkeeps hafter hsuccess (.ofNumber 2)
  refine ⟨reply, s', l, reopened, openStore_onNewDisk, hrun, hsuccess, hfile, hreopen,
    hsame.mpr ?_⟩
  rw [hlist]
  intro t ht
  rw [List.mem_singleton.mp ht]
  decide

/-- The first second of 1970 does not come back. -/
theorem first_second_lost :
    let now : DateTime := ⟨⟨20000, by decide, by decide⟩, .midnight⟩
    ∃ reply s' l reopened,
      Cli.openStore {} "/data" (.ofNumber 1) {} = .ok onNewDisk ∧
      ({ store := onNewDisk } : Session).run "add moon @ 1/1/1970 00:00" now = some (reply, s') ∧
      reply.status = .success ∧ s'.store.repository = .file l ∧
      Cli.openStore l.disk "/data" (.ofNumber 2) {} = .ok reopened ∧
      reopened.list.tasks ≠ s'.store.list.tasks := by
  intro now
  let s : Session := { store := onNewDisk }
  let moon : Task := { description := "moon", ends := some .unixEpoch }
  have hread : Action.ofText false { tasks := [] } "add moon @ 1/1/1970 00:00" now
      = .read (.execute (.add moon)) := by decide +kernel
  obtain ⟨reply, s', hrun, hsuccess, hlist⟩ :=
    exists_of_first_addition (s := s) rfl hread rfl
  have hkeeps : ∀ event ∈ ([] : List Event), event.KeepsFile := List.forall_mem_nil _
  have hafter : (s.after []).run "add moon @ 1/1/1970 00:00" now = some (reply, s') := hrun
  obtain ⟨l, reopened, hfile, hreopen, htasks⟩ :=
    exists_reopened openStore_onNewDisk hkeeps hafter hsuccess (.ofNumber 2)
  refine ⟨reply, s', l, reopened, openStore_onNewDisk, hrun, hsuccess, hfile, hreopen, ?_⟩
  rw [htasks, hlist]
  decide

end Session

end Agenda
