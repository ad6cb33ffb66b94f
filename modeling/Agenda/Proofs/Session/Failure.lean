import Agenda.Proofs.Session.Restart
import Agenda.Proofs.Store.Call

/-!
# What failures leave as it was

A session can fail in three places: a line is answered by a failure, a transaction ends in an
error, or a call of the store does (`Session.Failed`). In each of them the session is afterwards as
it was before: the list and what is known of additions, the repository, the two stacks and the
outbox. The only exception are temporary files (`Session.Kept`).

A list is written first under a name that tells the running program from others. If a file of that
name has been there already, for instance from a program that was stopped while it was saving, a
save that fails removes it; and if the disk does not let files be removed, what has been written
stays. `temporary_name_changed` has a run of either kind. A session on a disk without such a file
and without such a fault (`Undisturbed`) never comes to have one, and there nothing changes at all
(`failure_keeps_session`).
-/

namespace Agenda.Session

variable {s s' : Session}

/-- Something fails in a session, which is afterwards the second one. -/
inductive Failed (s : Session) : Session → Prop
  /-- A line is answered by a failure. -/
  | line {text : String} {now : DateTime} {reply : Reply} {s' : Session}
    (hrun : s.run text now = some (reply, s')) (hstatus : reply.status = .failure) : Failed s s'
  /-- A transaction ends in an error, after any number of steps. -/
  | transaction {α : Type} {draft : Draft α} {error : StoreError} {store : Store}
    (hrun : (Store.transaction draft).run s.store = .error error store) :
    Failed s { s with store }
  /-- A call of the store ends in an error. -/
  | call {c : Store.Call} {error : StoreError} {store : Store}
    (hrun : c.run.run s.store = .error error store) : Failed s { s with store }

/-- **A failure keeps all but the temporary file.** -/
theorem kept_of_failed (h : Failed s s') : s.Kept s' := by
  cases h with
  | line hrun hstatus =>
    have hran := ran hrun
    rw [hstatus] at hran
    rcases transaction_or_kept hran with ⟨hsuccess, -⟩ | ⟨-, hkept⟩
    · cases hsuccess
    · exact hkept
  | transaction hrun => exact .of_store (Store.kept_of_transaction hrun)
  | call hrun => exact .of_store (Store.Call.kept_of_error hrun)

/-! ### Sessions without temporary files -/

/-- The sessions that are opened on a repository where no file stands at the temporary path and none
would have to stay there, and all that come from them by lines, by calls of the store, and by
changes from outside to another such repository. -/
inductive Undisturbed : Session → Prop
  | opened {repository : Repository} {store : Store} (implicitAdd : Bool)
    (htidy : repository.IsTidy) (hopen : Store.open? repository = .ok store) :
    Undisturbed { store, implicitAdd }
  | answered {s s' : Session} {text : String} {now : DateTime} {reply : Reply} (h : Undisturbed s)
    (hrun : s.run text now = some (reply, s')) : Undisturbed s'
  | called {s : Session} (h : Undisturbed s) (c : Store.Call) :
    Undisturbed { s with store := c.after s.store }
  | changed {s : Session} {repository : Repository} (h : Undisturbed s)
    (htidy : repository.IsTidy) : Undisturbed { s with store := { s.store with repository } }

theorem Undisturbed.after (h : Undisturbed s) (lines : List (String × DateTime)) :
    Undisturbed (s.after (lines.map fun l => .line l.1 l.2)) := by
  induction lines generalizing s with
  | nil => exact h
  | cons line rest ih =>
    rw [List.map_cons, after_cons]
    refine ih ?_
    rcases hrun : s.run line.1 line.2 with _ | ⟨reply, s'⟩
    · rw [step_of_run_none hrun]
      exact h
    · rw [step_of_run_some hrun]
      exact h.answered hrun

theorem isTidy_of_transaction {α : Type} {draft : Draft α} {answer : α} {store store' : Store}
    (h : store.repository.IsTidy) (hrun : (Store.transaction draft).run store = .ok answer store') :
    store'.repository.IsTidy := by
  obtain ⟨l, -, hsave, -, -⟩ := Store.exists_of_transaction_ok hrun
  exact Repository.isTidy_of_save hsave h

theorem isTidy_of_ran {text : String} {now : DateTime} {status : Status} {move : Option Move}
    (h : s.store.repository.IsTidy) (hran : Ran s text now status move s') :
    s'.store.repository.IsTidy := by
  rcases transaction_or_kept hran with ⟨-, draft, hrun⟩ | ⟨-, hkept⟩
  · exact isTidy_of_transaction h hrun
  · rw [hkept.eq_of_isTidy h]
    exact h

theorem isTidy_after {store : Store} (h : store.repository.IsTidy) (c : Store.Call) :
    (c.after store).repository.IsTidy := by
  have hran := Store.Call.ran c store
  unfold Store.Call.after
  revert hran
  generalize c.run.run store = result
  intro hran
  cases hran with
  | failed hrun =>
    dsimp only
    rw [(Store.kept_of_transaction hrun).eq_of_isTidy h]
    exact h
  | changed _ hrun => exact isTidy_of_transaction h hrun
  | sorted key => exact h
  | set failing =>
    show (store.repository.setFailing failing).IsTidy
    cases hrepository : store.repository with
    | memory saved old => exact .memory saved failing
    | file location =>
      rw [hrepository] at h
      exact h

/-- **No step leaves a file at the temporary path.** -/
theorem isTidy_of_undisturbed (h : Undisturbed s) : s.store.repository.IsTidy := by
  induction h with
  | @opened repository store implicitAdd htidy hopen =>
    unfold Store.open? at hopen
    cases hload : repository.load with
    | error error =>
      rw [hload] at hopen
      cases hopen
    | ok tasks =>
      rw [hload] at hopen
      cases hopen
      exact htidy
  | answered _ hrun ih => exact isTidy_of_ran ih (ran hrun)
  | called _ c ih => exact isTidy_after ih c
  | changed _ htidy _ => exact htidy

/-- **Failures change nothing but temporary files.** Whenever a line, a transaction or a call of the
store fails, in any session whatever, the session is as it was: the list and its order, what was
added, the two stacks, the snapshots sent, and what is saved. A file that stood at the temporary
path may be gone, or a temporary file may have stayed where files cannot be removed. In an
undisturbed session there are no such files, and nothing has changed at all. -/
theorem failure_keeps_session (h : Failed s s') :
    s.Kept s' ∧ (s.store.repository.IsTidy → s' = s) ∧ (Undisturbed s → s' = s) := by
  have hkept := kept_of_failed h
  exact ⟨hkept, hkept.eq_of_isTidy, fun hundisturbed =>
    hkept.eq_of_isTidy (isTidy_of_undisturbed hundisturbed)⟩

/-! ### Runs on full disks -/

/-- A disk with an empty folder for data. -/
def dataDisk : Disk where
  nodes := [(["data"], .folder)]

/-- A session on a task file in the data folder of a disk that has none yet. -/
def onDisk (disk : Disk) : Session where
  store :=
    { list := { tasks := [] }, repository := .file ⟨disk, "/data/tasks.json", .ofNumber 1⟩ }

/-- The repository after its disk has run full. -/
def fullUp : Repository → Repository
  | .memory saved failing => .memory saved failing
  | .file l => .file { l with disk := { l.disk with fault := some ⟨10, .noSpace⟩ } }

theorem isTidy_fullUp {r : Repository} (h : r.IsTidy) : (fullUp r).IsTidy := by
  cases h with
  | memory saved failing => exact .memory saved failing
  | @file l h =>
    -- a fault of the disk does not change where paths lead
    have hsame : l.disk.SameFolders { l.disk with fault := some ⟨10, .noSpace⟩ } :=
      ⟨rfl, fun _ => Iff.rfl⟩
    refine .file ⟨fun temporary htemporary contents => ?_, h.removal⟩
    show ({ l.disk with fault := some ⟨10, .noSpace⟩ } : Disk).find? temporary ≠ _
    rw [Disk.find?_of_sameFolders hsame fun _ _ => rfl]
    exact h.free temporary htemporary contents

/-- A line whose command could be carried out is answered by a failure if the list cannot be
saved. -/
theorem exists_run_of_unsaved {l l' : FileLocation} {reason : String} {c : Command}
    {draft : TaskList} {text : String} {now : DateTime} (hfile : s.store.repository = .file l)
    (hread : Action.ofText s.implicitAdd s.store.list text now = .read (.execute c))
    (happly : c.apply.run s.store.list = .ok () draft)
    (hsave : (FileLocation.save draft.sorted.tasks).run l = .error reason l') :
    ∃ reply s', s.run text now = some (reply, s') ∧ reply.status = .failure ∧
      s'.store.repository = .file l' := by
  have hsave' : (Repository.save draft.sorted.tasks).run s.store.repository
      = .error (.writeFailed reason) (.file l') := by
    rw [hfile]
    unfold EStateM.run Repository.save
    dsimp only
    rw [hsave]
  have hrun : c.run.run s.store = _ := Store.transaction_unsaved happly hsave'
  unfold run
  rw [hread]
  simp only [perform, History.execute_error hrun]
  exact ⟨_, _, rfl, rfl, rfl⟩

/-- A session on a disk after two additions and a removal that was taken back. -/
def withBothStacks : Session :=
  (onDisk dataDisk).after [.line "add bread" someDay, .line "add milk" someDay,
    .line "remove 2" someDay, .line "undo" someDay]

theorem working_withBothStacks :
    let bread : Task := { description := "bread" }
    let milk : Task := { description := "milk" }
    Working withBothStacks { tasks := [bread, milk], added := [milk, bread] }
      ⟨[.add milk, .add bread], [.remove [⟨1, milk⟩]]⟩ := by
  intro bread milk
  have hworks : (onDisk dataDisk).store.repository.Works :=
    Repository.works_file ⟨rfl, ⟨_, _, rfl, rfl⟩, ⟨_, rfl⟩⟩
  have hstart : Working (onDisk dataDisk) { tasks := [] } {} := ⟨hworks, rfl, rfl, rfl⟩
  have hread : Action.ofText false { tasks := [bread, milk], added := [milk, bread] } "remove 2"
      someDay = .read (.execute (.remove [⟨1, milk⟩])) := by decide +kernel
  have hremove : (Command.remove [⟨1, milk⟩]).apply.run
      { tasks := [bread, milk], added := [milk, bread] }
        = .ok () { tasks := [bread], added := [milk, bread] } := rfl
  have hrevert : (Command.remove [⟨1, milk⟩]).revert.run
      { tasks := [bread], added := [milk, bread] }
        = .ok () { tasks := [bread, milk], added := [milk, bread] } := rfl
  have hremoved := (hstart.breadAndMilk.step hread hremove).2
  rw [TaskList.sorted_singleton] at hremoved
  have hundone := (hremoved.step_undo hrevert someDay).2
  rw [TaskList.sorted, saveOrder_breadAndMilk] at hundone
  exact hundone

theorem undisturbed_withBothStacks : Undisturbed withBothStacks := by
  have htidy : (onDisk dataDisk).store.repository.IsTidy := by
    refine .file ⟨fun temporary htemporary contents => ?_, rfl⟩
    cases htemporary
    exact nofun
  have hopened : Undisturbed (onDisk dataDisk) := .opened false htidy rfl
  exact hopened.after [("add bread", someDay), ("add milk", someDay), ("remove 2", someDay),
    ("undo", someDay)]

theorem isIn_withBothStacks :
    IsIn ⟨dataDisk, "/data/tasks.json", .ofNumber 1⟩ withBothStacks := by
  refine isIn_after ⟨_, rfl, .refl _⟩ fun event hevent => ?_
  simp only [List.mem_cons, List.not_mem_nil, or_false] at hevent
  rcases hevent with rfl | rfl | rfl | rfl <;> exact trivial

/-- Two tasks are to be done on a disk that has run full, with commands on both stacks. -/
theorem failed_mark_keeps_session :
    let bread : Task := { description := "bread" }
    let milk : Task := { description := "milk" }
    let s := withBothStacks.step (.outside fullUp)
    s.store.list = { tasks := [bread, milk], added := [milk, bread] } ∧
      s.history = ⟨[.add milk, .add bread], [.remove [⟨1, milk⟩]]⟩ ∧
      Action.ofText s.implicitAdd s.store.list "done 1-2" someDay
        = .read (.execute (.mark [⟨0, bread⟩, ⟨1, milk⟩] true)) ∧
      ∃ reply s', s.run "done 1-2" someDay = some (reply, s') ∧
        reply.status = .failure ∧ s' = s := by
  intro bread milk s
  have hworking := working_withBothStacks
  obtain ⟨l, hfile, -⟩ := isIn_withBothStacks
  have hundisturbed : Undisturbed s :=
    undisturbed_withBothStacks.changed
      (isTidy_fullUp (isTidy_of_undisturbed undisturbed_withBothStacks))
  have hfull : s.store.repository
      = .file { l with disk := { l.disk with fault := some ⟨10, .noSpace⟩ } } := by
    show fullUp withBothStacks.store.repository = _
    rw [hfile]
    rfl
  have hlist : s.store.list = { tasks := [bread, milk], added := [milk, bread] } := hworking.list
  have himplicit : s.implicitAdd = false := hworking.implicitAdd
  have hmark : Action.ofText false { tasks := [bread, milk], added := [milk, bread] } "done 1-2"
      someDay = .read (.execute (.mark [⟨0, bread⟩, ⟨1, milk⟩] true)) := by decide +kernel
  rw [← himplicit, ← hlist] at hmark
  obtain ⟨draft, happly, -⟩ := Command.run_apply (Action.fits_of_ofText hmark)
  -- whatever the marked list is, it cannot be saved
  obtain ⟨reason, l', hsave⟩ := FileLocation.exists_of_save_of_fault
    (l := { l with disk := { l.disk with fault := some ⟨10, .noSpace⟩ } }) rfl draft.sorted.tasks
  obtain ⟨reply, s', hrun, hstatus, -⟩ := exists_run_of_unsaved hfull hmark happly hsave
  have hsame := (failure_keeps_session (.line hrun hstatus)).2.2 hundisturbed
  exact ⟨hlist, hworking.history, hmark, reply, s', hrun, hstatus, hsame⟩

/-- A full disk on which a file stands at the temporary path. -/
def strayDisk : Disk where
  nodes := [(["data", ".tasks.json.tmp.1"], .file []), (["data"], .folder)]
  fault := some ⟨0, .noSpace⟩

/-- A full disk that does not let files be removed. -/
def stuckDisk : Disk where
  nodes := [(["data"], .folder)]
  fault := some ⟨0, .noSpace⟩
  removalFault := some .readOnly

/-- In two sessions just opened on full disks a line fails. Where a temporary file stood before, it
is gone; and where files cannot be removed, one has stayed. -/
theorem temporary_name_changed :
    (Store.open? (onDisk strayDisk).store.repository = .ok (onDisk strayDisk).store ∧
      ∃ reply s' l', (onDisk strayDisk).run "add milk" someDay = some (reply, s') ∧
        reply.status = .failure ∧ s'.store.repository = .file l' ∧
        strayDisk.names ["data"] = [".tasks.json.tmp.1"] ∧ l'.disk.names ["data"] = []) ∧
    (Store.open? (onDisk stuckDisk).store.repository = .ok (onDisk stuckDisk).store ∧
      ∃ reply s' l', (onDisk stuckDisk).run "add milk" someDay = some (reply, s') ∧
        reply.status = .failure ∧ s'.store.repository = .file l' ∧
        stuckDisk.names ["data"] = [] ∧ l'.disk.names ["data"] = [".tasks.json.tmp.1"]) := by
  have hread : Action.ofText false { tasks := [] } "add milk" someDay
      = .read (.execute (.add { description := "milk" })) := by decide +kernel
  -- whatever the list is, none of it gets through
  have hswept : ∀ tasks,
      (FileLocation.save tasks).run ⟨strayDisk, "/data/tasks.json", .ofNumber 1⟩
        = .error "No space left on device (os error 28)"
          ⟨strayDisk.remove ["data", ".tasks.json.tmp.1"], "/data/tasks.json", .ofNumber 1⟩ :=
    fun _ => rfl
  have hstuck : ∀ tasks,
      (FileLocation.save tasks).run ⟨stuckDisk, "/data/tasks.json", .ofNumber 1⟩
        = .error "No space left on device (os error 28)"
          ⟨stuckDisk.put ["data", ".tasks.json.tmp.1"] (.file []), "/data/tasks.json",
            .ofNumber 1⟩ :=
    fun _ => rfl
  obtain ⟨reply, s', hrun, hstatus, hfile⟩ :=
    exists_run_of_unsaved (s := onDisk strayDisk) rfl hread rfl (hswept _)
  obtain ⟨reply', s'', hrun', hstatus', hfile'⟩ :=
    exists_run_of_unsaved (s := onDisk stuckDisk) rfl hread rfl (hstuck _)
  exact ⟨⟨rfl, reply, s', _, hrun, hstatus, hfile, rfl, rfl⟩,
    ⟨rfl, reply', s'', _, hrun', hstatus', hfile', rfl, rfl⟩⟩

end Agenda.Session
