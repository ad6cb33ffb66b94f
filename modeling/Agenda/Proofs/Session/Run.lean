import Agenda.Proofs.Store.Order
import Agenda.Proofs.Store.Transaction
import Agenda.Session

/-!
# Runs of a session

A session lives through events: lines are given to it, and from outside its repository is changed,
for instance so that saving fails for a while. `Session.after` is the session after a list of
events. A line that succeeds makes a `Session.Move` along the timeline of commands, and
`Session.moves` lists the moves of a run.

`Session.Ran` lists what a line can do to a session, and `Session.ran` says that there is nothing
else; invariants of sessions are proved by its cases.
-/

namespace Agenda

/-! ### Steps of the history -/

namespace History

variable {c : Command} {rest undone done : List Command} {h h' : History} {s s' : Store}
  {error : StoreError} {answer : Option Command}

theorem execute_ok (hrun : c.run.run s = .ok () s') :
    (execute c).run (h, s) = .ok () ({ done := c :: h.done, undone := [] }, s') := by
  unfold EStateM.run execute
  simp only [hrun]

theorem execute_error (hrun : c.run.run s = .error error s') :
    (execute c).run (h, s) = .error error (h, s') := by
  unfold EStateM.run execute
  simp only [hrun]

theorem undo_nil : undo.run (⟨[], undone⟩, s) = .ok none (⟨[], undone⟩, s) := rfl

theorem undo_ok (hrun : c.undo.run s = .ok () s') :
    undo.run (⟨c :: rest, undone⟩, s) = .ok (some c) (⟨rest, c :: undone⟩, s') := by
  unfold EStateM.run undo
  simp only [hrun]

theorem undo_error (hrun : c.undo.run s = .error error s') :
    undo.run (⟨c :: rest, undone⟩, s) = .error error (⟨c :: rest, undone⟩, s') := by
  unfold EStateM.run undo
  simp only [hrun]

theorem redo_nil : redo.run (⟨done, []⟩, s) = .ok none (⟨done, []⟩, s) := rfl

theorem redo_ok (hrun : c.run.run s = .ok () s') :
    redo.run (⟨done, c :: rest⟩, s) = .ok (some c) (⟨c :: done, rest⟩, s') := by
  unfold EStateM.run redo
  simp only [hrun]

theorem redo_error (hrun : c.run.run s = .error error s') :
    redo.run (⟨done, c :: rest⟩, s) = .error error (⟨done, c :: rest⟩, s') := by
  unfold EStateM.run redo
  simp only [hrun]

end History

namespace Session

/-! ### Events and moves -/

/-- What can happen to a session. -/
inductive Event where
  /-- A line is given to it at a time. -/
  | line (text : String) (now : DateTime)
  /-- Its repository changes from outside. -/
  | outside (change : Repository → Repository)

/-- The session after an event; a line that has no answer leaves it as it was. -/
def step (s : Session) : Event → Session
  | .line text now => ((s.run text now).map (·.2)).getD s
  | .outside change => { s with store := { s.store with repository := change s.store.repository } }

/-- The session after events. -/
def after (s : Session) (events : List Event) : Session :=
  events.foldl step s

theorem after_cons (s : Session) (event : Event) (rest : List Event) :
    s.after (event :: rest) = (s.step event).after rest := rfl

theorem after_append (s : Session) (first second : List Event) :
    s.after (first ++ second) = (s.after first).after second :=
  List.foldl_append ..

/-- A step along the timeline of commands. -/
inductive Move where
  | executed (c : Command)
  | undid
  | redid
  deriving DecidableEq

/-- The move that a line asks for. -/
def Move.ofReading? : Reading Action → Option Move
  | .read (.execute c) => some (executed c)
  | .read .undo => some undid
  | .read .redo => some redid
  | _ => none

/-- The move that a line makes: the one that it asks for if it succeeds, else none. -/
def move? (s : Session) (text : String) (now : DateTime) : Option Move :=
  match s.run text now with
  | some (⟨.success, _, _⟩, _) =>
    Move.ofReading? (Action.ofText s.implicitAdd s.store.list text now)
  | _ => none

/-- The move that an event makes. -/
def Event.move? (s : Session) : Event → Option Move
  | line text now => s.move? text now
  | outside _ => none

/-- The moves of a run, in order. -/
def moves (s : Session) : List Event → List Move
  | [] => []
  | event :: rest => (event.move? s).toList ++ (s.step event).moves rest

/-! ### What a line can do -/

/-- What a line can do to a session: the status of its reply, its move, and the session after it. -/
inductive Ran (s : Session) (text : String) (now : DateTime) :
    Status → Option Move → Session → Prop
  /-- A command of the line is carried out. -/
  | executed {c : Command} {store : Store}
    (hread : Action.ofText s.implicitAdd s.store.list text now = .read (.execute c))
    (hrun : c.run.run s.store = .ok () store) :
    Ran s text now .success (some (.executed c))
      { s with history := ⟨c :: s.history.done, []⟩, store }
  /-- The latest command is taken back. -/
  | undid {c : Command} {rest : List Command} {store : Store}
    (hdone : s.history.done = c :: rest) (hrun : c.undo.run s.store = .ok () store) :
    Ran s text now .success (some .undid)
      { s with history := ⟨rest, c :: s.history.undone⟩, store }
  /-- The command taken back last is carried out again. -/
  | redid {c : Command} {rest : List Command} {store : Store}
    (hundone : s.history.undone = c :: rest) (hrun : c.run.run s.store = .ok () store) :
    Ran s text now .success (some .redid)
      { s with history := ⟨c :: s.history.done, rest⟩, store }
  /-- The transaction of a command fails. -/
  | failed {draft : Draft Unit} {error : StoreError} {store : Store}
    (hrun : (Store.transaction draft).run s.store = .error error store) :
    Ran s text now .failure none { s with store }
  /-- The line is refused. -/
  | refused : Ran s text now .failure none s
  /-- The line changes nothing. -/
  | idle : Ran s text now .normal none s

theorem status_of_showing? {s : Session} {filter : Filter} {now : DateTime} {reply : Reply}
    (h : s.showing? filter now = some reply) : reply.status = .normal := by
  unfold showing? at h
  simp only [bind, Option.bind_eq_some_iff, pure, Option.some.injEq] at h
  obtain ⟨entries, -, views, -, rfl⟩ := h
  rfl

theorem move?_of_run_none {s : Session} {text : String} {now : DateTime}
    (h : s.run text now = none) : s.move? text now = none := by
  unfold move?
  rw [h]

theorem step_of_run_none {s : Session} {text : String} {now : DateTime}
    (h : s.run text now = none) : s.step (.line text now) = s := by
  unfold step
  simp only [h, Option.map_none, Option.getD_none]

theorem step_of_run_some {s s' : Session} {text : String} {now : DateTime} {reply : Reply}
    (h : s.run text now = some (reply, s')) : s.step (.line text now) = s' := by
  unfold step
  simp only [h, Option.map_some, Option.getD_some]

theorem move?_of_run_some {s s' : Session} {text : String} {now : DateTime} {reply : Reply}
    (h : s.run text now = some (reply, s')) : s.move? text now =
      if reply.status = .success then
        Move.ofReading? (Action.ofText s.implicitAdd s.store.list text now)
      else none := by
  obtain ⟨status, message, request⟩ := reply
  unfold move?
  rw [h]
  cases status <;> rfl

section Perform

variable {s s' : Session} {text : String} {now : DateTime} {reply : Reply}

theorem ran_execute {c : Command}
    (hread : Action.ofText s.implicitAdd s.store.list text now = .read (.execute c))
    (h : s.perform now (.execute c) = some (reply, s')) :
    Ran s text now reply.status (if reply.status = .success then some (.executed c) else none)
      s' := by
  -- the history takes the command over only if its transaction goes well
  cases hrun : c.run.run s.store with
  | ok _ store =>
    simp only [perform, History.execute_ok hrun] at h
    cases h
    exact .executed hread hrun
  | error error store =>
    simp only [perform, History.execute_error hrun] at h
    cases h
    exact .failed hrun

theorem ran_undo (h : s.perform now .undo = some (reply, s')) :
    Ran s text now reply.status (if reply.status = .success then some .undid else none) s' := by
  obtain ⟨store, ⟨done, undone⟩, implicitAdd⟩ := s
  cases done with
  | nil =>
    simp only [perform, History.undo_nil] at h
    cases h
    exact .idle
  | cons c rest =>
    cases hrun : c.undo.run store with
    | ok _ store' =>
      simp only [perform, History.undo_ok hrun] at h
      cases h
      exact .undid rfl hrun
    | error error store' =>
      simp only [perform, History.undo_error hrun] at h
      cases h
      exact .failed hrun

theorem ran_redo (h : s.perform now .redo = some (reply, s')) :
    Ran s text now reply.status (if reply.status = .success then some .redid else none) s' := by
  obtain ⟨store, ⟨done, undone⟩, implicitAdd⟩ := s
  cases undone with
  | nil =>
    simp only [perform, History.redo_nil] at h
    cases h
    exact .idle
  | cons c rest =>
    cases hrun : c.run.run store with
    | ok _ store' =>
      simp only [perform, History.redo_ok hrun] at h
      cases h
      exact .redid rfl hrun
    | error error store' =>
      simp only [perform, History.redo_error hrun] at h
      cases h
      exact .failed hrun

end Perform

/-- **A line does one of the things that `Ran` lists.** -/
theorem ran {s s' : Session} {text : String} {now : DateTime} {reply : Reply}
    (h : s.run text now = some (reply, s')) :
    Ran s text now reply.status (s.move? text now) s' := by
  rw [move?_of_run_some h]
  unfold run at h
  cases hread : Action.ofText s.implicitAdd s.store.list text now with
  | offCalendar =>
    rw [hread] at h
    cases h
  | refused cause =>
    rw [hread] at h
    cases h
    exact .refused
  | read action =>
    rw [hread] at h
    cases action with
    | execute c => exact ran_execute hread h
    | undo => exact ran_undo h
    | redo => exact ran_redo h
    | «show» filter =>
      simp only [perform, Option.map_eq_some_iff, Prod.mk.injEq] at h
      obtain ⟨⟨status, message, request⟩, hshown, rfl, rfl⟩ := h
      -- showing tasks changes nothing, and its status is never that of a success
      obtain rfl : status = .normal := status_of_showing? hshown
      exact .idle
    | hide | help | about | settings | exit =>
      cases h
      exact .idle

/-- Two sessions that differ in a temporary file at most. -/
structure Kept (s s' : Session) : Prop where
  eq : s' = { s with store := { s.store with repository := s'.store.repository } }
  repository : s.store.repository.Kept s'.store.repository

theorem Kept.refl (s : Session) : s.Kept s :=
  ⟨rfl, .refl s.store.repository⟩

theorem Kept.list {s s' : Session} (h : s.Kept s') : s'.store.list = s.store.list :=
  congrArg (·.store.list) h.eq

theorem Kept.outbox {s s' : Session} (h : s.Kept s') : s'.store.outbox = s.store.outbox :=
  congrArg (·.store.outbox) h.eq

theorem Kept.of_store {s : Session} {store : Store} (h : s.store.Kept store) :
    s.Kept { s with store } :=
  ⟨congrArg (fun store => { s with store }) h.eq, h.repository⟩

theorem Kept.eq_of_isTidy {s s' : Session} (h : s.Kept s') (htidy : s.store.repository.IsTidy) :
    s' = s := by
  rw [h.eq, h.repository.eq_of_isTidy htidy]

/-- **A line succeeds by a transaction.** Any other line keeps all but the temporary file. -/
theorem transaction_or_kept {s s' : Session} {text : String} {now : DateTime} {status : Status}
    {move : Option Move} (hran : Ran s text now status move s') :
    (status = .success ∧
      ∃ draft : Draft Unit, (Store.transaction draft).run s.store = .ok () s'.store) ∨
    (status ≠ .success ∧ s.Kept s') := by
  cases hran with
  | executed _ hrun => exact Or.inl ⟨rfl, _, hrun⟩
  | undid _ hrun => exact Or.inl ⟨rfl, _, hrun⟩
  | redid _ hrun => exact Or.inl ⟨rfl, _, hrun⟩
  | failed hrun => exact Or.inr ⟨by decide, .of_store (Store.kept_of_transaction hrun)⟩
  | refused => exact Or.inr ⟨by decide, .refl s⟩
  | idle => exact Or.inr ⟨by decide, .refl s⟩

/-- **Where saving works, it still does after a line.** -/
theorem works_of_ran {s s' : Session} {text : String} {now : DateTime} {status : Status}
    {move : Option Move} (hworks : s.store.repository.Works)
    (hran : Ran s text now status move s') : s'.store.repository.Works := by
  cases hran with
  | executed _ hrun => exact Store.works_of_transaction_ok hrun
  | undid _ hrun => exact Store.works_of_transaction_ok hrun
  | redid _ hrun => exact Store.works_of_transaction_ok hrun
  | failed hrun =>
    -- it has not come to saving
    rw [Store.eq_of_transaction_of_works hworks hrun]
    exact hworks
  | refused => exact hworks
  | idle => exact hworks

theorem works_step {s : Session} (hworks : s.store.repository.Works) (text : String)
    (now : DateTime) : (s.step (.line text now)).store.repository.Works := by
  rcases hrun : s.run text now with _ | ⟨reply, s'⟩
  · rw [step_of_run_none hrun]
    exact hworks
  · rw [step_of_run_some hrun]
    exact works_of_ran hworks (ran hrun)

theorem works_after {s : Session} (hworks : s.store.repository.Works)
    (lines : List (String × DateTime)) :
    (s.after (lines.map fun l => .line l.1 l.2)).store.repository.Works := by
  induction lines generalizing s with
  | nil => exact hworks
  | cons line rest ih =>
    rw [List.map_cons, after_cons]
    exact ih (works_step hworks line.1 line.2)

/-- **An event makes a step as its move says, or only the repository changes.** -/
theorem step_cases (s : Session) (event : Event) :
    (∃ text now status, event = .line text now ∧
      Ran s text now status (event.move? s) (s.step event)) ∨
    (event.move? s = none ∧
      ∃ repository, s.step event = { s with store := { s.store with repository } }) := by
  cases event with
  | outside change => exact Or.inr ⟨rfl, _, rfl⟩
  | line text now =>
    rw [Event.move?]
    rcases h : s.run text now with _ | ⟨reply, s'⟩
    · rw [move?_of_run_none h, step_of_run_none h]
      exact Or.inr ⟨rfl, s.store.repository, rfl⟩
    · rw [step_of_run_some h]
      exact Or.inl ⟨text, now, reply.status, rfl, ran h⟩

section Moves

variable {s : Session} {text : String} {now : DateTime}

theorem moves_cons_of_move? {move : Move} {rest : List Event}
    (h : s.move? text now = some move) :
    s.moves (.line text now :: rest) = move :: (s.step (.line text now)).moves rest := by
  rw [moves, Event.move?, h]
  rfl

/-- A line that makes a move succeeds. -/
theorem ran_of_move? {move : Move} (h : s.move? text now = some move) :
    Ran s text now .success (some move) (s.step (.line text now)) := by
  rcases hrun : s.run text now with _ | ⟨reply, s'⟩
  · rw [move?_of_run_none hrun] at h
    cases h
  · have hran := ran hrun
    rw [step_of_run_some hrun, ← h]
    have hmove := move?_of_run_some hrun
    rw [h] at hmove
    -- only a success makes a move
    by_cases hsuccess : reply.status = .success
    · rwa [hsuccess] at hran
    · rw [if_neg hsuccess] at hmove
      cases hmove

/-- A line carries out only the command that it asks for. -/
theorem read_of_executed {c : Command} (h : s.move? text now = some (.executed c)) :
    Action.ofText s.implicitAdd s.store.list text now = .read (.execute c) := by
  have hran := ran_of_move? h
  generalize s.step (.line text now) = s' at hran
  cases hran with
  | executed hread => exact hread

/-- A line whose command can be carried out is confirmed. -/
theorem run_of_execute {c : Command} {store : Store}
    (hread : Action.ofText s.implicitAdd s.store.list text now = .read (.execute c))
    (hrun : c.run.run s.store = .ok () store) :
    s.run text now = some (⟨.success, c.confirmation, none⟩,
      { s with history := ⟨c :: s.history.done, []⟩, store }) := by
  unfold run
  rw [hread]
  simp only [perform, History.execute_ok hrun]

/-- A line whose command can be carried out makes the move that it asks for. -/
theorem move?_of_execute {c : Command} {store : Store}
    (hread : Action.ofText s.implicitAdd s.store.list text now = .read (.execute c))
    (hrun : c.run.run s.store = .ok () store) :
    s.move? text now = some (.executed c) ∧
      s.step (.line text now) = { s with history := ⟨c :: s.history.done, []⟩, store } := by
  have hline := run_of_execute hread hrun
  rw [move?_of_run_some hline, step_of_run_some hline, if_pos rfl, hread]
  exact ⟨rfl, rfl⟩

theorem move?_of_undo {c : Command} {rest : List Command} {store : Store}
    (hread : Action.ofText s.implicitAdd s.store.list text now = .read .undo)
    (hdone : s.history.done = c :: rest) (hrun : c.undo.run s.store = .ok () store) :
    s.move? text now = some .undid ∧
      s.step (.line text now) = { s with history := ⟨rest, c :: s.history.undone⟩, store } := by
  obtain ⟨store', ⟨done, undone⟩, implicitAdd⟩ := s
  obtain rfl : done = c :: rest := hdone
  have hline : (⟨store', ⟨c :: rest, undone⟩, implicitAdd⟩ : Session).run text now
      = some (⟨.success, "Undid " ++ c.word ++ ".", none⟩,
          ⟨store, ⟨rest, c :: undone⟩, implicitAdd⟩) := by
    unfold run
    rw [hread]
    simp only [perform, History.undo_ok hrun]
  rw [move?_of_run_some hline, step_of_run_some hline, if_pos rfl, hread]
  exact ⟨rfl, rfl⟩

theorem move?_of_redo {c : Command} {rest : List Command} {store : Store}
    (hread : Action.ofText s.implicitAdd s.store.list text now = .read .redo)
    (hundone : s.history.undone = c :: rest) (hrun : c.run.run s.store = .ok () store) :
    s.move? text now = some .redid ∧
      s.step (.line text now) = { s with history := ⟨c :: s.history.done, rest⟩, store } := by
  obtain ⟨store', ⟨done, undone⟩, implicitAdd⟩ := s
  obtain rfl : undone = c :: rest := hundone
  have hline : (⟨store', ⟨done, c :: rest⟩, implicitAdd⟩ : Session).run text now
      = some (⟨.success, "Redid " ++ c.word ++ ".", none⟩,
          ⟨store, ⟨c :: done, rest⟩, implicitAdd⟩) := by
    unfold run
    rw [hread]
    simp only [perform, History.redo_ok hrun]
  rw [move?_of_run_some hline, step_of_run_some hline, if_pos rfl, hread]
  exact ⟨rfl, rfl⟩

/-- The word `undo` asks to undo, whatever the list is. -/
theorem ofText_undo (implicitAdd : Bool) (l : TaskList) :
    Action.ofText implicitAdd l "undo" now = .read .undo := by
  have hline : Line.ofText "undo" = ⟨"undo", "", "undo"⟩ := by decide +kernel
  unfold Action.ofText
  rw [hline]
  rfl

/-- The word `redo` asks to redo, whatever the list is. -/
theorem ofText_redo (implicitAdd : Bool) (l : TaskList) :
    Action.ofText implicitAdd l "redo" now = .read .redo := by
  have hline : Line.ofText "redo" = ⟨"redo", "", "redo"⟩ := by decide +kernel
  unfold Action.ofText
  rw [hline]
  rfl

end Moves

/-! ### Sessions on a repository that works -/

/-- A session with a list and a history, on a repository that works. -/
structure Working (s : Session) (l : TaskList) (h : History) : Prop where
  works : s.store.repository.Works
  list : s.store.list = l
  history : s.history = h
  implicitAdd : s.implicitAdd = false

theorem working_inMemory (tasks : List Task) :
    Working { store := { list := { tasks }, repository := .memory tasks false } } { tasks } {} :=
  ⟨Repository.works_memory tasks, rfl, rfl, rfl⟩

namespace Working

variable {s : Session} {c : Command} {l l' : TaskList} {h : History} {done undone : List Command}
  {text : String} {now : DateTime}

/-- The command of a line leaves the sorted draft. -/
theorem step (hs : Working s l h) (hread : Action.ofText false l text now = .read (.execute c))
    (happly : c.apply.run l = .ok () l') :
    s.move? text now = some (.executed c) ∧
      Working (s.step (.line text now)) l'.sorted ⟨c :: h.done, []⟩ := by
  obtain ⟨hworks, rfl, rfl, himplicit⟩ := hs
  rw [← himplicit] at hread
  obtain ⟨store, hrun, hlist⟩ := Store.exists_transaction_ok hworks happly
  obtain ⟨hmove, hstep⟩ := move?_of_execute hread hrun
  refine ⟨hmove, ?_⟩
  rw [hstep]
  exact ⟨Store.works_of_transaction_ok hrun, hlist, rfl, himplicit⟩

/-- The latest command is taken back by the next line. -/
theorem step_undo (hs : Working s l ⟨c :: done, undone⟩) (hrevert : c.revert.run l = .ok () l')
    (now : DateTime) :
    s.move? "undo" now = some .undid ∧
      Working (s.step (.line "undo" now)) l'.sorted ⟨done, c :: undone⟩ := by
  obtain ⟨hworks, rfl, hhistory, himplicit⟩ := hs
  obtain ⟨store, hrun, hlist⟩ := Store.exists_transaction_ok hworks hrevert
  obtain ⟨hmove, hstep⟩ :=
    move?_of_undo (ofText_undo _ _) (congrArg History.done hhistory) hrun
  refine ⟨hmove, ?_⟩
  rw [hstep, hhistory]
  exact ⟨Store.works_of_transaction_ok hrun, hlist, rfl, himplicit⟩

end Working

/-- The beginning of a day. -/
def someDay : DateTime :=
  ⟨⟨20000, by decide, by decide⟩, .midnight⟩

/-- A list of bread and milk is in order. -/
theorem saveOrder_breadAndMilk :
    saveOrder [{ description := "bread" }, { description := "milk" }]
      = [{ description := "bread" }, { description := "milk" }] :=
  saveOrder_of_pairwise (by decide +kernel) (by decide +kernel) (by decide +kernel)

/-- A session after two additions to an empty list. -/
theorem Working.breadAndMilk {s : Session} (h : Working s { tasks := [] } {}) :
    let bread : Task := { description := "bread" }
    let milk : Task := { description := "milk" }
    Working (s.after [.line "add bread" someDay, .line "add milk" someDay])
      { tasks := [bread, milk], added := [milk, bread] } ⟨[.add milk, .add bread], []⟩ := by
  intro bread milk
  have hreadBread : Action.ofText false { tasks := [] } "add bread" someDay
      = .read (.execute (.add bread)) := by decide +kernel
  have hreadMilk : Action.ofText false { tasks := [bread], added := [bread] } "add milk" someDay
      = .read (.execute (.add milk)) := by decide +kernel
  have hbread : (Command.add bread).apply.run { tasks := [] }
      = .ok () { tasks := [bread], added := [bread] } := rfl
  have hmilk : (Command.add milk).apply.run { tasks := [bread], added := [bread] }
      = .ok () { tasks := [bread, milk], added := [milk, bread] } := rfl
  have hfirst := (h.step hreadBread hbread).2
  rw [TaskList.sorted_singleton] at hfirst
  have hsecond := (hfirst.step hreadMilk hmilk).2
  rw [TaskList.sorted, saveOrder_breadAndMilk] at hsecond
  exact hsecond

end Session

end Agenda
