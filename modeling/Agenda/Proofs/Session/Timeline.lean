import Agenda.Proofs.Language.Command
import Agenda.Proofs.Session.Run
import Agenda.Proofs.Store.Order

/-!
# Undo and redo over whole sessions

The two stacks of a history are one timeline with a point on it: what lies before the point can be
undone, what lies after it can be redone. A session keeps two things true (`Session.OnTimeline`):
the bag of its tasks is the first bag with the effects of the commands before the point, and each
command of the timeline fits the bag that those before it lead to.

* `onTimeline_step`: no event breaks the invariant, and `moved_step`: an undo or a redo only moves
  the point by one command.
* `onlySavingFails`: on the timeline no command can miss a task that it looks for, and
  `movesAsAsked`: where saving works, a line makes the move that it asks for.
* `after_keeps_timeline`: all of this for every session and every point of it.
-/

namespace Agenda

/-! ### Commands in sequence -/

namespace Command

/-- The bag after commands, the first one first. -/
def effects (cs : List Command) (M : Multiset Task) : Multiset Task :=
  cs.foldl (fun M c => c.effect M) M

/-- Each command fits the bag that those before it lead to. -/
def FitInOrder : List Command → Multiset Task → Prop
  | [], _ => True
  | c :: rest, M => c.Fits M ∧ FitInOrder rest (c.effect M)

variable {c : Command} {cs ds : List Command} {M : Multiset Task} {s s' : Store}
  {error : StoreError}

theorem effects_append : effects (cs ++ ds) M = effects ds (effects cs M) :=
  List.foldl_append ..

theorem effects_singleton : effects [c] M = c.effect M := rfl

theorem fitInOrder_append :
    FitInOrder (cs ++ ds) M ↔ FitInOrder cs M ∧ FitInOrder ds (effects cs M) := by
  induction cs generalizing M with
  | nil => exact ⟨fun h => ⟨trivial, h⟩, fun h => h.2⟩
  | cons c rest ih =>
    rw [List.cons_append, FitInOrder, FitInOrder, ih, and_assoc]
    rfl

/-! ### Commands on a store -/

theorem bag_of_run (fits : c.Fits s.list.bag) (hrun : c.run.run s = .ok () s') :
    s'.list.bag = c.effect s.list.bag := by
  obtain ⟨l, hl, hbag⟩ := run_apply fits
  obtain ⟨l', hl', -, hlist, -⟩ := Store.exists_of_transaction_ok hrun
  rw [hl] at hl'
  cases hl'
  rw [hlist, TaskList.bag_sorted, hbag]

theorem bag_of_undo (fits : c.Fits M) (h : s.list.bag = c.effect M)
    (hrun : c.undo.run s = .ok () s') : s'.list.bag = M := by
  obtain ⟨l, hl, hbag⟩ := run_revert fits h
  obtain ⟨l', hl', -, hlist, -⟩ := Store.exists_of_transaction_ok hrun
  rw [hl] at hl'
  cases hl'
  rw [hlist, TaskList.bag_sorted, hbag]

theorem error_of_run (fits : c.Fits s.list.bag) (hrun : c.run.run s = .error error s') :
    ∃ reason, error = .writeFailed reason := by
  obtain ⟨l, hl, -⟩ := run_apply fits
  exact Store.error_of_transaction hl hrun

theorem error_of_undo (fits : c.Fits M) (h : s.list.bag = c.effect M)
    (hrun : c.undo.run s = .error error s') : ∃ reason, error = .writeFailed reason := by
  obtain ⟨l, hl, -⟩ := run_revert fits h
  exact Store.error_of_transaction hl hrun

end Command

/-! ### The timeline of a history -/

namespace History

/-- All commands of a history, the first one first. -/
def timeline (h : History) : List Command :=
  h.done.reverse ++ h.undone

/-- How a history changes with a move. -/
inductive Moved : Option Session.Move → History → History → Prop
  /-- A new command takes the place of all that could be redone. -/
  | executed (c : Command) (done undone : List Command) :
    Moved (some (.executed c)) ⟨done, undone⟩ ⟨c :: done, []⟩
  /-- The point goes back by one command. -/
  | undid (c : Command) (done undone : List Command) :
    Moved (some .undid) ⟨c :: done, undone⟩ ⟨done, c :: undone⟩
  /-- The point goes on by one command. -/
  | redid (c : Command) (done undone : List Command) :
    Moved (some .redid) ⟨done, c :: undone⟩ ⟨c :: done, undone⟩
  | stayed (h : History) : Moved none h h

/-- How a history changes with moves one after the other. -/
inductive MovedBy : List Session.Move → History → History → Prop
  | nil (h : History) : MovedBy [] h h
  | cons {move : Session.Move} {moves : List Session.Move} {h h' h'' : History}
    (hmove : Moved (some move) h h') (hmoves : MovedBy moves h' h'') :
    MovedBy (move :: moves) h h''

namespace Moved

variable {h h' : History}

theorem length_of_undid (hmoved : Moved (some .undid) h h') :
    h.done.length = h'.done.length + 1 := by
  cases hmoved
  rfl

theorem length_of_redid (hmoved : Moved (some .redid) h h') :
    h.undone.length = h'.undone.length + 1 := by
  cases hmoved
  rfl

end Moved

namespace MovedBy

variable {h h' : History} {cs : List Command} {k : ℕ}

theorem done_of_executed (hmoved : MovedBy (cs.map .executed) h h') :
    h'.done = cs.reverse ++ h.done := by
  induction cs generalizing h with
  | nil =>
    cases hmoved
    rfl
  | cons c rest ih =>
    obtain _ | ⟨hmove, hmoves⟩ := hmoved
    cases hmove
    rw [ih hmoves, List.reverse_cons, List.append_assoc, List.singleton_append]

/-- Undoing takes commands from the one stack and puts them on the other, in the opposite order. -/
theorem exists_of_undid (hmoved : MovedBy (List.replicate k .undid) h h') :
    ∃ ds, ds.length = k ∧ h.done = ds ++ h'.done ∧ h'.undone = ds.reverse ++ h.undone := by
  induction k generalizing h with
  | zero =>
    cases hmoved
    exact ⟨[], rfl, rfl, rfl⟩
  | succ k ih =>
    obtain _ | ⟨hmove, hmoves⟩ := hmoved
    obtain _ | ⟨c, done, undone⟩ := hmove
    obtain ⟨ds, hlength, hdone, hundone⟩ := ih hmoves
    refine ⟨c :: ds, by rw [List.length_cons, hlength], ?_, ?_⟩
    · show c :: done = c :: ds ++ h'.done
      rw [List.cons_append, ← hdone]
    · rw [hundone, List.reverse_cons, List.append_assoc, List.singleton_append]

theorem exists_of_redid (hmoved : MovedBy (List.replicate k .redid) h h') :
    ∃ ds, ds.length = k ∧ h.undone = ds ++ h'.undone ∧ h'.done = ds.reverse ++ h.done := by
  induction k generalizing h with
  | zero =>
    cases hmoved
    exact ⟨[], rfl, rfl, rfl⟩
  | succ k ih =>
    obtain _ | ⟨hmove, hmoves⟩ := hmoved
    obtain _ | _ | ⟨c, done, undone⟩ := hmove
    obtain ⟨ds, hlength, hundone, hdone⟩ := ih hmoves
    refine ⟨c :: ds, by rw [List.length_cons, hlength], ?_, ?_⟩
    · show c :: undone = c :: ds ++ h'.undone
      rw [List.cons_append, ← hundone]
    · rw [hdone, List.reverse_cons, List.append_assoc, List.singleton_append]

end MovedBy

end History

namespace Session

variable {s : Session} {M₀ : Multiset Task}

/-- **The history changes as the move of an event says.** -/
theorem moved_step (s : Session) (event : Event) :
    History.Moved (event.move? s) s.history (s.step event).history := by
  rcases step_cases s event with ⟨text, now, status, -, hran⟩ | ⟨hmove, repository, hstep⟩
  · obtain ⟨store, ⟨done, undone⟩, implicitAdd⟩ := s
    revert hran
    generalize Event.move? _ event = move
    generalize Session.step _ event = s'
    rintro (_ | ⟨hdone, _⟩ | ⟨hundone, _⟩ | _ | _ | _)
    · exact .executed _ done undone
    · obtain rfl := hdone
      exact .undid _ _ undone
    · obtain rfl := hundone
      exact .redid _ done _
    · exact .stayed _
    · exact .stayed _
    · exact .stayed _
  · rw [hmove, hstep]
    exact .stayed _

theorem movedBy_after (s : Session) (events : List Event) :
    History.MovedBy (s.moves events) s.history (s.after events).history := by
  induction events generalizing s with
  | nil => exact .nil _
  | cons event rest ih =>
    have hstep := moved_step s event
    have hrest := ih (s.step event)
    rw [moves]
    cases hmove : event.move? s with
    | none =>
      -- without a move the history is the same after the event
      rw [hmove] at hstep
      generalize hh : (s.step event).history = h' at hstep hrest
      cases hstep
      exact hrest
    | some move =>
      rw [hmove] at hstep
      exact .cons hstep hrest

/-! ### The invariant -/

/-- The tasks of a session are those that its timeline has made of the first ones. -/
structure OnTimeline (M₀ : Multiset Task) (s : Session) : Prop where
  bag_eq : s.store.list.bag = Command.effects s.history.done.reverse M₀
  fits : Command.FitInOrder s.history.timeline M₀

namespace OnTimeline

theorem fits_done {c : Command} {rest : List Command} (h : OnTimeline M₀ s)
    (hdone : s.history.done = c :: rest) :
    Command.FitInOrder rest.reverse M₀ ∧ c.Fits (Command.effects rest.reverse M₀) ∧
      Command.FitInOrder s.history.undone (c.effect (Command.effects rest.reverse M₀)) := by
  have hfits := h.fits
  rw [History.timeline, hdone, List.reverse_cons, List.append_assoc, List.singleton_append,
    Command.fitInOrder_append] at hfits
  exact hfits

theorem bag_done {c : Command} {rest : List Command} (h : OnTimeline M₀ s)
    (hdone : s.history.done = c :: rest) :
    s.store.list.bag = c.effect (Command.effects rest.reverse M₀) := by
  have hbag := h.bag_eq
  rw [hdone, List.reverse_cons, Command.effects_append, Command.effects_singleton] at hbag
  exact hbag

theorem fits_undone {c : Command} {rest : List Command} (h : OnTimeline M₀ s)
    (hundone : s.history.undone = c :: rest) : c.Fits s.store.list.bag := by
  have hfits := h.fits
  rw [History.timeline, hundone, Command.fitInOrder_append, ← h.bag_eq] at hfits
  exact hfits.2.1

end OnTimeline

/-- **A line keeps a session on its timeline.** -/
theorem onTimeline_of_ran {s' : Session} {text : String} {now : DateTime} {status : Status}
    {move : Option Move} (h : OnTimeline M₀ s) (hran : Ran s text now status move s') :
    OnTimeline M₀ s' := by
  cases hran with
  | @executed c store hread hrun =>
    -- what could be redone is dropped, so the new command only has to fit the present bag
    have fits : c.Fits s.store.list.bag := Action.fits_of_ofText hread
    have hbag := Command.bag_of_run fits hrun
    have hdone : Command.FitInOrder s.history.done.reverse M₀ :=
      (Command.fitInOrder_append.mp h.fits).1
    rw [h.bag_eq] at fits hbag
    refine ⟨?_, ?_⟩
    · rw [List.reverse_cons, Command.effects_append, Command.effects_singleton]
      exact hbag
    · rw [History.timeline, List.append_nil, List.reverse_cons, Command.fitInOrder_append]
      exact ⟨hdone, fits, trivial⟩
  | @undid c rest store hdone hrun =>
    -- the timeline is the same, only the point on it has moved
    have htimeline : (⟨rest, c :: s.history.undone⟩ : History).timeline = s.history.timeline := by
      simp [History.timeline, hdone]
    refine ⟨Command.bag_of_undo (h.fits_done hdone).2.1 (h.bag_done hdone) hrun, ?_⟩
    rw [htimeline]
    exact h.fits
  | @redid c rest store hundone hrun =>
    have htimeline : (⟨c :: s.history.done, rest⟩ : History).timeline = s.history.timeline := by
      simp [History.timeline, hundone]
    have hbag := Command.bag_of_run (h.fits_undone hundone) hrun
    refine ⟨?_, ?_⟩
    · rw [List.reverse_cons, Command.effects_append, Command.effects_singleton, ← h.bag_eq]
      exact hbag
    · rw [htimeline]
      exact h.fits
  | failed hrun =>
    rw [(Store.kept_of_transaction hrun).eq]
    exact ⟨h.bag_eq, h.fits⟩
  | refused => exact h
  | idle => exact h

theorem onTimeline_step (h : OnTimeline M₀ s) (event : Event) : OnTimeline M₀ (s.step event) := by
  rcases step_cases s event with ⟨text, now, status, -, hran⟩ | ⟨-, repository, hstep⟩
  · exact onTimeline_of_ran h hran
  · rw [hstep]
    exact ⟨h.bag_eq, h.fits⟩

theorem onTimeline_after (h : OnTimeline M₀ s) (events : List Event) :
    OnTimeline M₀ (s.after events) := by
  induction events generalizing s with
  | nil => exact h
  | cons event rest ih => exact ih (onTimeline_step h event)

/-! ### Consequences -/

/-- Whatever a session does with commands fails only when the list cannot be saved. -/
structure OnlySavingFails (s : Session) : Prop where
  execute {text : String} {now : DateTime} {c : Command} {error : StoreError}
    {result : History × Store}
    (hread : Action.ofText s.implicitAdd s.store.list text now = .read (.execute c))
    (h : (History.execute c).run (s.history, s.store) = .error error result) :
    ∃ reason, error = .writeFailed reason
  undo {error : StoreError} {result : History × Store}
    (h : History.undo.run (s.history, s.store) = .error error result) :
    ∃ reason, error = .writeFailed reason
  redo {error : StoreError} {result : History × Store}
    (h : History.redo.run (s.history, s.store) = .error error result) :
    ∃ reason, error = .writeFailed reason

theorem onlySavingFails (h : OnTimeline M₀ s) : OnlySavingFails s where
  execute {text now c error result} hread hexecute := by
    cases hrun : c.run.run s.store with
    | ok _ store =>
      rw [History.execute_ok hrun] at hexecute
      cases hexecute
    | error error' store =>
      rw [History.execute_error hrun] at hexecute
      cases hexecute
      exact Command.error_of_run (Action.fits_of_ofText hread) hrun
  undo {error result} hundo := by
    obtain ⟨store, ⟨done, undone⟩, implicitAdd⟩ := s
    cases done with
    | nil => cases hundo
    | cons c rest =>
      cases hrun : c.undo.run store with
      | ok _ store' =>
        rw [History.undo_ok hrun] at hundo
        cases hundo
      | error error' store' =>
        rw [History.undo_error hrun] at hundo
        cases hundo
        exact Command.error_of_undo (h.fits_done rfl).2.1 (h.bag_done rfl) hrun
  redo {error result} hredo := by
    obtain ⟨store, ⟨done, undone⟩, implicitAdd⟩ := s
    cases undone with
    | nil => cases hredo
    | cons c rest =>
      cases hrun : c.run.run store with
      | ok _ store' =>
        rw [History.redo_ok hrun] at hredo
        cases hredo
      | error error' store' =>
        rw [History.redo_error hrun] at hredo
        cases hredo
        exact Command.error_of_run (h.fits_undone rfl) hrun

/-- Lines make the moves that they ask for, if there is something to undo or to redo. -/
structure MovesAsAsked (s : Session) : Prop where
  executed {text : String} {now : DateTime} {c : Command}
    (hread : Action.ofText s.implicitAdd s.store.list text now = .read (.execute c)) :
    s.move? text now = some (.executed c)
  undid {text : String} {now : DateTime}
    (hread : Action.ofText s.implicitAdd s.store.list text now = .read .undo)
    (hdone : s.history.done ≠ []) : s.move? text now = some .undid
  redid {text : String} {now : DateTime}
    (hread : Action.ofText s.implicitAdd s.store.list text now = .read .redo)
    (hundone : s.history.undone ≠ []) : s.move? text now = some .redid

/-- **Where saving works, every move that is asked for is made.** -/
theorem movesAsAsked (h : OnTimeline M₀ s) (hworks : s.store.repository.Works) :
    MovesAsAsked s where
  executed {text now c} hread := by
    obtain ⟨l, happly, -⟩ := Command.run_apply (Action.fits_of_ofText hread)
    obtain ⟨store, hrun, -⟩ := Store.exists_transaction_ok hworks happly
    exact (move?_of_execute hread hrun).1
  undid {text now} hread hdone := by
    obtain ⟨c, rest, hdone⟩ := List.exists_cons_of_ne_nil hdone
    -- the latest command has led to the present bag, so it can be taken back
    obtain ⟨l, hrevert, -⟩ := Command.run_revert (h.fits_done hdone).2.1 (h.bag_done hdone)
    obtain ⟨store, hrun, -⟩ := Store.exists_transaction_ok hworks hrevert
    exact (move?_of_undo hread hdone hrun).1
  redid {text now} hread hundone := by
    obtain ⟨c, rest, hundone⟩ := List.exists_cons_of_ne_nil hundone
    obtain ⟨l, happly, -⟩ := Command.run_apply (h.fits_undone hundone)
    obtain ⟨store, hrun, -⟩ := Store.exists_transaction_ok hworks happly
    exact (move?_of_redo hread hundone hrun).1

/-- Where saving works, a word that asks for a move is answered by that move as often as there is a
command on the stack from which the move takes one. -/
theorem moves_of_word {word : String} {move : Move} {stack : History → List Command}
    (hasked : ∀ {s : Session}, MovesAsAsked s → stack s.history ≠ [] →
      ∀ now, s.move? word now = some move)
    (htakes : ∀ {h h' : History}, History.Moved (some move) h h' →
      (stack h).length = (stack h').length + 1)
    (h : OnTimeline M₀ s) (hworks : s.store.repository.Works) (times : List DateTime)
    (hle : times.length ≤ (stack s.history).length) :
    s.moves (times.map (.line word)) = List.replicate times.length move := by
  induction times generalizing s with
  | nil => rfl
  | cons now rest ih =>
    rw [List.length_cons] at hle
    have hne : stack s.history ≠ [] := List.ne_nil_of_length_pos (by omega)
    have hmove := hasked (movesAsAsked h hworks) hne now
    -- the move has taken one command, and saving still works after it
    have hmoved := moved_step s (.line word now)
    rw [Event.move?, hmove] at hmoved
    have hlength := htakes hmoved
    have hrest := ih (onTimeline_step h (.line word now)) (works_step hworks word now) (by omega)
    rw [List.map_cons, moves_cons_of_move? hmove, hrest, List.length_cons, List.replicate_succ]

/-- New commands followed by as many undos bring back the bag from before them, and as many redos
after that the bag from after them. Lines without a move may stand anywhere between. -/
theorem bag_after_undos_and_redos (h : OnTimeline M₀ s) {cs : List Command}
    {first second third : List Event} (hexecuted : s.moves first = cs.map .executed)
    (hundid : (s.after first).moves second = List.replicate cs.length .undid) :
    ((s.after first).after second).store.list.bag = s.store.list.bag ∧
      (((s.after first).after second).moves third = List.replicate cs.length .redid →
        (((s.after first).after second).after third).store.list.bag
          = (s.after first).store.list.bag) := by
  have h₁ := onTimeline_after h first
  have h₂ := onTimeline_after h₁ second
  have h₃ := onTimeline_after h₂ third
  have hmoved₁ := movedBy_after s first
  have hmoved₂ := movedBy_after (s.after first) second
  rw [hexecuted] at hmoved₁
  rw [hundid] at hmoved₂
  have hdone₁ := hmoved₁.done_of_executed
  obtain ⟨ds, hds, hdone₂, hundone₂⟩ := hmoved₂.exists_of_undid
  -- what was undone is what was executed
  rw [hdone₁] at hdone₂
  obtain ⟨hcs, hback⟩ := List.append_inj hdone₂ (by rw [List.length_reverse, hds])
  refine ⟨?_, fun hredid => ?_⟩
  · rw [h₂.bag_eq, h.bag_eq, hback]
  · have hmoved₃ := movedBy_after ((s.after first).after second) third
    rw [hredid] at hmoved₃
    obtain ⟨es, hes, hundone₃, hdone₃⟩ := hmoved₃.exists_of_redid
    rw [hundone₂] at hundone₃
    obtain ⟨hes', -⟩ := List.append_inj hundone₃ (by rw [List.length_reverse, hds, hes])
    rw [h₃.bag_eq, h₁.bag_eq, hdone₃, hdone₁, hback, ← hes', List.reverse_reverse, hcs]

/-- **Undo and redo are exact over whole sessions.** Whatever lines are given to a session that
begins with some list, and whichever saves fail: the bag of tasks is the first one with the effects
of the commands that can be undone, undo and redo move one command along the timeline, and no
command misses a task. Where saving works, a line makes the move that it asks for, and all the
commands on a stack can be moved one after the other. As many undos as new commands take these back,
and as many redos carry them out again. -/
theorem after_keeps_timeline (store : Store) (implicitAdd : Bool) (events : List Event) :
    let s := ({ store, implicitAdd } : Session).after events
    s.store.list.bag = Command.effects s.history.done.reverse store.list.bag ∧
    Command.FitInOrder s.history.timeline store.list.bag ∧
    (∀ event, History.Moved (event.move? s) s.history (s.step event).history) ∧
    OnlySavingFails s ∧
    (s.store.repository.Works → MovesAsAsked s ∧ ∀ times : List DateTime,
      (times.length ≤ s.history.done.length →
        s.moves (times.map (.line "undo")) = List.replicate times.length .undid) ∧
      (times.length ≤ s.history.undone.length →
        s.moves (times.map (.line "redo")) = List.replicate times.length .redid)) ∧
    ∀ (cs : List Command) (first second third : List Event),
      s.moves first = cs.map .executed →
      (s.after first).moves second = List.replicate cs.length .undid →
      ((s.after first).after second).store.list.bag = s.store.list.bag ∧
        (((s.after first).after second).moves third = List.replicate cs.length .redid →
          (((s.after first).after second).after third).store.list.bag
            = (s.after first).store.list.bag) := by
  intro s
  have hstart : OnTimeline store.list.bag { store, implicitAdd } := ⟨rfl, trivial⟩
  have h : OnTimeline store.list.bag s := onTimeline_after hstart events
  refine ⟨h.bag_eq, h.fits, moved_step s, onlySavingFails h, fun hworks => ?_, ?_⟩
  · refine ⟨movesAsAsked h hworks, fun times => ?_⟩
    exact ⟨moves_of_word (fun hasked hne _ => hasked.undid (ofText_undo _ _) hne)
        History.Moved.length_of_undid h hworks times,
      moves_of_word (fun hasked hne _ => hasked.redid (ofText_redo _ _) hne)
        History.Moved.length_of_redid h hworks times⟩
  · intro cs first second third hexecuted hundid
    exact bag_after_undos_and_redos h hexecuted hundid

/-- Two commands in memory, an addition and a mark, are undone and then carried out again. -/
theorem milk_there_and_back :
    let bread : Task := { description := "bread" }
    let milk : Task := { description := "milk" }
    let s : Session :=
      { store := { list := { tasks := [bread] }, repository := .memory [bread] false } }
    let first : List Event := [.line "add milk" someDay, .line "done 2" someDay]
    let second : List Event := [.line "undo" someDay, .line "undo" someDay]
    let third : List Event := [.line "redo" someDay, .line "redo" someDay]
    s.moves first = [.executed (.add milk), .executed (.mark [⟨1, milk⟩] true)] ∧
      (s.after first).store.list.bag = [bread, { milk with done := true }] ∧
      (s.after first).moves second = [.undid, .undid] ∧
      ((s.after first).after second).store.list.bag = [bread] ∧
      ((s.after first).after second).moves third = [.redid, .redid] ∧
      (((s.after first).after second).after third).store.list.bag
        = [bread, { milk with done := true }] := by
  intro bread milk s first second third
  have hreadAdd : Action.ofText false { tasks := [{ description := "bread" }] } "add milk" someDay
      = .read (.execute (.add { description := "milk" })) := by decide +kernel
  have hreadMark : Action.ofText false
      { tasks := [{ description := "bread" }, { description := "milk" }],
        added := [{ description := "milk" }] } "done 2" someDay
      = .read (.execute (.mark [⟨1, { description := "milk" }⟩] true)) := by decide +kernel
  have hpush : (Command.add milk).apply.run { tasks := [bread] }
      = .ok () { tasks := [bread, milk], added := [milk] } := rfl
  obtain ⟨hadd, hadded⟩ := (working_inMemory [bread]).step hreadAdd hpush
  rw [TaskList.sorted, saveOrder_breadAndMilk] at hadded
  obtain ⟨l, hswap, hbag⟩ := Command.run_apply (Action.fits_of_ofText hreadMark)
  obtain ⟨hmark, hmarked⟩ := hadded.step hreadMark hswap
  have hfirst : s.moves first = [.executed (.add milk), .executed (.mark [⟨1, milk⟩] true)] := by
    rw [moves_cons_of_move? hadd, moves_cons_of_move? hmark]
    rfl
  have hmarkedBag : (s.after first).store.list.bag = [bread, { milk with done := true }] := by
    show ((s.step (.line "add milk" someDay)).step (.line "done 2" someDay)).store.list.bag = _
    rw [hmarked.list, TaskList.bag_sorted, hbag]
    decide
  have hdone : (s.after first).history.done = [.mark [⟨1, milk⟩] true, .add milk] :=
    congrArg History.done hmarked.history
  -- both undos are made, and they leave both commands to be carried out again
  obtain ⟨-, -, -, -, hmoves, -⟩ := after_keeps_timeline s.store false first
  have hsecond : (s.after first).moves second = [.undid, .undid] :=
    ((hmoves hmarked.works).2 [someDay, someDay]).1 (by rw [hdone]; exact le_rfl)
  have hundone : 2 ≤ ((s.after first).after second).history.undone.length := by
    have hmoved := movedBy_after (s.after first) second
    rw [hsecond] at hmoved
    obtain ⟨ds, hlength, -, hundone⟩ :=
      History.MovedBy.exists_of_undid
        (show History.MovedBy (List.replicate 2 .undid) _ _ from hmoved)
    rw [hundone, List.length_append, List.length_reverse, hlength]
    exact Nat.le_add_right 2 _
  have hworks : ((s.after first).after second).store.repository.Works :=
    works_after hmarked.works [("undo", someDay), ("undo", someDay)]
  obtain ⟨-, -, -, -, hmoves', -⟩ := after_keeps_timeline s.store false (first ++ second)
  rw [after_append] at hmoves'
  have hthird : ((s.after first).after second).moves third = [.redid, .redid] :=
    ((hmoves' hworks).2 [someDay, someDay]).2 hundone
  obtain ⟨-, -, -, -, -, hexact⟩ := after_keeps_timeline s.store false []
  obtain ⟨hback, hagain⟩ := hexact [.add milk, .mark [⟨1, milk⟩] true] first second third hfirst
    hsecond
  exact ⟨hfirst, hmarkedBag, hsecond, hback, hthird, (hagain hthird).trans hmarkedBag⟩

end Session

end Agenda
