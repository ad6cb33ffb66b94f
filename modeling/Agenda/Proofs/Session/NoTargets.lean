import Agenda.Proofs.Session.Newest

/-!
# Lines that name no task

A line that removes or marks tasks is refused when nothing follows its verb, so that no command
without targets comes about. But a list of commas and blanks names nothing either, and it is not
refused: `named_nothing` says that such lines, and no others, ask for a command on no task. It is
carried out like any other. The list is only put in order, the user reads that no task has been
removed or marked, the command can be undone, and what could be redone is lost.
-/

namespace Agenda

open Text

/-- A command of a kind that names tasks, without any. -/
def Command.IsIdle : Command → Prop
  | add _ => False
  | remove targets => targets = []
  | edit revisions => revisions = []
  | mark targets _ => targets = []
  | clear _ => False

/-- The verbs that are followed by ids only: the command of each on no tasks, and the refusal of a
line that does not go on after the verb. -/
def Verb.idle? : Verb → Option (Command × Refusal)
  | remove => some (.remove [], .noIdToRemove)
  | done => some (.mark [] true, .noIdToMark)
  | undone => some (.mark [] false, .noIdToUnmark)
  | _ => none

/-- A line has a verb that is followed by ids only, and no id. -/
structure Line.IsIdle (line : Line) (c : Command) (cause : Refusal) : Prop where
  verb : line.verb?.bind Verb.idle? = some (c, cause)
  nothing : IdList.NamesNothing line.argument

/-! ### Readings -/

namespace Action

variable {l : TaskList} {text argument : String} {now : DateTime} {c : Command} {cause : Refusal}
  {implicitAdd : Bool}

theorem targets_of_namesNothing (h : IdList.NamesNothing argument) :
    targets l argument = .ok [] := by
  unfold targets
  rw [IdList.resolve_eq_nil_iff.mpr h]
  rfl

/-- A line without ids is refused if it ends with its verb, and else asks for a command on no
task. -/
theorem ofText_of_isIdle (h : (Line.ofText text).IsIdle c cause) :
    ofText implicitAdd l text now =
      if (Line.ofText text).argument = "" then .refused cause else .read (.execute c) := by
  obtain ⟨hverb, hnothing⟩ := h
  obtain ⟨verb, hverb, hidle⟩ := Option.bind_eq_some_iff.mp hverb
  have htargets : targets l (Line.ofText text).argument = .ok [] :=
    targets_of_namesNothing hnothing
  rw [ofText_of_verb implicitAdd hverb]
  generalize (Line.ofText text).argument = argument at htargets
  cases verb <;> cases hidle <;> dsimp only [ofVerb, remove, mark]
  all_goals
    split
    · rfl
    · rw [htargets]
      rfl

theorem namesNothing_of_named (h : l.Named argument []) : IdList.NamesNothing argument :=
  IdList.resolve_eq_nil_iff.mp h.resolve

/-- The ids at the beginning of a text are more than commas and blanks. -/
theorem not_namesNothing_of_idListStart? {ids rest : List Char}
    (h : idListStart? rest = some ids) : ¬IdList.NamesNothing (String.ofList ids) := by
  intro hnothing
  unfold idListStart? at h
  dsimp only at h
  split at h
  · cases h
  rename_i hne
  cases h
  obtain ⟨c, cs, hfirst⟩ := List.exists_cons_of_ne_nil hne
  have hword : isWordChar c = true :=
    List.mem_takeWhile_imp (hfirst ▸ List.mem_cons_self .. : c ∈ rest.takeWhile isWordChar)
  rw [hfirst, IdList.NamesNothing, String.toList_ofList] at hnothing
  rcases hnothing c (List.mem_cons_self ..) with rfl | hblank
  · revert hword
    decide +kernel
  · rw [not_blank_of_isWordChar hword] at hblank
    cases hblank

/-- **Only lines without ids ask for a command on no task**, and they do not end with the verb. -/
theorem isIdle_of_ofText (hidle : c.IsIdle)
    (h : ofText implicitAdd l text now = .read (.execute c)) :
    (Line.ofText text).argument ≠ "" ∧ ∃ cause, (Line.ofText text).IsIdle c cause := by
  rcases command_cases h with ⟨_, h⟩ | ⟨-, h⟩ | ⟨hverb, h⟩ | ⟨done, hverb, h⟩ | rfl
  · obtain ⟨_, _, _, -, -, -, rfl⟩ := add_spec h
    cases hidle
  · -- the list of an edit begins with an id, so it names something
    obtain ⟨ids, _, _, targets, revisions, hids, hnamed, -, -, hedits, rfl⟩ := edit_spec h
    obtain rfl : revisions = [] := hidle
    obtain rfl : targets = [] := List.map_eq_nil_iff.mp (map_before_of_edits hedits).symm
    exact absurd (namesNothing_of_named hnamed) (not_namesNothing_of_idListStart? hids)
  · have hne : (Line.ofText text).argument ≠ "" := by
      intro hempty
      rw [hempty] at h
      cases h
    obtain ⟨targets, hnamed, rfl⟩ := remove_spec h
    obtain rfl : targets = [] := hidle
    exact ⟨hne, _, by rw [hverb]; rfl, namesNothing_of_named hnamed⟩
  · have hne : (Line.ofText text).argument ≠ "" := by
      intro hempty
      rw [hempty] at h
      cases h
    obtain ⟨targets, hnamed, rfl⟩ := mark_spec h
    obtain rfl : targets = [] := hidle
    refine ⟨hne, if done then .noIdToMark else .noIdToUnmark, ?_, namesNothing_of_named hnamed⟩
    rw [hverb]
    cases done <;> rfl
  · cases hidle

end Action

/-! ### Sessions -/

theorem Line.IsIdle.command {line : Line} {c : Command} {cause : Refusal}
    (h : line.IsIdle c cause) : c.IsIdle := by
  obtain ⟨verb, -, hidle⟩ := Option.bind_eq_some_iff.mp h.verb
  cases verb <;> cases hidle <;> exact rfl

theorem Command.apply_of_isIdle {c : Command} (h : c.IsIdle) (l : TaskList) :
    c.apply.run l = .ok () l := by
  cases c with
  | add task => cases h
  | clear tasks => cases h
  | remove targets | edit revisions | mark targets done =>
    cases h
    rfl

namespace Session

variable {text : String} {c : Command} {cause : Refusal}

/-- What a line without ids does: it is refused if it ends with its verb. Else, where saving works,
it succeeds, its command is the next one to be undone, and nothing can be redone any more. -/
theorem run_of_isIdle (s : Session) (now : DateTime) (h : (Line.ofText text).IsIdle c cause) :
    ((Line.ofText text).argument = "" → s.run text now = some (failure cause.message, s)) ∧
    ((Line.ofText text).argument ≠ "" → s.store.repository.Works →
      ∃ store, s.run text now = some (⟨.success, c.confirmation, none⟩,
          { s with history := ⟨c :: s.history.done, []⟩, store }) ∧
        store.list.tasks = saveOrder s.store.list.tasks) := by
  have hread : Action.ofText s.implicitAdd s.store.list text now = _ := Action.ofText_of_isIdle h
  refine ⟨fun hempty => ?_, fun hne hworks => ?_⟩
  · rw [if_pos hempty] at hread
    unfold run
    rw [hread]
  · rw [if_neg hne] at hread
    obtain ⟨repository, hsave⟩ := hworks s.store.list.sorted.tasks
    have hrun := Store.transaction_ok (Command.apply_of_isIdle h.command s.store.list) hsave
    exact ⟨_, run_of_execute hread hrun, rfl⟩

/-- **The lines that ask for a command on no task** are those that remove or mark a list of commas
and blanks which is not empty; an edit has always targets. When such a line is run and saving works,
the command is carried out and recorded as any other, and what could be redone is dropped. Only a
line that ends with its verb is refused for having no ids. -/
theorem named_nothing (s : Session) (text : String) (now : DateTime) :
    (∀ c, c.IsIdle →
      (Action.ofText s.implicitAdd s.store.list text now = .read (.execute c) ↔
        (Line.ofText text).argument ≠ "" ∧ ∃ cause, (Line.ofText text).IsIdle c cause)) ∧
    ∀ c cause, (Line.ofText text).IsIdle c cause →
      ((Line.ofText text).argument = "" → s.run text now = some (failure cause.message, s)) ∧
      ((Line.ofText text).argument ≠ "" → s.store.repository.Works →
        ∃ store, s.run text now = some (⟨.success, c.confirmation, none⟩,
            { s with history := ⟨c :: s.history.done, []⟩, store }) ∧
          store.list.tasks = saveOrder s.store.list.tasks) := by
  refine ⟨fun c hidle => ⟨Action.isIdle_of_ofText hidle, ?_⟩,
    fun c cause h => run_of_isIdle s now h⟩
  rintro ⟨hne, cause, h⟩
  rw [Action.ofText_of_isIdle h, if_neg hne]

/-- Marking commas is confirmed, and the addition that was taken back cannot be redone. Without the
commas the line is refused. -/
theorem commas_marked_as_done :
    let bread : Task := { description := "bread" }
    let s : Session :=
      { store := { list := { tasks := [bread] }, repository := .memory [bread] false }
        history := ⟨[], [.add { description := "milk" }]⟩ }
    (∃ store, s.run "done , ," someDay = some (⟨.success, "Marked 0 tasks as done.", none⟩,
        { store, history := ⟨[.mark [] true], []⟩ }) ∧ store.list.tasks = [bread]) ∧
      s.run "done" someDay = some (failure "You need to tell me what to mark as done.", s) := by
  intro bread s
  have hline : Line.ofText "done , ," = ⟨"done", ", ,", "done , ,"⟩ := by decide +kernel
  have hcut : Line.ofText "done" = ⟨"done", "", "done"⟩ := by decide +kernel
  have hidle : (Line.ofText "done , ,").IsIdle (.mark [] true) .noIdToMark := by
    rw [hline]
    exact ⟨rfl, by decide⟩
  have hidle' : (Line.ofText "done").IsIdle (.mark [] true) .noIdToMark := by
    rw [hcut]
    exact ⟨rfl, by decide⟩
  have hargument : (Line.ofText "done , ,").argument ≠ "" := by
    rw [hline]
    decide
  have hargument' : (Line.ofText "done").argument = "" := by
    rw [hcut]
  obtain ⟨-, hruns⟩ := named_nothing s "done , ," someDay
  obtain ⟨-, hruns'⟩ := named_nothing s "done" someDay
  obtain ⟨store, hrun, htasks⟩ :=
    (hruns _ _ hidle).2 hargument (Repository.works_memory [bread])
  have hsorted : saveOrder [bread] = [bread] :=
    saveOrder_of_pairwise (List.pairwise_singleton ..) (List.pairwise_singleton ..)
      (List.pairwise_singleton ..)
  exact ⟨⟨store, hrun, htasks.trans hsorted⟩, (hruns' _ _ hidle').1 hargument'⟩

/-- After an addition has been taken back, a line that removes a comma loses it. -/
theorem addition_lost_to_comma :
    let start : Session :=
      { store := { list := { tasks := [] }, repository := .memory [] false } }
    let s := start.after [.line "add milk" someDay, .line "undo" someDay]
    s.history.undone = [.add { description := "milk" }] ∧
      (∀ c ∈ (Line.ofText "remove ,").argument.toList, isWordChar c = false) ∧
      Action.ofText s.implicitAdd s.store.list "remove ," someDay
        = .read (.execute (.remove [])) ∧
      ∃ s', s.run "remove ," someDay = some (⟨.success, "Removed 0 tasks.", none⟩, s') ∧
        s'.history = ⟨[.remove []], []⟩ := by
  intro start s
  have hstart : Working start { tasks := [] } {} := working_inMemory []
  have hadd : Action.ofText false { tasks := [] } "add milk" someDay
      = .read (.execute (.add { description := "milk" })) := by decide +kernel
  obtain ⟨hadded, hundid⟩ := hstart.undo hadd someDay
  have hran := ran_of_move? hadded
  have hran' := ran_of_move? hundid
  have hs : s = (start.step (.line "add milk" someDay)).step (.line "undo" someDay) := rfl
  rw [← hs] at hran'
  clear_value s
  generalize start.step (.line "add milk" someDay) = s₁ at hran hran'
  have hline : Line.ofText "remove ," = ⟨"remove", ",", "remove ,"⟩ := by decide +kernel
  have hidle : (Line.ofText "remove ,").IsIdle (.remove []) .noIdToRemove := by
    rw [hline]
    exact ⟨rfl, by decide⟩
  have hne : (Line.ofText "remove ,").argument ≠ "" := by
    rw [hline]
    decide
  cases hran with
  | @executed _ store _ hrun =>
    cases hran' with
    | @undid _ _ store' hdone hundo =>
      cases hdone
      -- saving has worked for both lines, so it still does
      have hworks : store'.repository.Works := Store.works_of_transaction_ok hundo
      refine ⟨rfl, ?_, ?_, ?_⟩
      · intro c hc
        rw [hline] at hc
        obtain rfl : c = ',' := List.mem_singleton.mp hc
        decide +kernel
      · rw [Action.ofText_of_isIdle hidle, if_neg hne]
      · have hruns := run_of_isIdle
          ⟨store', ⟨[], [.add { description := "milk" }]⟩, false⟩ someDay hidle
        obtain ⟨_, hremoved, -⟩ := hruns.2 hne hworks
        exact ⟨_, hremoved, rfl⟩

end Session

end Agenda
