import Agenda.Language.Action
import Agenda.Proofs.Command.Balance
import Agenda.Proofs.Language.IdList
import Mathlib.Data.List.Forall2

/-!
# The commands that lines ask for

`command_cases` lists the five ways in which a line can ask for a command, and the lemmas after it
say for each of them what the command holds. Commands that name tasks hold them as they are in the
list, at ascending positions (`TaskList.Captured`), which are those of the ids in the line
(`TaskList.Named`). So the tasks make up a sublist of the list (`Captured.sublist`) and the command
fits the list (`fits_of_ofText`). For edits, `AsksForEdit` says what is known from the text before
any task is edited, and `edit_of_asksForEdit` that only the edits themselves can fail then.
-/

namespace Agenda

open scoped List

/-- Targets at ascending positions of a list, with the tasks that are there. -/
structure TaskList.Captured (l : TaskList) (targets : List Target) : Prop where
  ascending : targets.Pairwise (·.position < ·.position)
  get? : ∀ target ∈ targets, l.get? target.position = some target.task

/-- Targets captured from a list are those that a text of ids names, which count from one. -/
structure TaskList.Named (l : TaskList) (ids : String) (targets : List Target) : Prop
    extends l.Captured targets where
  resolve : IdList.resolve ids l.idScope = .ok (targets.map (·.position + 1))

theorem TaskList.Captured.lt_size {l : TaskList} {targets : List Target} (h : l.Captured targets) :
    ∀ target ∈ targets, target.position < l.size := by
  intro target htarget
  exact (List.getElem?_eq_some_iff.mp (h.get? target htarget)).1

/-- Tasks at ascending positions, none of them before `start`, make up a sublist. -/
theorem sublist_drop_of_ascending {tasks : List Task} {targets : List Target} (start : ℕ)
    (ascending : targets.Pairwise (·.position < ·.position))
    (hget : ∀ target ∈ targets, tasks[target.position]? = some target.task)
    (hstart : ∀ target ∈ targets, start ≤ target.position) :
    (targets.map (·.task)).Sublist (tasks.drop start) := by
  induction targets generalizing start with
  | nil => exact List.nil_sublist _
  | cons target rest ih =>
    obtain ⟨hlt, hrest⟩ := List.pairwise_cons.mp ascending
    -- the first target stands at its position, and all others behind it
    obtain ⟨hpos, htask⟩ := List.getElem?_eq_some_iff.mp (hget target (List.mem_cons_self ..))
    have hsub := ih (target.position + 1) hrest
      (fun t ht => hget t (List.mem_cons_of_mem _ ht)) (fun t ht => hlt t ht)
    have hdrop : tasks.drop target.position
        = target.task :: tasks.drop (target.position + 1) := by
      rw [List.drop_eq_getElem_cons hpos, htask]
    rw [List.map_cons]
    calc (target.task :: rest.map (·.task))
        <+ target.task :: tasks.drop (target.position + 1) := hsub.cons_cons _
      _ = tasks.drop target.position := hdrop.symm
      _ <+ tasks.drop start :=
        List.drop_sublist_drop_left tasks (hstart target (List.mem_cons_self ..))

theorem TaskList.Captured.sublist {l : TaskList} {targets : List Target}
    (h : l.Captured targets) : (targets.map (·.task)).Sublist l.tasks :=
  sublist_drop_of_ascending 0 h.ascending h.get? fun _ _ => Nat.zero_le _

/-- The tasks captured from a list are in its bag, each as often as it was captured. -/
theorem TaskList.Captured.le_bag {l : TaskList} {targets : List Target}
    (h : l.Captured targets) : (targets.map (·.task) : Multiset Task) ≤ l.bag :=
  Multiset.coe_le.mpr h.sublist.subperm

namespace Action

variable {l : TaskList} {text argument : String} {now : DateTime} {c : Command}

/-! ### Naming tasks -/

theorem targetsAt_spec {ids : List ℕ} {targets : List Target} (h : targetsAt l ids = .ok targets) :
    targets.map (·.position) = ids.map (· - 1) ∧
      ∀ target ∈ targets, l.get? target.position = some target.task := by
  induction ids generalizing targets with
  | nil =>
    injection h with h
    rw [← h]
    simp
  | cons id rest ih =>
    unfold targetsAt at h
    split at h
    · cases h
    rename_i task htask
    split at h
    · cases h
    rename_i more hmore
    injection h with h
    rw [← h]
    obtain ⟨hpos, hget⟩ := ih hmore
    refine ⟨by simp [hpos], ?_⟩
    intro target htarget
    rcases List.mem_cons.mp htarget with rfl | htarget
    · exact htask
    · exact hget target htarget

/-- Captured targets are found again at their ids. -/
theorem targetsAt_of_captured {targets : List Target} (h : l.Captured targets) :
    targetsAt l (targets.map (·.position + 1)) = .ok targets := by
  have hget := h.get?
  clear h
  induction targets with
  | nil => rfl
  | cons target rest ih =>
    obtain ⟨hhead, hrest⟩ := List.forall_mem_cons.mp hget
    rw [List.map_cons, targetsAt, Nat.add_sub_cancel, hhead, ih hrest]

/-- The targets of resolved ids are captured from the list, and they are those that are named. -/
theorem named_targetsAt {ids : List ℕ} {targets : List Target}
    (hids : IdList.resolve text l.idScope = .ok ids) (h : targetsAt l ids = .ok targets) :
    l.Named text targets := by
  obtain ⟨hpos, hget⟩ := targetsAt_spec h
  have hbounds := IdList.bounds_of_mem_resolve hids
  -- ids count from one, so taking one away keeps them apart
  have hlt : (ids.map (· - 1)).Pairwise (· < ·) := by
    rw [List.pairwise_map]
    refine (IdList.pairwise_resolve hids).imp_of_mem ?_
    intro i j hi hj hij
    have := hbounds i hi
    omega
  have hback : targets.map (·.position + 1) = ids := by
    calc targets.map (·.position + 1)
        = (targets.map (·.position)).map (· + 1) := by rw [List.map_map]; rfl
      _ = ids.map fun id => id - 1 + 1 := by rw [hpos, List.map_map]; rfl
      _ = ids.map id := by
        refine List.map_congr_left fun id hid => ?_
        have := hbounds id hid
        show id - 1 + 1 = id
        omega
      _ = ids := List.map_id ids
  rw [← hpos, List.pairwise_map] at hlt
  exact ⟨⟨hlt, hget⟩, by rw [hids, hback]⟩

theorem named_targets {targets : List Target} (h : Action.targets l text = .ok targets) :
    l.Named text targets := by
  unfold Action.targets at h
  cases hids : IdList.resolve text l.idScope with
  | error cause => simp [hids, bind, Except.bind] at h
  | ok ids =>
    simp only [hids, bind, Except.bind] at h
    exact named_targetsAt hids h

theorem edits_spec {body : Body} {period : Option Period} {targets : List Target}
    {revisions : List Revision} (h : edits body period targets = .ok revisions) :
    List.Forall₂ (fun (target : Target) (r : Revision) =>
      r.position = target.position ∧ r.before = target.task ∧
        edited target.task body period = .ok r.after) targets revisions := by
  induction targets generalizing revisions with
  | nil =>
    injection h with h
    rw [← h]
    exact .nil
  | cons target rest ih =>
    unfold edits at h
    split at h
    · cases h
    rename_i after hafter
    split at h
    · cases h
    rename_i more hmore
    injection h with h
    rw [← h]
    exact .cons ⟨rfl, rfl, hafter⟩ (ih hmore)

/-! ### Kinds of commands -/

theorem ofText_of_verb {verb : Verb} (implicitAdd : Bool)
    (h : (Line.ofText text).verb? = some verb) :
    ofText implicitAdd l text now = ofVerb verb l (Line.ofText text).argument now := by
  unfold ofText
  dsimp only
  rw [h]

/-- **A line that asks for a command asks for an addition, an edit, a removal, a mark or for
clearing the list**, and it names tasks only in the argument of its verb. -/
theorem command_cases {implicitAdd : Bool}
    (h : ofText implicitAdd l text now = .read (.execute c)) :
    (∃ argument, add argument now = .read c) ∨
    ((Line.ofText text).verb? = some .edit ∧ edit l (Line.ofText text).argument now = .read c) ∨
    ((Line.ofText text).verb? = some .remove ∧ remove l (Line.ofText text).argument = .ok c) ∨
    (∃ done, (Line.ofText text).verb? = some (if done then .done else .undone) ∧
      mark l (Line.ofText text).argument done = .ok c) ∨
    c = .clear l.tasks := by
  unfold ofText at h
  simp only at h
  split at h
  · rename_i verb hverb
    cases verb <;> simp only [ofVerb, Reading.map_eq_read_iff, Reading.ofExcept_eq_read_iff,
      Action.execute.injEq, exists_eq_right, Reading.read.injEq, reduceCtorEq, and_false,
      exists_false] at h
    · exact Or.inl ⟨_, h⟩
    · exact Or.inr (Or.inl ⟨hverb, h⟩)
    · exact Or.inr (Or.inr (Or.inl ⟨hverb, h⟩))
    · exact Or.inr (Or.inr (Or.inr (Or.inl ⟨true, hverb, h⟩)))
    · exact Or.inr (Or.inr (Or.inr (Or.inl ⟨false, hverb, h⟩)))
    · exact Or.inr (Or.inr (Or.inr (Or.inr h.symm)))
  -- without a verb a line can only be an addition
  · split at h
    · simp only [Reading.map_eq_read_iff, Action.execute.injEq, exists_eq_right] at h
      exact Or.inl ⟨_, h⟩
    · cases h

theorem add_spec (h : add argument now = .read c) :
    ∃ body task period, Body.ofText argument = .ok body ∧ newTask body = .ok task ∧
      Period.ofSegments body.times now = .read period ∧ c = .add (withPeriod task period) := by
  simp only [add, Reading.bind_eq_read_iff, Reading.ofExcept_eq_read_iff, Reading.pure_eq_read,
    Reading.read.injEq] at h
  obtain ⟨body, hbody, task, htask, period, hperiod, hc⟩ := h
  exact ⟨body, task, period, hbody, htask, hperiod, hc.symm⟩

/-- What a text asks for as an edit: the targets that the ids at its beginning name, and the body
and the period that the rest of it describes. -/
def AsksForEdit (l : TaskList) (text : String) (now : DateTime) (targets : List Target)
    (body : Body) (period : Option Period) : Prop :=
  ∃ ids, idListStart? text.toList = some ids ∧ l.Named (String.ofList ids) targets ∧
    Body.ofText (String.ofList (Text.trim (text.toList.drop ids.length))) = .ok body ∧
    body.isEmpty = false ∧ Period.ofSegments body.times now = .read period

/-- Nothing but the edits themselves is left to fail once it is known what is asked for. -/
theorem edit_of_asksForEdit {targets : List Target} {body : Body} {period : Option Period}
    (h : AsksForEdit l text now targets body period) :
    edit l text now = .ofExcept ((edits body period targets).map .edit) := by
  obtain ⟨ids, hids, hnamed, hbody, hempty, hperiod⟩ := h
  have hresolve := hnamed.resolve
  have htargets := targetsAt_of_captured hnamed.toCaptured
  unfold edit
  simp only [hids, hresolve, hbody, hempty, hperiod, htargets, Reading.ofExcept, Reading.read_bind,
    if_neg Bool.false_ne_true]
  cases edits body period targets <;> rfl

theorem exists_of_edit (h : edit l text now = .read c) :
    ∃ targets body period revisions, AsksForEdit l text now targets body period ∧
      edits body period targets = .ok revisions ∧ c = .edit revisions := by
  unfold edit at h
  split at h
  · cases h
  rename_i ids hids
  simp only [Reading.bind_eq_read_iff, Reading.ofExcept_eq_read_iff] at h
  obtain ⟨named, hnamed, body, hbody, h⟩ := h
  split at h
  · cases h
  rename_i hempty
  simp only [Reading.bind_eq_read_iff, Reading.ofExcept_eq_read_iff, Reading.pure_eq_read,
    Reading.read.injEq] at h
  obtain ⟨period, hperiod, targets, htargets, revisions, hrevisions, hc⟩ := h
  have hasks : AsksForEdit l text now targets body period :=
    ⟨ids, hids, named_targetsAt hnamed htargets, hbody, Bool.eq_false_iff.mpr hempty, hperiod⟩
  exact ⟨targets, body, period, revisions, hasks, hrevisions, hc.symm⟩

theorem edit_spec (h : edit l argument now = .read c) :
    ∃ ids body period targets revisions, idListStart? argument.toList = some ids ∧
      l.Named (String.ofList ids) targets ∧
      Body.ofText (String.ofList (Text.trim (argument.toList.drop ids.length))) = .ok body ∧
      Period.ofSegments body.times now = .read period ∧
      edits body period targets = .ok revisions ∧ c = .edit revisions := by
  obtain ⟨targets, body, period, revisions, ⟨ids, hids, hnamed, hbody, -, hperiod⟩, hrevisions,
    hc⟩ := exists_of_edit h
  exact ⟨ids, body, period, targets, revisions, hids, hnamed, hbody, hperiod, hrevisions, hc⟩

theorem remove_spec (h : remove l argument = .ok c) :
    ∃ targets, l.Named argument targets ∧ c = .remove targets := by
  unfold remove at h
  split at h
  · cases h
  cases htargets : targets l argument with
  | error cause => simp [htargets, Except.map] at h
  | ok ts =>
    simp only [htargets, Except.map, Except.ok.injEq] at h
    exact ⟨ts, named_targets htargets, h.symm⟩

theorem mark_spec {done : Bool} (h : mark l argument done = .ok c) :
    ∃ targets, l.Named argument targets ∧ c = .mark targets done := by
  unfold mark at h
  split at h
  · cases h
  cases htargets : targets l argument with
  | error cause => simp [htargets, Except.map] at h
  | ok ts =>
    simp only [htargets, Except.map, Except.ok.injEq] at h
    exact ⟨ts, named_targets htargets, h.symm⟩

/-! ### Commands fit the list they were made for -/

theorem map_before_of_edits {body : Body} {period : Option Period} {targets : List Target}
    {revisions : List Revision} (h : edits body period targets = .ok revisions) :
    revisions.map (·.before) = targets.map (·.task) := by
  have hall := edits_spec h
  clear h
  induction hall with
  | nil => rfl
  | cons hr _ ih => rw [List.map_cons, List.map_cons, hr.2.1, ih]

/-- **The command that a line asks for fits the list that the line was read against.** -/
theorem fits_of_ofText {implicitAdd : Bool}
    (h : ofText implicitAdd l text now = .read (.execute c)) : c.Fits l.bag := by
  rcases command_cases h with ⟨_, h⟩ | ⟨-, h⟩ | ⟨-, h⟩ | ⟨_, -, h⟩ | h
  · obtain ⟨body, task, period, -, -, -, rfl⟩ := add_spec h
    exact trivial
  · obtain ⟨_, body, period, targets, revisions, -, hnamed, -, -, hedits, rfl⟩ := edit_spec h
    show (revisions.map (·.before) : Multiset Task) ≤ l.bag
    rw [map_before_of_edits hedits]
    exact hnamed.le_bag
  · obtain ⟨targets, hnamed, rfl⟩ := remove_spec h
    exact hnamed.le_bag
  · obtain ⟨targets, hnamed, rfl⟩ := mark_spec h
    exact hnamed.le_bag
  · rw [h]
    exact rfl

end Action

end Agenda
