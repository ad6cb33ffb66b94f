import Agenda.Proofs.Command.Balance
import Agenda.Proofs.Command.Named
import Agenda.Proofs.Language.Edit

/-!
# What commands do to the log of additions

The log of additions is kept by value: where a task is replaced, every entry that equals it is
replaced too. So a command changes the log entry by entry, by the swaps that it makes
(`added_of_apply`), and taking it back changes what has come of an entry by the same swaps turned
around (`added_of_revert`).

Whether an entry comes back in this way is a question about the swaps alone. Values that a line puts
in are not changed by it once more (`Settles`), so what an entry becomes is clear (`follow_mem`),
and turned around the swaps lead to the old value of the last one that has put this value in
(`follow_map_back`). That is the entry itself unless another task has been turned into the same
value: `overtaker?` names that task, and `follow_back_follow` says that it takes the place of the
entry.
-/

namespace Agenda

/-- One task put in the place of another. -/
structure Swap where
  old : Task
  new : Task
  deriving DecidableEq

/-- The swap that takes another one back. -/
def Swap.back (s : Swap) : Swap :=
  ⟨s.new, s.old⟩

/-- What an entry of the log becomes by swaps. -/
def follow (swaps : List Swap) (entry : Task) : Task :=
  swaps.foldl (fun entry s => if entry = s.old then s.new else entry) entry

/-- A value that one of the swaps puts in is not changed by any of them. -/
def Settles (swaps : List Swap) : Prop :=
  ∀ s ∈ swaps, ∀ s' ∈ swaps, s'.old = s.new → s'.new = s.new

/-- The task that the swaps have turned last into the value that an entry has got by them. -/
def overtaker? (swaps : List Swap) (entry : Task) : Option Task :=
  (swaps.reverse.find? fun s => s.new = follow swaps entry ∧ s.old ≠ s.new).map (·.old)

section Swaps

variable {swaps : List Swap} {s : Swap} {entry : Task}

@[simp] theorem follow_nil : follow [] entry = entry := rfl

@[simp] theorem follow_cons :
    follow (s :: swaps) entry = follow swaps (if entry = s.old then s.new else entry) := rfl

theorem Settles.of_cons (h : Settles (s :: swaps)) : Settles swaps :=
  fun s₁ h₁ s₂ h₂ => h s₁ (List.mem_cons_of_mem _ h₁) s₂ (List.mem_cons_of_mem _ h₂)

theorem Settles.reverse (h : Settles swaps) : Settles swaps.reverse :=
  fun s₁ h₁ s₂ h₂ => h s₁ (List.mem_reverse.mp h₁) s₂ (List.mem_reverse.mp h₂)

/-- An entry stays where no swap would change it. -/
theorem follow_of_fixed (h : ∀ s ∈ swaps, entry = s.old → s.new = entry) :
    follow swaps entry = entry := by
  induction swaps with
  | nil => rfl
  | cons s rest ih =>
    obtain ⟨hs, hrest⟩ := List.forall_mem_cons.mp h
    have hsame : (if entry = s.old then s.new else entry) = entry := by
      by_cases hold : entry = s.old
      · rw [if_pos hold, hs hold]
      · exact if_neg hold
    rw [follow_cons, hsame]
    exact ih hrest

/-- What the first swap puts in is settled, so the others leave it as it is. -/
theorem Settles.follow_new (h : Settles (s :: swaps)) : follow swaps s.new = s.new :=
  follow_of_fixed fun s' hs' heq =>
    h s (List.mem_cons_self ..) s' (List.mem_cons_of_mem _ hs') heq.symm

/-- **An entry stays, or it becomes the new value of one of the swaps.** -/
theorem follow_mem (h : Settles swaps) :
    follow swaps entry = entry ∨ ⟨entry, follow swaps entry⟩ ∈ swaps := by
  induction swaps generalizing entry with
  | nil => exact Or.inl rfl
  | cons s rest ih =>
    rw [follow_cons]
    by_cases hs : entry = s.old
    · rw [if_pos hs]
      right
      rw [h.follow_new, hs]
      exact List.mem_cons_self ..
    · rw [if_neg hs]
      rcases ih h.of_cons with hstays | hmem
      · exact Or.inl hstays
      · exact Or.inr (List.mem_cons_of_mem _ hmem)

/-- A task that is swapped becomes what its swaps put in, where they agree. -/
theorem follow_of_mem (h : Settles swaps)
    (hagree : ∀ s' ∈ swaps, s'.old = s.old → s'.new = s.new) (hs : s ∈ swaps) :
    follow swaps s.old = s.new := by
  induction swaps with
  | nil => cases hs
  | cons s' rest ih =>
    rw [follow_cons]
    by_cases hold : s.old = s'.old
    · rw [if_pos hold, h.follow_new]
      exact hagree s' (List.mem_cons_self ..) hold.symm
    · rw [if_neg hold]
      rcases List.mem_cons.mp hs with rfl | hs
      · exact absurd rfl hold
      · exact ih h.of_cons (fun s' hs' => hagree s' (List.mem_cons_of_mem _ hs')) hs

/-- Swaps turned around give a value its origin in the first one that has put it in. -/
theorem follow_map_back (h : Settles swaps) : follow (swaps.map Swap.back) entry =
    ((swaps.find? fun s => s.new = entry ∧ s.old ≠ s.new).map (·.old)).getD entry := by
  induction swaps with
  | nil => rfl
  | cons s rest ih =>
    rw [List.map_cons, follow_cons]
    by_cases hnew : s.new = entry
    · by_cases hold : s.old = s.new
      -- the swap changes nothing
      · have hsame : (if entry = s.back.old then s.back.new else entry) = entry := by
          show (if entry = s.new then s.old else entry) = entry
          rw [if_pos hnew.symm, hold, hnew]
        rw [hsame, ih h.of_cons, List.find?_cons_of_neg (by simp [hold])]
      -- the origin was not put in by any swap, so it is not changed any more
      · have horigin : ∀ b ∈ rest.map Swap.back, s.old ≠ b.old := by
          intro b hb heq
          obtain ⟨s', hs', rfl⟩ := List.mem_map.mp hb
          have hfixed := h s' (List.mem_cons_of_mem _ hs') s (List.mem_cons_self ..) heq
          exact hold (heq.trans hfixed.symm)
        have hchanged : (if entry = s.back.old then s.back.new else entry) = s.old :=
          if_pos hnew.symm
        rw [hchanged, follow_of_fixed fun b hb heq => absurd heq (horigin b hb),
          List.find?_cons_of_pos (by simpa [hnew] using hnew ▸ hold)]
        rfl
    · have hsame : (if entry = s.back.old then s.back.new else entry) = entry :=
        if_neg fun heq => hnew heq.symm
      rw [hsame, ih h.of_cons, List.find?_cons_of_neg (by simp [hnew])]

/-- **Taking swaps back gives an entry back, unless another task has overtaken it.** -/
theorem follow_back_follow (h : Settles swaps) :
    follow (swaps.reverse.map Swap.back) (follow swaps entry)
      = (overtaker? swaps entry).getD entry := by
  rw [follow_map_back h.reverse, overtaker?]
  cases hfind : swaps.reverse.find? fun s => s.new = follow swaps entry ∧ s.old ≠ s.new with
  | some s => rfl
  | none =>
    -- an entry that was changed is the origin of a swap itself
    show follow swaps entry = entry
    have hentry : follow swaps entry = entry ∨ ⟨entry, follow swaps entry⟩ ∈ swaps := follow_mem h
    rcases hentry with hstays | hmem
    · exact hstays
    · have hnone := List.find?_eq_none.mp hfind _ (List.mem_reverse.mpr hmem)
      by_contra hne
      exact hnone (by simp [Ne.symm hne])

/-- A task that overtakes an entry is another one's old value. -/
theorem mem_of_overtaker? {other : Task} (h : overtaker? swaps entry = some other) :
    other ∈ swaps.map (·.old) := by
  obtain ⟨s, hs, rfl⟩ := Option.map_eq_some_iff.mp h
  exact List.mem_map_of_mem (List.mem_reverse.mp (List.mem_of_find?_eq_some hs))

end Swaps

/-! ### The log after a command -/

namespace Command

/-- The swaps that a command makes, in their order. -/
def swaps : Command → List Swap
  | edit revisions => revisions.map fun r => ⟨r.before, r.after⟩
  | mark targets done => targets.reverse.map fun t => ⟨t.task, { t.task with done := done }⟩
  | add _ => []
  | remove _ => []
  | clear _ => []

variable {l l' : TaskList} {c : Command}

theorem added_of_swap {old new : Task} {hint : Option ℕ}
    (h : (swap old new hint).run l = .ok () l') :
    l'.added = l.added.map fun entry => if entry = old then new else entry := by
  simp only [swap, Draft.run_bind_eq_ok_iff, Draft.run_ask_eq_ok_iff, Draft.run_step_eq_ok_iff,
    EStateM.run_pure] at h
  obtain ⟨position, l₁, ⟨hposition, rfl⟩, found, l₂, hreplace, h⟩ := h
  rw [TaskList.replace_of_get? (TaskList.get?_of_positionOf hposition)] at hreplace
  cases hreplace
  cases h
  rfl

theorem added_of_removeTarget {target : Target} (h : (removeTarget target).run l = .ok () l') :
    l'.added = l.added := by
  simp only [removeTarget, Draft.run_bind_eq_ok_iff, Draft.run_ask_eq_ok_iff,
    Draft.run_step_eq_ok_iff, EStateM.run_pure] at h
  obtain ⟨position, l₁, ⟨hposition, rfl⟩, found, l₂, hremove, h⟩ := h
  rw [TaskList.remove_of_get? (TaskList.get?_of_positionOf hposition)] at hremove
  cases hremove
  cases h
  rfl

/-- Steps that change the log entry by entry do so one after the other. -/
theorem added_of_forM {τ : Type} {step : τ → Draft Unit} (change : τ → Task → Task)
    (hstep : ∀ t l l', (step t).run l = .ok () l' → l'.added = l.added.map (change t))
    {targets : List τ} (h : (targets.forM step).run l = .ok () l') :
    l'.added = l.added.map fun entry => targets.foldl (fun entry t => change t entry) entry := by
  induction targets generalizing l with
  | nil =>
    cases h
    exact (List.map_id _).symm
  | cons t rest ih =>
    rw [List.forM_eq_forM, List.forM_cons, Draft.run_bind_eq_ok_iff] at h
    obtain ⟨_, l₁, hfirst, hrest⟩ := h
    rw [ih hrest, hstep t l l₁ hfirst, List.map_map]
    rfl

theorem added_of_swaps {τ : Type} (old new : τ → Task) (hint : τ → Option ℕ) {targets : List τ}
    (h : (targets.forM fun t => swap (old t) (new t) (hint t)).run l = .ok () l') :
    l'.added = l.added.map (follow (targets.map fun t => ⟨old t, new t⟩)) := by
  rw [added_of_forM _ (fun t _ _ => added_of_swap) h]
  congr 1
  funext entry
  rw [follow, List.foldl_map]

/-- Steps that leave the log alone do so together. -/
theorem added_of_forM_same {τ : Type} {step : τ → Draft Unit}
    (hstep : ∀ t l l', (step t).run l = .ok () l' → l'.added = l.added) {targets : List τ}
    (h : (targets.forM step).run l = .ok () l') : l'.added = l.added := by
  have hmap := added_of_forM (fun _ entry => entry)
    (fun t l l' ht => (hstep t l l' ht).trans (List.map_id _).symm) h
  rw [hmap]
  exact (List.map_congr_left fun _ _ => List.foldl_fixed targets).trans (List.map_id _)

/-- The entries that a command puts into the log. -/
def logged : Command → List Task
  | add task => [task]
  | remove _ => []
  | edit _ => []
  | mark _ _ => []
  | clear _ => []

/-- **A command changes the entries of the log by its swaps**, and an addition logs its task. -/
theorem added_of_apply (h : c.apply.run l = .ok () l') :
    l'.added = c.logged ++ l.added.map (follow c.swaps) := by
  have hsame : l.added.map (follow []) = l.added := List.map_id _
  cases c with
  | add task =>
    cases h
    rw [swaps, hsame]
    rfl
  | remove targets =>
    rw [swaps, hsame]
    exact added_of_forM_same (fun t _ _ => added_of_removeTarget) h
  | edit revisions =>
    exact added_of_swaps Revision.before Revision.after (fun r => some r.position) h
  | mark targets done =>
    exact added_of_swaps Target.task (fun t => { t.task with done }) (fun t => some t.position) h
  | clear tasks =>
    cases h
    rw [swaps, hsame]
    rfl

/-- **Taking a command back changes the entries of the log by its swaps turned around**, and what
an addition has logged is dropped. -/
theorem added_of_revert (h : c.revert.run l = .ok () l') {log : List Task}
    (hlog : l.added = c.logged ++ log) :
    l'.added = log.map (follow (c.swaps.reverse.map Swap.back)) := by
  have hsame : log.map (follow []) = log := List.map_id _
  cases c with
  | add task =>
    simp only [revert, Draft.run_bind_eq_ok_iff, Draft.run_ask_eq_ok_iff,
      Draft.run_step_eq_ok_iff, EStateM.run_pure] at h
    obtain ⟨position, l₁, ⟨hposition, rfl⟩, found, l₂, hback, h⟩ := h
    rw [TaskList.takeBack_of_get? (TaskList.get?_of_positionOf hposition)] at hback
    cases hback
    cases h
    -- the entry of the addition is the first one that equals it
    show l₁.added.erase task = log.map (follow [])
    rw [hlog, hsame]
    exact List.erase_cons_head ..
  | remove targets =>
    have hadded := added_of_forM_same (fun t l l' (ht : (modify _ : Draft Unit).run l = _) => by
      cases ht
      rfl) h
    rw [hadded, hlog]
    exact hsame.symm
  | edit revisions =>
    have hadded := added_of_swaps Revision.after Revision.before (fun _ => none) h
    rw [hadded, hlog, logged, List.nil_append, swaps, ← List.map_reverse, List.map_map]
    rfl
  | mark targets done =>
    have hadded :=
      added_of_swaps (fun t : Target => { t.task with done }) Target.task (fun _ => none) h
    rw [hadded, hlog, logged, List.nil_append, swaps, ← List.map_reverse, List.reverse_reverse,
      List.map_map]
    rfl
  | clear tasks =>
    cases h
    exact hlog.trans hsame.symm

/-! ### Swaps of commands that lines ask for -/

variable {M : Multiset Task}

theorem settles_edit {body : Body} {period : Option Period} {revisions : List Revision}
    (hafter : ∀ r ∈ revisions, Action.edited r.before body period = .ok r.after) :
    Settles (edit revisions).swaps := by
  intro s hs s' hs' heq
  obtain ⟨r, hr, rfl⟩ := List.mem_map.mp hs
  obtain ⟨r', hr', rfl⟩ := List.mem_map.mp hs'
  -- what an edit has made of a task is left as it is by the same edit
  have hagain := hafter r' hr'
  rw [show r'.before = r.after from heq] at hagain
  exact Action.edited_idem (hafter r hr) hagain

theorem settles_mark (targets : List Target) (done : Bool) :
    Settles (mark targets done).swaps := by
  intro s hs s' hs' heq
  obtain ⟨target, -, rfl⟩ := List.mem_map.mp hs
  obtain ⟨target', -, rfl⟩ := List.mem_map.mp hs'
  show { target'.task with done } = { target.task with done }
  rw [show target'.task = { target.task with done } from heq]

/-- **The swaps of a command that a line asks for settle.** -/
theorem settles_of_ofText {implicitAdd : Bool} {text : String} {now : DateTime}
    (h : Action.ofText implicitAdd l text now = .read (.execute c)) : Settles c.swaps := by
  rcases Action.command_cases h with ⟨_, h⟩ | ⟨-, h⟩ | ⟨-, h⟩ | ⟨done, -, h⟩ | rfl
  · obtain ⟨_, _, _, -, -, -, rfl⟩ := Action.add_spec h
    exact List.forall_mem_nil _
  · obtain ⟨_, body, period, targets, revisions, -, -, -, -, hedits, rfl⟩ := Action.edit_spec h
    exact settles_edit (targetsOf_of_edits hedits).2
  · obtain ⟨targets, -, rfl⟩ := Action.remove_spec h
    exact List.forall_mem_nil _
  · obtain ⟨targets, -, rfl⟩ := Action.mark_spec h
    exact settles_mark targets done
  · exact List.forall_mem_nil _

/-- A command that fits a bag swaps tasks of the bag, each of them once. -/
theorem olds_le (fits : c.Fits M) : (c.swaps.map (·.old) : Multiset Task) ≤ M := by
  cases c with
  | add task => exact Multiset.zero_le M
  | remove targets => exact Multiset.zero_le M
  | clear tasks => exact Multiset.zero_le M
  | edit revisions =>
    rw [swaps, List.map_map]
    exact fits
  | mark targets done =>
    rw [swaps, List.map_map]
    exact (coe_map_reverse Target.task targets).trans_le fits

end Command

end Agenda
