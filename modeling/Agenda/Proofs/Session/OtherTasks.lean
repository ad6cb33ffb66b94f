import Agenda.Proofs.Command.TiedTasks
import Agenda.Proofs.Session.Newest

/-!
# The task added last, after others have changed

An edit, done or undone that is not about the newest task leaves this task in the list, at a
position of its own (`Command.exists_changedAt`). Whether `last` still leads to it is a question
about the log of additions, which is kept by value: the entry of the newest task follows a swap of
any task that equals it. So the newest task stays the newest one exactly when the command changes no
equal of it (`newest_after_change`). Where it does change one, `last` leads to what has become of
that one, which may never have been added in the session (`loaded_milk_newest`).
-/

namespace Agenda

namespace Command

variable {c : Command} {l : TaskList}

/-- The positions of the tasks that a command takes away or gives new values. -/
def positions : Command → List ℕ
  | add _ => []
  | remove targets => targets.map (·.position)
  | edit revisions => revisions.map (·.position)
  | mark targets _ => targets.map (·.position)
  | clear tasks => List.range tasks.length

/-- **An edit or a mark changes the tasks at its positions**, each as its swap says, and leaves all
others where they are. -/
theorem exists_changedAt {implicitAdd : Bool} {text : String} {now : DateTime} (hc : c.Revises)
    (hread : Action.ofText implicitAdd l text now = .read (.execute c)) :
    ∃ f l', c.apply.run l = .ok () l' ∧ l'.tasks = changedAt c.positions f l.tasks ∧
      ∀ swap ∈ c.swaps, swap.new = f swap.old ∧
        ∃ q ∈ c.positions, l.tasks[q]? = some swap.old := by
  rcases Action.command_cases hread with ⟨_, h⟩ | ⟨-, h⟩ | ⟨-, h⟩ | ⟨done, -, h⟩ | rfl
  · obtain ⟨_, _, _, -, -, -, rfl⟩ := Action.add_spec h
    cases hc
  · obtain ⟨_, body, period, targets, revisions, -, hnamed, -, -, hedits, rfl⟩ :=
      Action.edit_spec h
    obtain ⟨htargets, hafter⟩ := targetsOf_of_edits hedits
    rw [← htargets] at hnamed
    obtain ⟨l', hrun, htasks⟩ := exists_apply_edit hnamed.toCaptured hafter
    refine ⟨_, l', hrun, htasks, ?_⟩
    intro swap hswap
    obtain ⟨r, hr, rfl⟩ := List.mem_map.mp hswap
    constructor
    · exact (Action.editedOrSame_of_edited (hafter r hr)).symm
    · exact ⟨r.position, List.mem_map_of_mem hr,
        hnamed.get? ⟨r.position, r.before⟩ (List.mem_map_of_mem hr)⟩
  · obtain ⟨_, -, rfl⟩ := Action.remove_spec h
    cases hc
  · obtain ⟨targets, hnamed, rfl⟩ := Action.mark_spec h
    obtain ⟨l', hrun, htasks⟩ := exists_apply_mark hnamed.toCaptured done
    refine ⟨_, l', hrun, htasks, ?_⟩
    intro swap hswap
    obtain ⟨target, htarget, rfl⟩ := List.mem_map.mp hswap
    have htarget := List.mem_reverse.mp htarget
    constructor
    · rfl
    · exact ⟨target.position, List.mem_map_of_mem htarget, hnamed.get? target htarget⟩
  · cases hc

end Command

/-! ### The newest task -/

namespace TaskList

variable {l l' : TaskList} {c : Command} {p : ℕ} {t : Task}

/-- The position of the newest task is that of the first entry of the log. -/
theorem head?_added_of_newest? (h : l.newest? = some p) (hget : l.get? p = some t) :
    l.added.head? = some t := by
  have hnewest : l.newestTask? = some t := by
    unfold newestTask?
    rw [h]
    exact hget
  rw [newestTask?_eq, Option.filter_eq_some_iff] at hnewest
  exact hnewest.1

/-- **The newest task follows the swaps of its equals.** -/
theorem newestTask?_of_revised {implicitAdd : Bool} {text : String} {now : DateTime}
    (hc : c.Revises) (hread : Action.ofText implicitAdd l text now = .read (.execute c))
    (happly : c.apply.run l = .ok () l') (hlast : l.newest? = some p) (hget : l.get? p = some t)
    (hother : p ∉ c.positions) :
    l'.newestTask? = some (follow c.swaps t) ∧
      ∀ swap ∈ c.swaps, swap.old = t → follow c.swaps t = swap.new := by
  obtain ⟨f, l₁, hrun, htasks, hswaps⟩ := Command.exists_changedAt hc hread
  rw [happly] at hrun
  cases hrun
  have hsettles : Settles c.swaps := Command.settles_of_ofText hread
  have hfollow : ∀ swap ∈ c.swaps, swap.old = t → follow c.swaps t = swap.new := by
    rintro swap hswap rfl
    apply follow_of_mem hsettles _ hswap
    intro other hother heq
    rw [(hswaps other hother).1, (hswaps swap hswap).1, heq]
  have hthere : follow c.swaps t ∈ l'.tasks := by
    by_cases hswapped : ∃ swap ∈ c.swaps, swap.old = t
    -- the new value stands where the equal of the task has stood
    · obtain ⟨swap, hswap, hold⟩ := hswapped
      obtain ⟨hnew, q, hq, hgetq⟩ := hswaps swap hswap
      rw [hfollow swap hswap hold, hnew]
      apply List.mem_of_getElem? (i := q)
      rw [htasks, getElem?_changedAt, if_pos hq, hgetq, Option.map_some]
    -- the task itself is still at its position
    · have hstays : follow c.swaps t = t := by
        apply follow_of_fixed
        intro swap hswap heq
        exact absurd ⟨swap, hswap, heq.symm⟩ hswapped
      rw [hstays]
      apply List.mem_of_getElem? (i := p)
      rw [htasks, getElem?_changedAt_of_not_mem hother]
      exact hget
  have hhead : l'.added.head? = some (follow c.swaps t) := by
    have hlogged : c.logged = [] := by
      cases hc <;> rfl
    rw [Command.added_of_apply happly, hlogged, List.nil_append, List.head?_map,
      head?_added_of_newest? hlast hget, Option.map_some]
  refine ⟨?_, hfollow⟩
  rw [newestTask?_eq, hhead, Option.filter_some, if_pos (decide_eq_true hthere)]

theorem newestTask?_sorted (l : TaskList) : l.sorted.newestTask? = l.newestTask? := by
  have hmem : ∀ t, t ∈ l.sorted.tasks ↔ t ∈ l.tasks := fun t => (saveOrder_perm l.tasks).mem_iff
  simp only [newestTask?_eq, hmem]
  rfl

end TaskList

namespace Session

variable {s : Session} {text : String} {now : DateTime} {c : Command} {p : ℕ} {t : Task}

/-- A line that revises other tasks makes the newest one follow the swaps of its equals. -/
theorem newestTask?_of_executed (hexecuted : s.move? text now = some (.executed c))
    (hc : c.Revises) (hlast : s.store.list.newest? = some p)
    (hget : s.store.list.get? p = some t) (hother : p ∉ c.positions) :
    (s.step (.line text now)).store.list.newestTask? = some (follow c.swaps t) ∧
      ∀ swap ∈ c.swaps, swap.old = t → follow c.swaps t = swap.new := by
  have hran := ran_of_move? hexecuted
  generalize s.step (.line text now) = s' at hran ⊢
  cases hran with
  | executed hread hrun =>
    obtain ⟨draft, hdraft, -, hlist, -⟩ := Store.exists_of_transaction_ok hrun
    have hrevised := TaskList.newestTask?_of_revised hc hread hdraft hlast hget hother
    rw [← TaskList.newestTask?_sorted, ← hlist] at hrevised
    exact hrevised

/-- **An edit, done or undone of other tasks leaves the newest one alone, unless it changes an equal
of it.** Where `last` is a position that the line does not name, it leads to a task equal to the one
that was there after the line if and only if the line changes no equal of this task; where it
changes one, `last` leads to the new value of that one. -/
theorem newest_after_change (hexecuted : s.move? text now = some (.executed c)) (hc : c.Revises)
    (hlast : s.store.list.newest? = some p) (hget : s.store.list.get? p = some t)
    (hother : p ∉ c.positions) :
    let l' := (s.step (.line text now)).store.list
    (l'.newestTask? = some t ↔ ∀ swap ∈ c.swaps, swap.old = t → swap.new = t) ∧
      ∀ swap ∈ c.swaps, swap.old = t → l'.newestTask? = some swap.new := by
  intro l'
  obtain ⟨hnewest, hfollow⟩ : l'.newestTask? = some (follow c.swaps t) ∧ _ :=
    newestTask?_of_executed hexecuted hc hlast hget hother
  rw [hnewest]
  refine ⟨?_, fun swap hswap hold => congrArg some (hfollow swap hswap hold)⟩
  constructor
  · intro hsame swap hswap hold
    rw [← hfollow swap hswap hold]
    exact Option.some.inj hsame
  · intro hkeeps
    apply congrArg some
    apply follow_of_fixed
    intro swap hswap heq
    exact hkeeps swap hswap heq.symm

/-- Bread is made milk too, and the milk that was added last is still the newest task. -/
theorem milk_newest_beside_new_milk :
    let s := breadAndMilk
    (∃ c, s.move? "edit 1 milk" someDay = some (.executed c)) ∧ s.store.list.newest? = some 1 ∧
      (s.step (.line "edit 1 milk" someDay)).store.list.newestTask?
        = some { description := "milk" } := by
  intro s
  let bread : Task := { description := "bread" }
  let milk : Task := { description := "milk" }
  have hread : Action.ofText false { tasks := [bread, milk], added := [milk, bread] }
      "edit 1 milk" someDay = .read (.execute (.edit [⟨0, bread, milk⟩])) := by decide +kernel
  obtain ⟨hexecuted, -⟩ := working_breadAndMilk.undo hread someDay
  have hlist := working_breadAndMilk.list
  have hlast : s.store.list.newest? = some 1 := by
    rw [hlist]
    decide +kernel
  have hget : s.store.list.get? 1 = some milk := by
    rw [hlist]
    rfl
  refine ⟨⟨_, hexecuted⟩, hlast, ?_⟩
  exact (newest_after_change hexecuted (.edit _) hlast hget (by decide)).1.mpr (by decide +kernel)

/-- With milk in the list, milk is added. When the first one of the two, which was there before, is
done, it is the newest task, although the second one was added and has not changed. -/
theorem loaded_milk_newest :
    let milk : Task := { description := "milk" }
    let start : Session :=
      { store := { list := { tasks := [milk] }, repository := .memory [milk] false } }
    let s := start.step (.line "add milk" someDay)
    s.move? "done 1" someDay = some (.executed (.mark [⟨0, milk⟩] true)) ∧
      s.store.list.newest? = some 1 ∧ s.store.list.get? 1 = some milk ∧
      (s.step (.line "done 1" someDay)).store.list.newestTask?
        = some { milk with done := true } := by
  intro milk start s
  have hstart : Working start { tasks := [milk] } {} := working_inMemory [milk]
  have hreadAdd : Action.ofText false { tasks := [milk] } "add milk" someDay
      = .read (.execute (.add milk)) := by decide +kernel
  have hadd : (Command.add milk).apply.run { tasks := [milk] }
      = .ok () { tasks := [milk, milk], added := [milk] } := rfl
  have hsorted : ({ tasks := [milk, milk], added := [milk] } : TaskList).sorted
      = { tasks := [milk, milk], added := [milk] } :=
    congrArg (TaskList.mk · _) (saveOrder_of_pairwise (by decide +kernel) (by decide +kernel)
      (by decide +kernel))
  have hadded := (hstart.step hreadAdd hadd).2
  rw [hsorted] at hadded
  have hread : Action.ofText false { tasks := [milk, milk], added := [milk] } "done 1" someDay
      = .read (.execute (.mark [⟨0, milk⟩] true)) := by decide +kernel
  obtain ⟨draft, hdraft, -⟩ := Command.run_apply (Action.fits_of_ofText hread)
  obtain ⟨hexecuted, hdone⟩ := hadded.step hread hdraft
  have hrevised := TaskList.newestTask?_of_revised (.mark ..) hread hdraft
    (p := 1) (t := milk) (by decide +kernel) rfl (by decide)
  refine ⟨hexecuted, ?_, ?_, ?_⟩
  · rw [hadded.list]
    decide +kernel
  · rw [hadded.list]
    rfl
  · rw [hdone.list, TaskList.newestTask?_sorted, hrevised.1]
    decide +kernel

end Session

end Agenda
