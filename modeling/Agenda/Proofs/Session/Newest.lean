import Agenda.Proofs.Command.Log
import Agenda.Proofs.Session.Timeline
import Agenda.Proofs.Store.Order

/-!
# The task added last, after an undo

The task added last is known by the value of the first entry in the log of additions
(`TaskList.newestTask?_eq`). Undo gives the bag of tasks back, and it turns the swaps of the command
around in the log (`added_after_undo`). So the same task is the newest one again unless the command
has turned another task into its equal: then undo cannot tell the two apart, and the other one takes
its place in the log (`newest_after_undo`). Additions, removals and clearing make no swaps, and
nothing can go wrong with them.
-/

namespace Agenda

/-! ### The newest task of a list -/

namespace TaskList

/-- The task added last, if it is still there. -/
def newestTask? (l : TaskList) : Option Task :=
  l.newest?.bind l.get?

theorem newestTask?_eq (l : TaskList) :
    l.newestTask? = l.added.head?.filter (· ∈ l.tasks) := by
  obtain ⟨tasks, added⟩ := l
  cases added with
  | nil => rfl
  | cons t rest =>
    show (lastIndexOf? t tasks).bind (tasks[·]?) = (some t).filter (· ∈ tasks)
    cases hlast : lastIndexOf? t tasks with
    | none =>
      have hnot : t ∉ tasks := lastIndexOf?_eq_none_iff.mp hlast
      rw [Option.filter_some, if_neg (by simpa using hnot)]
      rfl
    | some position =>
      have hget : tasks[position]? = some t := getElem?_of_lastIndexOf? hlast
      rw [Option.filter_some, if_pos (by simpa using List.mem_of_getElem? hget)]
      exact hget

/-- The position of the newest task is known exactly when the task is. -/
theorem isSome_newestTask? (l : TaskList) : l.newestTask?.isSome = l.newest?.isSome := by
  obtain ⟨tasks, added⟩ := l
  cases added with
  | nil => rfl
  | cons t rest =>
    show ((lastIndexOf? t tasks).bind (tasks[·]?)).isSome = (lastIndexOf? t tasks).isSome
    cases hlast : lastIndexOf? t tasks with
    | none => rfl
    | some position =>
      rw [Option.bind_some, getElem?_of_lastIndexOf? hlast]
      rfl

end TaskList

namespace TaskList

variable {l l' : TaskList} {c : Command} (hbag : l'.bag = l.bag)
  (hadded : l'.added = l.added.map fun t => (overtaker? c.swaps t).getD t)

include hbag hadded

theorem newestTask?_eq_of_added : l'.newestTask? =
    (l.added.head?.map fun t => (overtaker? c.swaps t).getD t).filter (· ∈ l.tasks) := by
  have hmem : ∀ t, t ∈ l'.tasks ↔ t ∈ l.tasks := by
    intro t
    show t ∈ l'.bag ↔ t ∈ l.bag
    rw [hbag]
  rw [newestTask?_eq, hadded, List.head?_map]
  simp only [hmem]

/-- A task that has overtaken the newest entry is there, so it is the newest task. -/
theorem newestTask?_of_overtaken (fits : c.Fits l.bag) :
    ∀ t ∈ l.added.head?, ∀ other ∈ overtaker? c.swaps t, l'.newestTask? = some other := by
  intro t ht other hother
  have hthere : other ∈ l.tasks :=
    Multiset.mem_of_le (Command.olds_le fits) (mem_of_overtaker? hother)
  rw [newestTask?_eq_of_added hbag hadded, Option.mem_def.mp ht, Option.map_some,
    Option.mem_def.mp hother, Option.getD_some, Option.filter_some,
    if_pos (decide_eq_true hthere)]

theorem newestTask?_eq_iff (hovertaken : ∀ t ∈ l.added.head?, ∀ other ∈ overtaker? c.swaps t,
      l'.newestTask? = some other) :
    (l'.newest?.isSome = l.newest?.isSome ∧ l'.newestTask? = l.newestTask?) ↔
      ∀ t ∈ l.added.head?, ∀ other ∈ overtaker? c.swaps t, other = t := by
  constructor
  · rintro ⟨-, hsame⟩ t ht other hother
    have hnewest := hovertaken t ht other hother
    rw [hsame, newestTask?_eq, Option.mem_def.mp ht] at hnewest
    exact (Option.some.inj (Option.filter_eq_some_iff.mp hnewest).1).symm
  · intro h
    -- nothing but the entry itself has overtaken it, so it is the same entry
    have hentry : (l.added.head?.map fun t => (overtaker? c.swaps t).getD t) = l.added.head? := by
      cases hhead : l.added.head? with
      | none => rfl
      | some t =>
        rw [Option.map_some]
        congr 1
        cases hother : overtaker? c.swaps t with
        | none => rfl
        | some other => exact h t hhead other hother
    have hsame : l'.newestTask? = l.newestTask? := by
      rw [newestTask?_eq_of_added hbag hadded, hentry, newestTask?_eq]
    refine ⟨?_, hsame⟩
    rw [← isSome_newestTask?, ← isSome_newestTask?, hsame]

end TaskList

/-! ### The log of a store -/

namespace Command

variable {c : Command} {s s' : Store} {log : List Task}

/-- A command logs what it adds, and entries follow its swaps. Sorting leaves the log alone. -/
theorem added_of_run (hrun : c.run.run s = .ok () s') :
    s'.list.added = c.logged ++ s.list.added.map (follow c.swaps) := by
  obtain ⟨l, hl, -, hlist, -⟩ := Store.exists_of_transaction_ok hrun
  rw [hlist]
  show l.added = _
  exact added_of_apply hl

theorem added_of_undo (hlog : s.list.added = c.logged ++ log) (hrun : c.undo.run s = .ok () s') :
    s'.list.added = log.map (follow (c.swaps.reverse.map Swap.back)) := by
  obtain ⟨l, hl, -, hlist, -⟩ := Store.exists_of_transaction_ok hrun
  rw [hlist]
  show l.added = _
  exact added_of_revert hl hlog

end Command

/-! ### Sessions -/

namespace Session

variable {s : Session} {text text' : String} {now now' : DateTime} {c : Command}

/-- **Undo gives the tasks back, and the log but for entries that are overtaken.** -/
theorem added_after_undo (hexecuted : s.move? text now = some (.executed c))
    (hundid : (s.step (.line text now)).move? text' now' = some .undid) :
    let s' := (s.step (.line text now)).step (.line text' now')
    s'.store.list.bag = s.store.list.bag ∧
      s'.store.list.added = s.store.list.added.map fun t => (overtaker? c.swaps t).getD t := by
  have hran := ran_of_move? hexecuted
  have hran' := ran_of_move? hundid
  generalize s.step (.line text now) = s₁ at hran hran'
  generalize s₁.step (.line text' now') = s₂ at hran'
  cases hran with
  | @executed _ store hread hrun =>
    cases hran' with
    | @undid c' rest store' hdone hundo =>
      -- what is taken back is the command that was carried out just before
      cases hdone
      have fits := Action.fits_of_ofText hread
      have hbag := Command.bag_of_run fits hrun
      have hadded : store'.list.added = (s.store.list.added.map (follow c.swaps)).map
          (follow (c.swaps.reverse.map Swap.back)) :=
        Command.added_of_undo (Command.added_of_run hrun) hundo
      refine ⟨Command.bag_of_undo fits hbag hundo, ?_⟩
      rw [hadded, List.map_map]
      exact List.map_congr_left fun _ _ => follow_back_follow (Command.settles_of_ofText hread)

/-- **Undo makes the same task the newest one again, unless the command has turned another task into
its equal.** Then that other task is the newest one. -/
theorem newest_after_undo (hexecuted : s.move? text now = some (.executed c))
    (hundid : (s.step (.line text now)).move? text' now' = some .undid) :
    let l := s.store.list
    let l' := ((s.step (.line text now)).step (.line text' now')).store.list
    ((l'.newest?.isSome = l.newest?.isSome ∧ l'.newestTask? = l.newestTask?) ↔
      ∀ t ∈ l.added.head?, ∀ other ∈ overtaker? c.swaps t, other = t) ∧
    ∀ t ∈ l.added.head?, ∀ other ∈ overtaker? c.swaps t, l'.newestTask? = some other := by
  obtain ⟨hbag, hadded⟩ := added_after_undo hexecuted hundid
  have fits := Action.fits_of_ofText (read_of_executed hexecuted)
  have hovertaken := TaskList.newestTask?_of_overtaken hbag hadded fits
  exact ⟨TaskList.newestTask?_eq_iff hbag hadded hovertaken, hovertaken⟩

/-! ### Two additions and an edit -/

/-- Where saving works, the command of a line can be taken back by the next line. -/
theorem Working.undo {l : TaskList} {past : History} (h : Working s l past)
    (hread : Action.ofText false l text now = .read (.execute c)) (now' : DateTime) :
    s.move? text now = some (.executed c) ∧
      (s.step (.line text now)).move? "undo" now' = some .undid := by
  have fits := Action.fits_of_ofText hread
  obtain ⟨l', happly, hbag⟩ := Command.run_apply fits
  obtain ⟨hmove, hafter⟩ := h.step hread happly
  have hbag' : l'.sorted.bag = c.effect l.bag := by
    rw [TaskList.bag_sorted, hbag]
  obtain ⟨back, hrevert, -⟩ := Command.run_revert fits hbag'
  exact ⟨hmove, (hafter.step_undo hrevert now').1⟩

/-- A session in memory after two additions. -/
def breadAndMilk : Session :=
  ({ store := { list := { tasks := [] }, repository := .memory [] false } } : Session).after
    [.line "add bread" someDay, .line "add milk" someDay]

theorem working_breadAndMilk :
    Working breadAndMilk
      { tasks := [{ description := "bread" }, { description := "milk" }],
        added := [{ description := "milk" }, { description := "bread" }] }
      ⟨[.add { description := "milk" }, .add { description := "bread" }], []⟩ :=
  (working_inMemory []).breadAndMilk

/-- An edit of the newest task is taken back, and it is the newest task again. -/
theorem milk_newest_again :
    let s := breadAndMilk
    let s' := (s.step (.line "edit last cake" someDay)).step (.line "undo" someDay)
    (∃ c, s.move? "edit last cake" someDay = some (.executed c)) ∧
      (s.step (.line "edit last cake" someDay)).move? "undo" someDay = some .undid ∧
      s.store.list.newestTask? = some { description := "milk" } ∧
      s'.store.list.newestTask? = s.store.list.newestTask? := by
  intro s s'
  let bread : Task := { description := "bread" }
  let milk : Task := { description := "milk" }
  let cake : Task := { description := "cake" }
  have hread : Action.ofText false { tasks := [bread, milk], added := [milk, bread] }
      "edit last cake" someDay = .read (.execute (.edit [⟨1, milk, cake⟩])) := by decide +kernel
  obtain ⟨hexecuted, hundid⟩ := working_breadAndMilk.undo hread someDay
  have hlist := working_breadAndMilk.list
  have hnewest : s.store.list.newestTask? = some milk := by
    rw [hlist]
    decide +kernel
  refine ⟨⟨_, hexecuted⟩, hundid, hnewest, ((newest_after_undo hexecuted hundid).1.mpr ?_).2⟩
  -- the only swap leads from the entry itself
  rw [hlist]
  decide +kernel

/-- An edit makes milk of the bread too. When it is taken back, the bread is the newest task, which
was added before the milk. -/
theorem bread_newest_after_undo :
    let s := breadAndMilk
    let s' := (s.step (.line "edit 1 milk" someDay)).step (.line "undo" someDay)
    (∃ c, s.move? "edit 1 milk" someDay = some (.executed c)) ∧
      (s.step (.line "edit 1 milk" someDay)).move? "undo" someDay = some .undid ∧
      s.store.list.newestTask? = some { description := "milk" } ∧
      s'.store.list.newestTask? = some { description := "bread" } := by
  intro s s'
  let bread : Task := { description := "bread" }
  let milk : Task := { description := "milk" }
  have hread : Action.ofText false { tasks := [bread, milk], added := [milk, bread] }
      "edit 1 milk" someDay = .read (.execute (.edit [⟨0, bread, milk⟩])) := by decide +kernel
  obtain ⟨hexecuted, hundid⟩ := working_breadAndMilk.undo hread someDay
  have hlist := working_breadAndMilk.list
  have hnewest : s.store.list.newestTask? = some milk := by
    rw [hlist]
    decide +kernel
  obtain ⟨hbag, hadded⟩ := added_after_undo hexecuted hundid
  refine ⟨⟨_, hexecuted⟩, hundid, hnewest, ?_⟩
  rw [TaskList.newestTask?_eq_of_added hbag hadded, hlist]
  decide +kernel

end Session

end Agenda
