import Agenda.Proofs.Language.IdSets
import Agenda.Proofs.Language.WrittenIds
import Agenda.Proofs.Screen.Rows

/-!
# Shown numbers name the shown tasks

What a line shows are the entries that its filter selects, in their order and with their numbers in
the whole list (`select?_eq_some_iff`). A number that is printed is read back as an id, so a line
with this id names the very task that was shown under it (`Store.namedById_of_mem_entries`), in
whatever selection it was seen.
-/

namespace Agenda

open Text

/-! ### Numbers in lines -/

/-- The number of an entry names its task in lines against a list. The task is at the position
before the number, and lines that remove, mark or edit what has this number ask for a command on
just this position and this task. -/
structure TaskList.NamedById (l : TaskList) (e : Entry) : Prop where
  pos : 0 < e.id
  get? : l.get? (e.id - 1) = some e.task
  removed : ∀ implicitAdd now, Action.ofText implicitAdd l ("remove " ++ toString e.id) now
    = .read (.execute (.remove [⟨e.id - 1, e.task⟩]))
  marked : ∀ (done : Bool) implicitAdd now,
    Action.ofText implicitAdd l ((if done then "done " else "undone ") ++ toString e.id) now
      = .read (.execute (.mark [⟨e.id - 1, e.task⟩] done))
  edited : ∀ description : String, IsWord description.toList → ∀ implicitAdd now,
    Action.ofText implicitAdd l ("edit " ++ toString e.id ++ " \\" ++ description) now
      = .read (.execute (.edit [⟨e.id - 1, e.task, { e.task with description }⟩]))

theorem isIdWord_toString (id : ℕ) : IdList.IsIdWord (toString id).toList :=
  Or.inl ⟨toString_ne_nil id, fun _ => isDigit_of_mem_toString⟩

theorem targets_toString {l : TaskList} {id : ℕ} {t : Task} (hpos : 0 < id)
    (hget : l.get? (id - 1) = some t) (hword : id < UInt64.size) :
    Action.targets l (toString id) = .ok [⟨id - 1, t⟩] := by
  have hlt : id - 1 < l.size := (List.getElem?_eq_some_iff.mp hget).1
  have hresolve : IdList.resolve (toString id) l.idScope = .ok [id] :=
    IdList.resolve_toString hpos (show id ≤ l.size by omega) hword
  unfold Action.targets
  rw [hresolve]
  show Action.targetsAt l [id] = _
  simp only [Action.targetsAt, hget]

theorem written_toString (id : ℕ) :
    String.ofList (IdList.written (toString id).toList []) = toString id := by
  rw [IdList.written, List.flatMap_nil, List.append_nil, String.ofList_toList]

/-- The number of a task is the argument of any verb before it. -/
theorem ofText_toString (implicitAdd : Bool) (l : TaskList) (verb : Verb) (id : ℕ)
    (now : DateTime) : Action.ofText implicitAdd l (verb.word ++ " " ++ toString id) now
      = Action.ofVerb verb l (toString id) now := by
  rw [← written_toString id]
  exact Action.ofText_written verb (isIdWord_toString id) (List.forall_mem_nil _)

/-- **A number that a machine word can hold names the task at its position.** -/
theorem TaskList.namedById {l : TaskList} {e : Entry} (hpos : 0 < e.id)
    (hget : l.get? (e.id - 1) = some e.task) (hword : e.id < UInt64.size) : l.NamedById e := by
  have hne : toString e.id ≠ "" := fun hempty =>
    toString_ne_nil e.id (congrArg String.toList hempty)
  have htargets := targets_toString hpos hget hword
  have hremove : Action.remove l (toString e.id) = .ok (.remove [⟨e.id - 1, e.task⟩]) := by
    unfold Action.remove
    rw [if_neg hne, htargets]
    rfl
  have hmark : ∀ done, Action.mark l (toString e.id) done
      = .ok (.mark [⟨e.id - 1, e.task⟩] done) := by
    intro done
    unfold Action.mark
    rw [if_neg hne, htargets]
    rfl
  refine ⟨hpos, hget, fun implicitAdd now => ?_, fun done implicitAdd now => ?_,
    fun description hx implicitAdd now => ?_⟩
  · have hline := ofText_toString implicitAdd l .remove e.id now
    rw [Action.ofVerb, hremove] at hline
    exact hline
  · cases done with
    | true =>
      have hline := ofText_toString implicitAdd l .done e.id now
      rw [Action.ofVerb, hmark] at hline
      exact hline
    | false =>
      have hline := ofText_toString implicitAdd l .undone e.id now
      rw [Action.ofVerb, hmark] at hline
      exact hline
  -- an edit takes the ids that a removal takes
  · have hfirst := isIdWord_toString e.id
    rw [← written_toString e.id] at hremove ⊢
    rw [Action.ofText_edit_written hfirst (List.forall_mem_nil _) hx,
      Action.edit_of_tight hfirst (List.forall_mem_nil _) hx (List.forall_mem_nil _) hremove]
    rfl

/-! ### Entries of a list -/

theorem Store.namedById_of_mem_entries {s : Store} {e : Entry} (hsize : s.total < UInt64.size)
    (h : e ∈ s.entries) : s.list.NamedById e := by
  obtain ⟨hpos, hget⟩ := Console.getElem?_of_mem_entries h
  have hlt : e.id - 1 < s.total := (List.getElem?_eq_some_iff.mp hget).1
  exact TaskList.namedById hpos hget (by omega)

theorem pairwise_numberFrom (id : ℕ) (tasks : List Task) :
    (Entry.numberFrom id tasks).Pairwise (·.id < ·.id) ∧
      ∀ e ∈ Entry.numberFrom id tasks, id ≤ e.id := by
  induction tasks generalizing id with
  | nil => exact ⟨List.Pairwise.nil, List.forall_mem_nil _⟩
  | cons t rest ih =>
    obtain ⟨hascending, hfrom⟩ := ih (id + 1)
    refine ⟨List.pairwise_cons.mpr ⟨fun e he => hfrom e he, hascending⟩,
      List.forall_mem_cons.mpr ⟨Nat.le_refl id, fun e he => ?_⟩⟩
    exact Nat.le_of_succ_le (hfrom e he)

/-! ### Entries without a tomorrow -/

/-- An entry whose end is to be compared with a day that the calendar does not have. -/
def Entry.LacksTomorrow (e : Entry) (now : DateTime) : Prop :=
  e.task.ends ≠ none ∧ now.date.addDays? 1 = none

theorem isDueTomorrow?_eq_none_iff {e : Entry} {now : DateTime} :
    e.task.isDueTomorrow? now = none ↔ e.LacksTomorrow now := by
  unfold Task.isDueTomorrow? Entry.LacksTomorrow
  cases e.task.ends with
  | none => simp
  | some ends =>
    cases now.date.addDays? 1 with
    | none => simp
    | some tomorrow =>
      dsimp only
      split <;> simp

theorem view?_eq_none_iff {e : Entry} {now : DateTime} :
    e.view? now = none ↔ e.LacksTomorrow now := by
  rw [Entry.view?, Option.map_eq_none_iff, isDueTomorrow?_eq_none_iff]

theorem selects?_eq_none_iff {filter : Filter} {e : Entry} {now : DateTime} :
    filter.selects? e.task now = none ↔ filter = .tomorrow ∧ e.LacksTomorrow now := by
  rw [← isDueTomorrow?_eq_none_iff]
  cases filter <;> simp [Filter.selects?]

/-- Views of entries fail only where a tomorrow is lacking. -/
theorem views?_eq_none_iff {entries : List Entry} {now : DateTime} :
    Listing.views? ⟨entries, now⟩ = none ↔ ∃ e ∈ entries, e.LacksTomorrow now := by
  unfold Listing.views?
  simp only [← view?_eq_none_iff]
  induction entries with
  | nil => simp
  | cons e rest ih =>
    rw [List.mapM_cons, List.exists_mem_cons_iff]
    cases hview : e.view? now with
    | none => simp
    | some v =>
      rw [← ih]
      cases rest.mapM fun e => e.view? now <;> simp

namespace Session

variable {s : Session} {filter : Filter} {now : DateTime} {entries selected : List Entry}

/-- **What a filter selects**, entries in their order, provided it has an answer for each. -/
theorem select?_eq_some_iff : select? filter now entries = some selected ↔
    (∀ e ∈ entries, filter.selects? e.task now ≠ none) ∧
      selected = entries.filter fun e => filter.selects? e.task now == some true := by
  induction entries generalizing selected with
  | nil => simp [select?, eq_comm]
  | cons e rest ih =>
    rw [select?, List.forall_mem_cons, List.filter_cons]
    cases hselects : filter.selects? e.task now with
    | none => simp
    | some chosen =>
      simp only [Option.bind_eq_bind, Option.bind_some, Option.bind_eq_some_iff, ih]
      have hchosen : (some chosen == some true) = chosen := by cases chosen <;> rfl
      rw [hchosen]
      constructor
      · rintro ⟨_, ⟨hrest, rfl⟩, hselected⟩
        exact ⟨⟨Option.some_ne_none _, hrest⟩, (Option.some.inj hselected).symm⟩
      · rintro ⟨⟨-, hrest⟩, rfl⟩
        exact ⟨_, ⟨hrest, rfl⟩, rfl⟩

/-- Showing fails only where the filter or a view lacks a tomorrow. -/
theorem showing?_eq_none_iff : s.showing? filter now = none ↔
    ∃ e ∈ s.store.entries, e.LacksTomorrow now ∧
      (filter = .tomorrow ∨ filter.selects? e.task now = some true) := by
  unfold showing?
  by_cases hall : ∀ e ∈ s.store.entries, filter.selects? e.task now ≠ none
  -- what is selected cannot all be viewed
  · rw [select?_eq_some_iff.mpr ⟨hall, rfl⟩]
    simp only [Option.bind_eq_bind, Option.bind_some, Option.bind_eq_none_iff, pure, reduceCtorEq,
      imp_false, ← Option.eq_none_iff_forall_ne_some, views?_eq_none_iff, List.mem_filter,
      beq_iff_eq]
    constructor
    · rintro ⟨e, ⟨he, hselects⟩, hlacks⟩
      exact ⟨e, he, hlacks, Or.inr hselects⟩
    · rintro ⟨e, he, hlacks, rfl | hselects⟩
      · exact absurd (selects?_eq_none_iff.mpr ⟨rfl, hlacks⟩) (hall e he)
      · exact ⟨e, ⟨he, hselects⟩, hlacks⟩
  -- the filter has no answer for an entry
  · have hnone : select? filter now s.store.entries = none :=
      Option.eq_none_iff_forall_ne_some.mpr fun _ h => hall (select?_eq_some_iff.mp h).1
    rw [hnone]
    obtain ⟨e, he, hselects⟩ : ∃ e ∈ s.store.entries, filter.selects? e.task now = none := by
      simpa using hall
    obtain ⟨htomorrow, hlacks⟩ := selects?_eq_none_iff.mp hselects
    exact iff_of_true rfl ⟨e, he, hlacks, Or.inl htomorrow⟩

/-- The entries of what is shown. -/
theorem toEntry_of_showing? {reply : Reply} (h : s.showing? filter now = some reply) :
    ∃ views, reply.request = some (.showTasks filter.title views) ∧
      views.map View.toEntry
        = s.store.entries.filter fun e => filter.selects? e.task now == some true := by
  unfold showing? at h
  simp only [bind, Option.bind_eq_some_iff, pure, Option.some.injEq] at h
  obtain ⟨entries, hentries, views, hviews, rfl⟩ := h
  refine ⟨views, rfl, ?_⟩
  rw [toEntry_of_views? hviews, (select?_eq_some_iff.mp hentries).2]

/-- **What a line shows is what its filter selects, and every number in it names its task.** The
views have the entries that the filter selects, each once and in ascending order of their numbers in
the whole list; and when a line removes, marks or edits what has the number of a view, the command
is about the one task of this view and its position. So it is with the views of the whole list.
There is no answer only when some view or the filter itself has to know a day that the calendar does
not have. -/
theorem shown_numbers_name_tasks (s : Session) (text : String) (now : DateTime) (filter : Filter)
    (hread : Action.ofText s.implicitAdd s.store.list text now = .read (.show filter))
    (hsize : s.store.total < UInt64.size) :
    (s.run text now = none ↔ ∃ e ∈ s.store.entries, e.LacksTomorrow now ∧
      (filter = .tomorrow ∨ filter.selects? e.task now = some true)) ∧
    (∀ reply s', s.run text now = some (reply, s') → s' = s ∧ ∃ views,
      reply.request = some (.showTasks filter.title views) ∧
      views.map View.toEntry
        = s.store.entries.filter (fun e => filter.selects? e.task now == some true) ∧
      views.Pairwise (·.id < ·.id) ∧ ∀ v ∈ views, s.store.list.NamedById v.toEntry) ∧
    ((s.store.listing now).views? = none ↔ ∃ e ∈ s.store.entries, e.LacksTomorrow now) ∧
    ∀ views, (s.store.listing now).views? = some views →
      views.map View.toEntry = s.store.entries ∧ ∀ v ∈ views, s.store.list.NamedById v.toEntry := by
  have hrun : s.run text now = (s.showing? filter now).map fun reply => (reply, s) := by
    unfold run
    rw [hread]
    rfl
  have hnamed : ∀ {views : List View}, views.map View.toEntry ⊆ s.store.entries →
      ∀ v ∈ views, s.store.list.NamedById v.toEntry := fun hsub v hv =>
    Store.namedById_of_mem_entries hsize (hsub (List.mem_map_of_mem hv))
  refine ⟨?_, fun reply s' h => ?_, views?_eq_none_iff, fun views hviews => ?_⟩
  · rw [hrun, Option.map_eq_none_iff]
    exact showing?_eq_none_iff
  · rw [hrun] at h
    obtain ⟨reply, hshowing, heq⟩ := Option.map_eq_some_iff.mp h
    cases heq
    obtain ⟨views, hrequest, hentries⟩ := toEntry_of_showing? hshowing
    have hascending : (views.map View.toEntry).Pairwise (·.id < ·.id) := by
      rw [hentries]
      exact (pairwise_numberFrom 1 s.store.tasks).1.filter _
    rw [List.pairwise_map] at hascending
    refine ⟨rfl, views, hrequest, hentries, hascending, hnamed ?_⟩
    rw [hentries]
    exact List.filter_subset_self _
  · have hentries := toEntry_of_views? hviews
    exact ⟨hentries, hnamed (hentries ▸ List.Subset.refl _)⟩

/-- Of bread and two kinds of milk, a search for milk shows the second and the third task, and the
number of the last one removes it. -/
theorem oat_milk_removed_by_number :
    let milk : Task := { description := "milk" }
    let oatMilk : Task := { description := "oat milk" }
    let s : Session :=
      { store := { list := { tasks := [{ description := "bread" }, milk, oatMilk] }
                   repository := .memory [] false } }
    let now : DateTime := ⟨⟨20000, by decide, by decide⟩, .midnight⟩
    (∃ reply views, s.run "show milk" now = some (reply, s) ∧
      reply.request = some (.showTasks "tasks containing \"milk\"" views) ∧
      views.map View.toEntry = [⟨2, milk⟩, ⟨3, oatMilk⟩]) ∧
    Action.ofText false s.store.list "remove 3" now
      = .read (.execute (.remove [⟨2, oatMilk⟩])) := by
  intro milk oatMilk s now
  have hread : Action.ofText s.implicitAdd s.store.list "show milk" now
      = .read (.show (.description "milk")) := by decide +kernel
  have hfound : s.store.entries.filter
      (fun e => (Filter.description "milk").selects? e.task now == some true)
      = [⟨2, milk⟩, ⟨3, oatMilk⟩] := by decide +kernel
  obtain ⟨hnone, hshown, -⟩ :=
    shown_numbers_name_tasks s "show milk" now _ hread (by decide)
  -- no task has an end, so no tomorrow is lacking
  have hends : ∀ e ∈ s.store.entries, e.task.ends = none := by decide
  have hanswered : s.run "show milk" now ≠ none := fun h => by
    obtain ⟨e, he, ⟨hlacks, -⟩, -⟩ := hnone.mp h
    exact hlacks (hends e he)
  obtain ⟨⟨reply, s'⟩, hrun⟩ := Option.ne_none_iff_exists'.mp hanswered
  obtain ⟨rfl, views, hrequest, hentries, -, hnamed⟩ := hshown reply s' hrun
  rw [hfound] at hentries
  have hview : (⟨3, oatMilk⟩ : Entry) ∈ views.map View.toEntry := by
    rw [hentries]
    decide
  obtain ⟨v, hv, hentry⟩ := List.mem_map.mp hview
  have hline : "remove 3" = "remove " ++ toString (⟨3, oatMilk⟩ : Entry).id := by decide +kernel
  have hremoved := (hnamed v hv).removed false now
  rw [hentry, ← hline] at hremoved
  exact ⟨⟨reply, views, hrun, hrequest, hentries⟩, hremoved⟩

end Session

end Agenda
