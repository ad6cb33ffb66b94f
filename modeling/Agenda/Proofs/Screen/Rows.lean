import Agenda.Proofs.Screen.Run
import Agenda.Proofs.Store.Call

/-!
# The rows of a console

The numbers in the rows are what the user names tasks by, so they have to be those of the list. A
change of the list brings back the whole list as title and sends a snapshot, and what a filter shows
comes from the list as it is. So at any time the rows are up to date, or the title is that of the
whole list and a snapshot waits to be picked up (`Console.Current`). Every event keeps this
(`Console.current_step`), and a sync makes the rows up to date (`Console.rows_after_sync`).
-/

namespace Agenda

open Store (Shows)

/-! ### What a filter shows -/

namespace Session

variable {s s' : Session} {filter : Filter} {text title : String} {now : DateTime} {reply : Reply}
  {views : List View} {entries selected : List Entry}

theorem sublist_of_select? (h : select? filter now entries = some selected) :
    selected.Sublist entries := by
  induction entries generalizing selected with
  | nil =>
    cases h
    exact List.Sublist.slnil
  | cons e rest ih =>
    simp only [select?, bind, Option.bind_eq_some_iff, pure, Option.some.injEq] at h
    obtain ⟨chosen, -, more, hmore, rfl⟩ := h
    cases chosen with
    | true => exact (ih hmore).cons_cons e
    | false => exact (ih hmore).cons e

/-- The filter for all tasks selects all entries. -/
theorem select?_all (now : DateTime) (entries : List Entry) :
    select? .all now entries = some entries := by
  induction entries with
  | nil => rfl
  | cons e rest ih =>
    rw [select?, ih]
    rfl

/-- No other filter has the title of the whole list. -/
theorem title_eq_allTasks_iff : filter.title = Console.allTasks ↔ filter = .all := by
  -- titles that have a part of their own are told apart by their first letter
  have hhead : ∀ (first : Char) (rest : List Char) (name : String), first ≠ 'a' →
      String.ofList (first :: rest) ++ name ≠ Console.allTasks := by
    intro first rest name hne h
    have htext := congrArg (fun s : String => s.toList.head?) h
    rw [String.toList_append, String.toList_ofList] at htext
    exact hne (Option.some.inj htext)
  cases filter with
  | tag name => exact iff_of_false (hhead 't' _ name (by decide)) Filter.noConfusion
  | dueOn date => exact iff_of_false (hhead 't' _ date.slashed (by decide)) Filter.noConfusion
  | description text =>
    refine iff_of_false ?_ Filter.noConfusion
    show "tasks containing \"" ++ text ++ "\"" ≠ _
    rw [String.append_assoc]
    exact hhead 't' _ (text ++ "\"") (by decide)
  | all => exact iff_of_true rfl rfl
  | done | undone | ongoing | overdue | today | tomorrow =>
    exact iff_of_false (by decide) Filter.noConfusion

theorem toEntry_of_view? {e : Entry} {v : View} (h : e.view? now = some v) : v.toEntry = e := by
  obtain ⟨_, -, rfl⟩ := Option.map_eq_some_iff.mp h
  rfl

theorem toEntry_of_views? (h : Listing.views? ⟨entries, now⟩ = some views) :
    views.map View.toEntry = entries := by
  unfold Listing.views? at h
  induction entries generalizing views with
  | nil =>
    cases h
    rfl
  | cons e rest ih =>
    simp only [List.mapM_cons, bind, Option.bind_eq_some_iff, pure, Option.some.injEq] at h
    obtain ⟨v, hv, more, hmore, rfl⟩ := h
    rw [List.map_cons, toEntry_of_view? hv, ih hmore]

/-- **A filter shows entries of the list as it is**, the filter for all tasks all of them. -/
theorem shown_of_showing? (h : s.showing? filter now = some reply) :
    ∃ views, reply.status = .normal ∧ reply.request = some (.showTasks filter.title views) ∧
      (∀ e ∈ views.map View.toEntry, e ∈ s.store.entries) ∧
      (filter.title = Console.allTasks → views.map View.toEntry = s.store.entries) := by
  unfold showing? at h
  simp only [bind, Option.bind_eq_some_iff, pure, Option.some.injEq] at h
  obtain ⟨entries, hentries, views, hviews, rfl⟩ := h
  refine ⟨views, rfl, rfl, ?_, ?_⟩
  · rw [toEntry_of_views? hviews]
    exact (sublist_of_select? hentries).subset
  · intro htitle
    rw [title_eq_allTasks_iff.mp htitle, select?_all] at hentries
    rw [toEntry_of_views? hviews, ← Option.some.inj hentries]

/-- **Only a line that asks for tasks is answered by showing tasks**, and it changes nothing. -/
theorem showing?_of_run (h : s.run text now = some (reply, s')) :
    (∃ filter, s' = s ∧ s.showing? filter now = some reply) ∨
      ∀ title views, reply.request ≠ some (.showTasks title views) := by
  unfold run at h
  split at h
  · rename_i action _
    cases action with
    | «show» filter =>
      simp only [perform, Option.map_eq_some_iff, Prod.mk.injEq] at h
      obtain ⟨reply', hreply, rfl, rfl⟩ := h
      exact Or.inl ⟨filter, rfl, hreply⟩
    | execute c | undo | redo =>
      refine Or.inr ?_
      simp only [perform] at h
      split at h <;> cases h <;> simp [failure]
    | hide | help | about | settings | exit =>
      refine Or.inr ?_
      cases h
      simp
  · refine Or.inr ?_
    cases h
    simp [failure]
  · cases h

end Session

/-! ### Answers -/

namespace Console

variable {c c' : Console} {session session' : Session} {settings : Settings} {now : DateTime}
  {reply : Reply} {rows : Listing}

theorem answer_of_shown (c : Console) (now : DateTime) {title : String} {views : List View}
    (h : reply.request = some (.showTasks title views)) :
    (c.answer now reply).rows = ⟨views.map View.toEntry, now⟩ ∧
      (c.answer now reply).title = title := by
  unfold answer react
  simp [h]

/-- An answer that shows no tasks leaves the rows as they are; a success brings back the title of
the whole list. -/
theorem answer_of_not_shown (c : Console) (now : DateTime)
    (h : ∀ title views, reply.request ≠ some (.showTasks title views)) :
    (c.answer now reply).rows = c.rows ∧
      (c.answer now reply).title = if reply.status = .success then allTasks else c.title := by
  unfold answer react
  dsimp only
  split <;> split <;> simp_all

/-! ### Rows that are up to date -/

/-- The rows have numbers and tasks of the list, and under the title of the whole list they are all
of it. -/
structure UpToDate (c : Console) : Prop where
  mem : ∀ e ∈ c.rows.entries, e ∈ c.session.store.entries
  whole : c.title = allTasks → c.rows.entries = c.session.store.entries

/-- The latest snapshot is of the list as it is, and the rows are up to date or about to be. -/
structure Current (c : Console) : Prop where
  latest : ∀ snapshot ∈ c.session.store.outbox.getLast?, snapshot = c.session.store.entries
  rows : c.UpToDate ∨ (c.title = allTasks ∧ c.session.store.outbox ≠ [])

theorem UpToDate.congr (h : c.UpToDate) (hsame : c.SameRows c') : c'.UpToDate := by
  have hentries : c'.session.store.entries = c.session.store.entries :=
    congrArg Entry.number hsame.tasks
  constructor
  · rw [hsame.rows, hentries]
    exact h.mem
  · rw [hsame.rows, hentries, hsame.title]
    exact h.whole

theorem Current.congr (h : c.Current) (hsame : c.SameRows c') : c'.Current := by
  have hentries : c'.session.store.entries = c.session.store.entries :=
    congrArg Entry.number hsame.tasks
  constructor
  · rw [hsame.outbox, hentries]
    exact h.latest
  · rw [hsame.outbox, hsame.title]
    exact h.rows.imp_left (·.congr hsame)

/-- **A console shows the whole list from the beginning.** -/
theorem current_start
    (h : ∀ snapshot ∈ session.store.outbox.getLast?, snapshot = session.store.entries)
    (settings : Settings) (now : DateTime) : (start session settings now).Current :=
  ⟨h, Or.inl ⟨fun _ he => he, fun _ => rfl⟩⟩

/-- **An answer keeps the rows current**: what a filter shows is up to date, and a success sends a
snapshot under the title of the whole list. -/
theorem current_answer {text : String} (h : c.Current)
    (hrun : c.session.run text now = some (reply, session)) :
    (({ c with session } : Console).answer now reply).Current := by
  have hsession := (answer_spec { c with session } now reply).1
  rcases Session.showing?_of_run hrun with ⟨filter, rfl, hshowing⟩ | hnot
  · obtain ⟨views, -, hrequest, hmem, hwhole⟩ := Session.shown_of_showing? hshowing
    obtain ⟨hrows, htitle⟩ := answer_of_shown c now hrequest
    refine ⟨?_, Or.inl ⟨?_, ?_⟩⟩
    · rw [hsession]
      exact h.latest
    · rw [hsession, hrows]
      exact hmem
    · rw [hsession, hrows, htitle]
      exact hwhole
  · obtain ⟨hrows, htitle⟩ := answer_of_not_shown { c with session } now hnot
    rcases Session.transaction_or_kept (Session.ran hrun) with
      ⟨hsuccess, draft, htransaction⟩ | ⟨hstatus, hkept⟩
    · -- a success: the snapshot that it has sent is the list as it is now
      obtain ⟨_, -, -, -, houtbox⟩ := Store.exists_of_transaction_ok htransaction
      rw [if_pos hsuccess] at htitle
      constructor
      · rw [hsession, houtbox, List.getLast?_concat]
        intro snapshot hsnapshot
        exact (Option.some.inj hsnapshot).symm
      · rw [hsession, houtbox]
        exact Or.inr ⟨htitle, List.append_ne_nil_of_right_ne_nil _ (List.cons_ne_nil _ _)⟩
    · rw [if_neg hstatus] at htitle
      refine h.congr ⟨?_, ?_, htitle, hrows⟩
      · rw [hsession]
        exact congrArg TaskList.tasks hkept.list
      · rw [hsession]
        exact hkept.outbox

/-- **A sync makes the rows up to date.** -/
theorem upToDate_sync (h : c.Current) (now : DateTime) : (c.sync now).UpToDate := by
  obtain ⟨hsession, htitle, -, hrows⟩ := sync_spec c now
  have hentries : (c.sync now).session.store.entries = c.session.store.entries := by
    rw [hsession]
    rfl
  rcases h.rows with hfresh | ⟨hall, hwaiting⟩
  · -- what is picked up is what the rows are anyway
    have hsame : (c.sync now).rows.entries = c.rows.entries := by
      rw [hrows]
      split
      · rename_i hall
        cases hlatest : c.session.store.outbox.getLast? with
        | none => rfl
        | some entries =>
          rw [Option.getD_some, h.latest entries hlatest, hfresh.whole hall]
      · rfl
    constructor
    · rw [hsame, hentries]
      exact hfresh.mem
    · rw [hsame, hentries, htitle]
      exact hfresh.whole
  · have hwhole : (c.sync now).rows.entries = c.session.store.entries := by
      have hlatest := List.getLast?_eq_some_getLast hwaiting
      rw [hrows, if_pos hall, hlatest, Option.getD_some]
      exact h.latest _ hlatest
    constructor
    · rw [hwhole, hentries]
      exact fun _ he => he
    · rw [hwhole, hentries]
      exact fun _ => rfl

theorem current_sync (h : c.Current) (now : DateTime) : (c.sync now).Current := by
  refine ⟨?_, Or.inl (upToDate_sync h now)⟩
  rw [(sync_spec c now).1]
  intro snapshot hsnapshot
  cases hsnapshot

/-- **Every event keeps the rows current.** -/
theorem current_step (h : c.Current) (event : Event) : (c.step event).Current := by
  have hstepped := stepped c event
  generalize c.step event = c' at hstepped
  cases hstepped with
  | @answered text now reply session input cursor hrun _ =>
    have hinput : ({ c with input, cursor } : Console).Current := h.congr ⟨rfl, rfl, rfl, rfl⟩
    exact current_answer hinput hrun
  | synced now _ => exact current_sync h now
  | announced _ => exact h.congr ⟨rfl, rfl, rfl, rfl⟩
  | same hrows => exact h.congr hrows

theorem current_after (h : c.Current) (events : List Event) : (c.after events).Current := by
  induction events generalizing c with
  | nil => exact h
  | cons event rest ih => exact ih (current_step h event)

/-! ### No row has a stale number -/

/-- The entries of a store are its tasks at the positions before their numbers. -/
theorem getElem?_of_mem_entries {store : Store} {e : Entry} (h : e ∈ store.entries) :
    1 ≤ e.id ∧ store.tasks[e.id - 1]? = some e.task := by
  obtain ⟨i, hi⟩ := List.mem_iff_getElem?.mp h
  have hshows := Store.shows_number store.tasks i
  rw [Store.entries] at hi
  rw [hi] at hshows
  obtain ⟨t, ht, heq⟩ := Option.map_eq_some_iff.mp hshows.symm
  subst heq
  exact ⟨Nat.le_add_left 1 i, ht⟩

/-- **After any run and a sync no row has a stale number.** The task with the number of a row is the
one in the row, and under the title of the whole list the rows are all tasks in their order. -/
theorem rows_after_sync (settings : Settings) (opened now : DateTime) (events : List Event)
    (h : ∀ snapshot ∈ session.store.outbox.getLast?, snapshot = session.store.entries) :
    let c := ((start session settings opened).after events).sync now
    (∀ row ∈ c.rows.entries,
      1 ≤ row.id ∧ c.session.store.tasks[row.id - 1]? = some row.task) ∧
    (c.title = allTasks → Shows c.rows.entries c.session.store.tasks) := by
  intro c
  have hcurrent := current_after (current_start h settings opened) events
  have hfresh : c.UpToDate := upToDate_sync hcurrent now
  refine ⟨fun row hrow => getElem?_of_mem_entries (hfresh.mem row hrow), fun htitle => ?_⟩
  rw [hfresh.whole htitle]
  exact Store.shows_number _

/-- A filter is shown before and after a removal, and the snapshot is picked up only then. -/
theorem rows_after_bread_shown_again :
    let now : DateTime := ⟨⟨20000, by decide, by decide⟩, .midnight⟩
    let session : Session :=
      { store := Store.onMemory [{ description := "bread" }, { description := "milk" }] false }
    let events : List Event :=
      [.line "show bread" now, .line "remove 2" now, .line "show bread" now]
    let c := ((start session {} now).after events).sync now
    (∀ snapshot ∈ session.store.outbox.getLast?, snapshot = session.store.entries) ∧
      (∀ row ∈ c.rows.entries,
        1 ≤ row.id ∧ c.session.store.tasks[row.id - 1]? = some row.task) ∧
      (c.title = allTasks → Shows c.rows.entries c.session.store.tasks) := by
  intro now session events
  have hlatest : ∀ snapshot ∈ session.store.outbox.getLast?,
      snapshot = session.store.entries :=
    fun snapshot hsnapshot => absurd hsnapshot (Option.not_mem_none snapshot)
  exact ⟨hlatest, rows_after_sync {} now now events hlatest⟩

end Console

end Agenda
