import Agenda.History
import Agenda.Proofs.Command.Trade
import Agenda.Proofs.Store.Transaction

/-!
# Commands on lists that they were not made for

A command holds tasks with their positions, and the list may have become another one since. Carried
out on any list whatever, it either makes all its trades or changes nothing (`exact_on_any_list`):
no task is touched that is not an old value of one of its targets. Whether it succeeds depends only
on which tasks are there, and so does the way back. It leads over the same bags in the opposite
order, so it can always be gone after a success, in both directions.
-/

namespace Agenda

namespace Store

variable {s : Store} {draft : Draft Unit} {ts : List Trade} {M' : Multiset Task}

/-- **On a repository that works a draft makes all its trades or changes nothing.** -/
theorem transaction_of_makes (h : draft.Makes ts) (hworks : s.repository.Works) :
    (∃ s', (transaction draft).run s = .ok () s' ∧ Traded ts s.list.bag s'.list.bag) ∨
    ((∃ position, (transaction draft).run s = .error (.taskMoved position) s) ∧
      ∀ M', ¬Traded ts s.list.bag M') := by
  rcases h s.list with ⟨l, hdraft, htraded⟩ | ⟨position, l, hdraft, hnot⟩
  · obtain ⟨s', hrun, hlist⟩ := exists_transaction_ok hworks hdraft
    refine Or.inl ⟨s', hrun, ?_⟩
    rwa [hlist, TaskList.bag_sorted]
  · exact Or.inr ⟨⟨position, transaction_error hdraft⟩, hnot⟩

/-- Trades that can be made are made. -/
theorem transaction_of_traded (h : draft.Makes ts) (hworks : s.repository.Works)
    (htraded : Traded ts s.list.bag M') :
    ∃ s', (transaction draft).run s = .ok () s' ∧ s'.list.bag = M' := by
  rcases transaction_of_makes h hworks with ⟨s', hrun, htraded'⟩ | ⟨-, hnot⟩
  · exact ⟨s', hrun, htraded'.unique htraded⟩
  · exact absurd htraded (hnot M')

/-- What a successful transaction has done to the bag. -/
theorem traded_of_transaction {s' : Store} (h : draft.Makes ts)
    (hrun : (transaction draft).run s = .ok () s') : Traded ts s.list.bag s'.list.bag := by
  obtain ⟨l, hdraft, -, hlist, -⟩ := exists_of_transaction_ok hrun
  rw [hlist, TaskList.bag_sorted]
  exact h.traded hdraft

/-- From any order of the tasks of a store, where saving works, a change leads to those of another
one. -/
def Leads (change : EStateM StoreError Store Unit) (source target : Store) : Prop :=
  ∀ s : Store, s.list.bag = source.list.bag → s.repository.Works →
    ∃ s', change.run s = .ok () s' ∧ s'.list.bag = target.list.bag

end Store

namespace Command

variable {c : Command} {s : Store}

/-- **On any list a command changes just the tasks that it names, or nothing.** Where saving works,
it succeeds exactly when each of its targets is there when its turn comes. Then the old values of
its targets have gone out of the list and the new ones have come in; else a task has moved, and
nothing is changed. After a success it can always be taken back, which gives back the tasks from
before, and after it was taken back from a list it can always be carried out again on what is
left. -/
theorem exact_on_any_list (hclear : ∀ tasks, c ≠ clear tasks) (hworks : s.repository.Works) :
    ((∃ s', c.run.run s = .ok () s') ↔ ∃ M', Traded c.trades s.list.bag M') ∧
    ((∃ s', c.run.run s = .ok () s' ∧
        c.outgoing + s'.list.bag = c.incoming + s.list.bag) ∨
      ∃ position, c.run.run s = .error (.taskMoved position) s) ∧
    (∀ s', c.run.run s = .ok () s' → Store.Leads c.undo s' s) ∧
    (∀ s', c.undo.run s = .ok () s' → Store.Leads c.run s' s) := by
  have hrun := makes_apply hclear
  have hundo := makes_revert hclear
  refine ⟨⟨?_, ?_⟩, ?_, ?_, ?_⟩
  · rintro ⟨s', hok⟩
    exact ⟨_, Store.traded_of_transaction hrun hok⟩
  · rintro ⟨M', htraded⟩
    obtain ⟨s', hok, -⟩ := Store.transaction_of_traded hrun hworks htraded
    exact ⟨s', hok⟩
  · rcases Store.transaction_of_makes hrun hworks with ⟨s', hok, htraded⟩ | ⟨herror, -⟩
    · have hbalance := htraded.balance
      rw [(sum_trades hclear).1, (sum_trades hclear).2] at hbalance
      exact Or.inl ⟨s', hok, hbalance⟩
    · exact Or.inr herror
  · intro s' hok t hbag hworks'
    have hback := (Store.traded_of_transaction hrun hok).back
    rw [← hbag] at hback
    exact Store.transaction_of_traded hundo hworks' hback
  · intro s' hok t hbag hworks'
    -- trades that are turned around twice are the same ones
    have hback := (Store.traded_of_transaction hundo hok).back
    rw [← List.map_reverse, List.reverse_reverse, List.map_map] at hback
    have hsame : c.trades.map (Trade.back ∘ Trade.back) = c.trades := List.map_id _
    rw [hsame, ← hbag] at hback
    exact Store.transaction_of_traded hrun hworks' hback

/-- Commands with wrong positions on a list of two tasks: an edit whose first target gets the value
that its second one had, and a mark on both tasks. -/
theorem stale_commands_there_and_back :
    let milk : Task := { description := "milk" }
    let bread : Task := { description := "bread" }
    let cake : Task := { description := "cake" }
    let tea : Task := { description := "tea" }
    let s : Store := { list := { tasks := [tea, milk] }, repository := .memory [] false }
    let leads (c : Command) (tasks : List Task) : Prop :=
      ∃ s', c.run.run s = .ok () s' ∧ s'.list.bag = tasks ∧
        ∃ s'', c.undo.run s' = .ok () s'' ∧ s''.list.bag = [tea, milk]
    leads (edit [⟨5, milk, bread⟩, ⟨0, bread, cake⟩]) [tea, cake] ∧
      leads (mark [⟨5, milk⟩, ⟨1, tea⟩] true)
        [{ tea with done := true }, { milk with done := true }] := by
  intro milk bread cake tea s leads
  have hworks : s.repository.Works := Repository.works_memory []
  have hleads : ∀ {c : Command} {tasks : List Task}, (∀ tasks, c ≠ clear tasks) →
      Traded c.trades s.list.bag tasks → c.incoming + s.list.bag = c.outgoing + tasks →
      leads c tasks := by
    intro c tasks hclear htraded hbag
    obtain ⟨hsuccess, hexact, hback, -⟩ := exact_on_any_list hclear hworks
    obtain ⟨s', hrun⟩ := hsuccess.mpr ⟨_, htraded⟩
    rcases hexact with ⟨s₁, hrun₁, hbalance⟩ | ⟨position, herror⟩
    · rw [hrun] at hrun₁
      cases hrun₁
      have hworks' : s'.repository.Works := by
        rw [Store.memory_of_transaction_ok rfl hrun]
        exact Repository.works_memory _
      exact ⟨s', hrun, add_left_cancel (hbalance.trans hbag), hback s' hrun s' rfl hworks'⟩
    · rw [hrun] at herror
      cases herror
  refine ⟨hleads (fun _ => Command.noConfusion) ?_ (by decide),
    hleads (fun _ => Command.noConfusion) ?_ (by decide)⟩
  · -- both trades leave the tea alone
    refine ⟨{tea}, by decide, {tea}, by decide, ?_⟩
    show (([tea, cake] : List Task) : Multiset Task) = {cake} + {tea}
    decide
  · -- the tea is traded first, since marks go from the last target to the first
    refine ⟨{milk}, by decide, {{ tea with done := true }}, by decide, ?_⟩
    show (([{ tea with done := true }, { milk with done := true }] : List Task) : Multiset Task)
      = {{ milk with done := true }} + {{ tea with done := true }}
    decide

end Command

end Agenda
