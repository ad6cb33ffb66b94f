import Agenda.Proofs.Command.Trade
import Mathlib.Algebra.Order.Sub.Basic

/-!
# What commands do to the bag of tasks

`Command.effect` says what a command does to the tasks when their order is forgotten, and
`Command.Fits` says that the tasks a command takes away are there. A command that fits succeeds and
has its effect (`run_apply`), and taking it back succeeds and gives back the bag from before
(`run_revert`). Both come from the trades of the command, which can all be made where it fits
(`traded_of_fits`); clearing makes no trades and is looked at by itself.
-/

namespace Agenda

/-- What comes in and goes out settles the bag after, when what goes out was there. -/
theorem eq_sub_add_of_balance {M M' outgoing incoming : Multiset Task}
    (balance : outgoing + M' = incoming + M) (h : outgoing ≤ M) :
    M' = M - outgoing + incoming := by
  obtain ⟨rest, rfl⟩ := Multiset.le_iff_exists_add.mp h
  rw [add_tsub_cancel_left]
  rw [add_left_comm] at balance
  rw [add_left_cancel balance, add_comm]

namespace Command

/-- What a command does to the tasks, their order forgotten. -/
def effect : Command → Multiset Task → Multiset Task
  | add task, M => task ::ₘ M
  | remove targets, M => M - targets.map (·.task)
  | edit targets, M => M - targets.map (·.before) + targets.map (·.after)
  | mark targets done, M =>
    M - targets.map (·.task) + targets.map fun t => ({ t.task with done := done } : Task)
  | clear _, _ => 0

/-- The tasks that a command takes away are there. -/
def Fits : Command → Multiset Task → Prop
  | add _, _ => True
  | remove targets, M => (targets.map (·.task) : Multiset Task) ≤ M
  | edit targets, M => (targets.map (·.before) : Multiset Task) ≤ M
  | mark targets _, M => (targets.map (·.task) : Multiset Task) ≤ M
  | clear tasks, M => (tasks : Multiset Task) = M

variable {c : Command} {l : TaskList} {M : Multiset Task}

/-! ### Trades of commands that fit -/

theorem outgoing_le_of_fits (fits : c.Fits M) : c.outgoing ≤ M := by
  cases c with
  | add task => exact Multiset.zero_le M
  | remove targets => exact fits
  | edit targets => exact fits
  | mark targets done => exact fits
  | clear tasks => exact le_of_eq fits

theorem effect_eq (hclear : ∀ tasks, c ≠ clear tasks) :
    c.effect M = M - c.outgoing + c.incoming := by
  cases c with
  | add task =>
    show task ::ₘ M = M - 0 + {task}
    rw [tsub_zero, add_comm, Multiset.singleton_add]
  | remove targets => exact (add_zero _).symm
  | edit targets => rfl
  | mark targets done => rfl
  | clear tasks => exact absurd rfl (hclear tasks)

/-- **Where a command fits, its trades lead to its effect.** -/
theorem traded_of_fits (hclear : ∀ tasks, c ≠ clear tasks) (fits : c.Fits M) :
    Traded c.trades M (c.effect M) := by
  obtain ⟨houtgoing, hincoming⟩ := sum_trades hclear
  have hle := outgoing_le_of_fits fits
  obtain ⟨M', htraded⟩ := exists_traded_of_le (houtgoing.symm ▸ hle)
  -- the trades can be made, and the balance settles which bag they lead to
  have hbalance := htraded.balance
  rw [houtgoing, hincoming] at hbalance
  rw [effect_eq hclear, ← eq_sub_add_of_balance hbalance hle]
  exact htraded

/-! ### Commands -/

theorem clear_or_not (c : Command) : (∃ tasks, c = clear tasks) ∨ ∀ tasks, c ≠ clear tasks := by
  cases c <;> simp

/-- **A command that fits succeeds and has its effect.** -/
theorem run_apply (fits : c.Fits l.bag) :
    ∃ l', c.apply.run l = .ok () l' ∧ l'.bag = c.effect l.bag := by
  rcases clear_or_not c with ⟨tasks, rfl⟩ | hclear
  · exact ⟨_, rfl, TaskList.bag_clear⟩
  · exact (makes_apply hclear).run (traded_of_fits hclear fits)

/-- **Taking back a command that was carried out succeeds and gives back the bag from before.** -/
theorem run_revert (fits : c.Fits M) (h : l.bag = c.effect M) :
    ∃ l', c.revert.run l = .ok () l' ∧ l'.bag = M := by
  rcases clear_or_not c with ⟨tasks, rfl⟩ | hclear
  -- only the whole bag fits clearing, and it is what is put back
  · exact ⟨_, rfl, fits⟩
  · have hback := (traded_of_fits hclear fits).back
    rw [← h] at hback
    exact (makes_revert hclear).run hback

end Command

end Agenda
