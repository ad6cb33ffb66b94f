import Agenda.Command
import Agenda.Proofs.TaskList
import Mathlib.Algebra.Order.Group.Multiset

/-!
# Commands as trades

Order forgotten, each step of a command trades tasks of the list for others: an addition takes one
in, a removal gives one out, and a swap does both. A trade can be made exactly when what goes out is
there, and turned around it leads back (`Traded.back`).

On any list a command makes its trades one after the other, and it fails at the first one that
cannot be made (`Command.makes_apply`). Taking it back makes the same trades turned around, the last
one first (`Command.makes_revert`). Both say nothing about where the tasks lie: they are found by
their value when their position is wrong.
-/

namespace Agenda

/-! ### Trades -/

/-- The tasks that a step gives out and those that it takes in. -/
structure Trade where
  outgoing : Multiset Task
  incoming : Multiset Task

/-- The trade that takes another one back. -/
def Trade.back (t : Trade) : Trade :=
  ⟨t.incoming, t.outgoing⟩

/-- Trades made one after the other lead from a bag to another one: what a trade gives out is there
when its turn comes. -/
def Traded : List Trade → Multiset Task → Multiset Task → Prop
  | [], M, M' => M' = M
  | t :: rest, M, M' => ∃ kept, M = t.outgoing + kept ∧ Traded rest (t.incoming + kept) M'

section Trades

variable {t : Trade} {ts us : List Trade} {M M' M'' : Multiset Task}

theorem traded_append :
    Traded (ts ++ us) M M'' ↔ ∃ M', Traded ts M M' ∧ Traded us M' M'' := by
  induction ts generalizing M with
  | nil => simp [Traded]
  | cons t rest ih =>
    constructor
    · rintro ⟨kept, hM, hrest⟩
      obtain ⟨M', hfirst, hsecond⟩ := ih.mp hrest
      exact ⟨M', ⟨kept, hM, hfirst⟩, hsecond⟩
    · rintro ⟨M', ⟨kept, hM, hfirst⟩, hsecond⟩
      exact ⟨kept, hM, ih.mpr ⟨M', hfirst, hsecond⟩⟩

/-- **Trades lead back when they are turned around**, the last one first. -/
theorem Traded.back (h : Traded ts M M') : Traded (ts.reverse.map Trade.back) M' M := by
  induction ts generalizing M with
  | nil => exact Eq.symm h
  | cons t rest ih =>
    obtain ⟨kept, hM, hrest⟩ := h
    rw [List.reverse_cons, List.map_append]
    exact traded_append.mpr ⟨t.incoming + kept, ih hrest, kept, rfl, hM⟩

/-- Trades lead to one bag only. -/
theorem Traded.unique (h : Traded ts M M') (h' : Traded ts M M'') : M' = M'' := by
  induction ts generalizing M with
  | nil => exact Eq.trans h (Eq.symm h')
  | cons t rest ih =>
    obtain ⟨kept, hM, hrest⟩ := h
    obtain ⟨kept', hM', hrest'⟩ := h'
    -- a bag can be cancelled, so the same tasks are kept on both ways
    obtain rfl : kept = kept' := add_left_cancel (hM.symm.trans hM')
    exact ih hrest hrest'

/-- **All that goes out and the bag after are all that comes in and the bag before.** -/
theorem Traded.balance (h : Traded ts M M') :
    (ts.map (·.outgoing)).sum + M' = (ts.map (·.incoming)).sum + M := by
  induction ts generalizing M with
  | nil => exact congrArg (0 + ·) h
  | cons t rest ih =>
    obtain ⟨kept, rfl, hrest⟩ := h
    rw [List.map_cons, List.map_cons, List.sum_cons, List.sum_cons, add_assoc, ih hrest]
    ac_rfl

/-- Trades can be made where all that they give out is there from the beginning. -/
theorem exists_traded_of_le (h : (ts.map (·.outgoing)).sum ≤ M) : ∃ M', Traded ts M M' := by
  induction ts generalizing M with
  | nil => exact ⟨M, rfl⟩
  | cons t rest ih =>
    obtain ⟨kept, rfl⟩ := Multiset.le_iff_exists_add.mp h
    rw [List.map_cons, List.sum_cons, add_assoc]
    obtain ⟨M', hrest⟩ := ih (M := t.incoming + ((rest.map (·.outgoing)).sum + kept))
      ((Multiset.le_add_right _ kept).trans (Multiset.le_add_left _ _))
    exact ⟨M', _, rfl, hrest⟩

end Trades

/-! ### Drafts that make trades -/

/-- On any list a draft makes trades: it leads to the bag that they lead to, or it fails for a task
that has moved, where one of them cannot be made. -/
def Draft.Makes (draft : Draft Unit) (ts : List Trade) : Prop :=
  ∀ l, (∃ l', draft.run l = .ok () l' ∧ Traded ts l.bag l'.bag) ∨
    ∃ position l', draft.run l = .error (.taskMoved position) l' ∧ ∀ M', ¬Traded ts l.bag M'

namespace Draft

variable {draft : Draft Unit} {ts : List Trade} {l l' : TaskList} {M' : Multiset Task}

theorem Makes.traded (h : draft.Makes ts) (hrun : draft.run l = .ok () l') :
    Traded ts l.bag l'.bag := by
  rcases h l with ⟨l₁, hok, htraded⟩ | ⟨position, l₁, herror, -⟩
  · rw [hrun] at hok
    cases hok
    exact htraded
  · rw [hrun] at herror
    cases herror

theorem Makes.run (h : draft.Makes ts) (htraded : Traded ts l.bag M') :
    ∃ l', draft.run l = .ok () l' ∧ l'.bag = M' := by
  rcases h l with ⟨l', hok, htraded'⟩ | ⟨position, l', -, hnot⟩
  · exact ⟨l', hok, htraded'.unique htraded⟩
  · exact absurd htraded (hnot M')

/-- A step on a draft that has not the task that goes out fails, and any other makes its trade. -/
theorem makes_of_mem {old : Task} {incoming : Multiset Task}
    (hmem : ∀ l : TaskList, old ∈ l.bag →
      ∃ l', draft.run l = .ok () l' ∧ old ::ₘ l'.bag = incoming + l.bag)
    (hnot : ∀ l : TaskList, old ∉ l.bag →
      ∃ position l', draft.run l = .error (.taskMoved position) l') :
    draft.Makes [⟨{old}, incoming⟩] := by
  intro l
  by_cases hold : old ∈ l.bag
  · obtain ⟨l', hrun, hbag⟩ := hmem l hold
    obtain ⟨kept, hkept⟩ := Multiset.exists_cons_of_mem hold
    refine Or.inl ⟨l', hrun, kept, by rw [hkept, Multiset.singleton_add], ?_⟩
    rw [hkept, Multiset.add_cons] at hbag
    exact (Multiset.cons_inj_right old).mp hbag
  · obtain ⟨position, l', hrun⟩ := hnot l hold
    refine Or.inr ⟨position, l', hrun, ?_⟩
    rintro M' ⟨kept, hkept, -⟩
    rw [hkept, Multiset.singleton_add] at hold
    exact hold (Multiset.mem_cons_self ..)

/-- Putting a task in always succeeds. -/
theorem makes_modify {t : Task} {f : TaskList → TaskList}
    (hbag : ∀ l, (f l).bag = t ::ₘ l.bag) : Makes (modify f) [⟨0, {t}⟩] := by
  intro l
  exact Or.inl ⟨f l, rfl, l.bag, (zero_add _).symm, hbag l⟩

/-- **Steps that make a trade each make all of them together**, one after the other. -/
theorem makes_forM {τ : Type} {step : τ → Draft Unit} {trade : τ → Trade}
    (hstep : ∀ t, (step t).Makes [trade t]) (targets : List τ) :
    Makes (targets.forM step) (targets.map trade) := by
  induction targets with
  | nil => exact fun l => Or.inl ⟨l, rfl, rfl⟩
  | cons t rest ih =>
    intro l
    rw [List.forM_eq_forM, List.forM_cons, EStateM.run_bind, List.map_cons]
    rcases hstep t l with ⟨l₁, hrun₁, kept, hkept, hbag⟩ | ⟨position, l₁, hrun₁, hnot⟩
    · -- the first step makes its trade: a later one may still fail
      rw [hrun₁]
      dsimp only
      rcases ih l₁ with ⟨l₂, hrun₂, hrest⟩ | ⟨position, l₂, hrun₂, hnot⟩
      · rw [hbag] at hrest
        exact Or.inl ⟨l₂, hrun₂, kept, hkept, hrest⟩
      · refine Or.inr ⟨position, l₂, hrun₂, ?_⟩
        rintro M' ⟨kept', hkept', hrest⟩
        -- another way through the first trade would keep the same tasks
        obtain rfl : kept = kept' := add_left_cancel (hkept.symm.trans hkept')
        rw [hbag] at hnot
        exact hnot M' hrest
    · rw [hrun₁]
      refine Or.inr ⟨position, l₁, rfl, ?_⟩
      rintro M' ⟨kept, hkept, -⟩
      exact hnot _ ⟨kept, hkept, rfl⟩

end Draft

/-! ### Commands -/

namespace Command

/-- The old values of the targets of a command. -/
def outgoing : Command → Multiset Task
  | add _ => 0
  | remove targets => targets.map (·.task)
  | edit targets => targets.map (·.before)
  | mark targets _ => targets.map (·.task)
  | clear tasks => tasks

/-- The new values of the targets of a command. -/
def incoming : Command → Multiset Task
  | add task => {task}
  | remove _ => 0
  | edit targets => targets.map (·.after)
  | mark targets done => targets.map fun t => { t.task with done := done }
  | clear _ => 0

/-- The trades of a command, in the order in which it makes them. Clearing a list makes none: it
takes all tasks away, whatever they are. -/
def trades : Command → List Trade
  | add task => [⟨0, {task}⟩]
  | remove targets => targets.reverse.map fun t => ⟨{t.task}, 0⟩
  | edit targets => targets.map fun t => ⟨{t.before}, {t.after}⟩
  | mark targets done => targets.reverse.map fun t => ⟨{t.task}, {{ t.task with done := done }}⟩
  | clear _ => []

variable {c : Command}

theorem coe_map_reverse {τ : Type} (f : τ → Task) (targets : List τ) :
    (targets.reverse.map f : Multiset Task) = targets.map f := by
  rw [List.map_reverse, Multiset.coe_reverse]

theorem sum_map_singleton {τ : Type} (f : τ → Task) (targets : List τ) :
    (targets.map fun t => ({f t} : Multiset Task)).sum = targets.map f := by
  induction targets with
  | nil => rfl
  | cons t rest ih =>
    rw [List.map_cons, List.sum_cons, ih, Multiset.singleton_add, Multiset.cons_coe, List.map_cons]

theorem sum_map_zero {τ : Type} (targets : List τ) :
    (targets.map fun _ => (0 : Multiset Task)).sum = 0 := by
  induction targets with
  | nil => rfl
  | cons t rest ih => rw [List.map_cons, List.sum_cons, ih, zero_add]

/-- The trades of a command give out the old values of its targets and take in the new ones. -/
theorem sum_trades (hclear : ∀ tasks, c ≠ clear tasks) :
    (c.trades.map (·.outgoing)).sum = c.outgoing ∧
      (c.trades.map (·.incoming)).sum = c.incoming := by
  cases c with
  | add task => exact ⟨add_zero _, add_zero _⟩
  | remove targets =>
    unfold trades outgoing incoming
    rw [List.map_map, List.map_map]
    exact ⟨(sum_map_singleton Target.task _).trans (coe_map_reverse ..), sum_map_zero _⟩
  | edit targets =>
    unfold trades outgoing incoming
    rw [List.map_map, List.map_map]
    exact ⟨sum_map_singleton Revision.before targets, sum_map_singleton Revision.after targets⟩
  | mark targets done =>
    unfold trades outgoing incoming
    rw [List.map_map, List.map_map]
    exact ⟨(sum_map_singleton Target.task _).trans (coe_map_reverse ..),
      (sum_map_singleton (fun t : Target => { t.task with done }) _).trans (coe_map_reverse ..)⟩
  | clear tasks => exact absurd rfl (hclear tasks)

/-! ### Steps of commands -/

theorem makes_swap (old new : Task) (hint : Option ℕ) :
    (swap old new hint).Makes [⟨{old}, {new}⟩] := by
  refine Draft.makes_of_mem (fun l h => ?_) fun l h => ?_
  · -- the task is found somewhere, wherever the hint says
    obtain ⟨position, hpos, hget⟩ := TaskList.positionOf_of_mem hint h
    have hrep := TaskList.replace_of_get? hget new
    refine ⟨_, ?_, (TaskList.bag_replace hrep).trans (Multiset.singleton_add ..).symm⟩
    rw [swap, EStateM.run_bind, Draft.run_ask_ok hpos]
    simp only [EStateM.run_bind, Draft.run_step_ok (f := (·.replace position new)) hrep,
      EStateM.run_pure]
  · have hpos := TaskList.positionOf_of_not_mem hint h
    refine ⟨hint.getD l.size, l, ?_⟩
    rw [swap, EStateM.run_bind, Draft.run_ask_error hpos]

theorem makes_removeTarget (target : Target) :
    (removeTarget target).Makes [⟨{target.task}, 0⟩] := by
  refine Draft.makes_of_mem (fun l h => ?_) fun l h => ?_
  · obtain ⟨position, hpos, hget⟩ := TaskList.positionOf_of_mem (some target.position) h
    have hrem := TaskList.remove_of_get? hget
    refine ⟨_, ?_, (TaskList.bag_remove hrem).trans (zero_add _).symm⟩
    rw [removeTarget, EStateM.run_bind, Draft.run_ask_ok hpos]
    simp only [EStateM.run_bind, Draft.run_step_ok (f := (·.remove position)) hrem,
      EStateM.run_pure]
  · have hpos := TaskList.positionOf_of_not_mem (some target.position) h
    refine ⟨target.position, l, ?_⟩
    rw [removeTarget, EStateM.run_bind, Draft.run_ask_error hpos]
    rfl

/-- Taking back an addition gives its task out. -/
theorem makes_revert_add (task : Task) : (add task).revert.Makes [⟨{task}, 0⟩] := by
  refine Draft.makes_of_mem (fun l h => ?_) fun l h => ?_
  · obtain ⟨position, hpos, hget⟩ := TaskList.positionOf_of_mem none h
    have hback := TaskList.takeBack_of_get? hget
    refine ⟨_, ?_, (TaskList.bag_takeBack hback).trans (zero_add _).symm⟩
    rw [revert, EStateM.run_bind, Draft.run_ask_ok hpos]
    simp only [EStateM.run_bind, Draft.run_step_ok (f := (·.takeBack position)) hback,
      EStateM.run_pure]
  · have hpos := TaskList.positionOf_of_not_mem none h
    refine ⟨l.size, l, ?_⟩
    rw [revert, EStateM.run_bind, Draft.run_ask_error hpos]
    rfl

/-! ### Commands and their way back -/

/-- **A command makes its trades.** -/
theorem makes_apply (hclear : ∀ tasks, c ≠ clear tasks) : c.apply.Makes c.trades := by
  cases c with
  | add task => exact Draft.makes_modify fun _ => TaskList.bag_push
  | remove targets => exact Draft.makes_forM makes_removeTarget targets.reverse
  | edit targets =>
    exact Draft.makes_forM (fun t => makes_swap t.before t.after (some t.position)) targets
  | mark targets done =>
    exact Draft.makes_forM (fun t => makes_swap t.task { t.task with done } (some t.position))
      targets.reverse
  | clear tasks => exact absurd rfl (hclear tasks)

/-- **Taking a command back makes its trades turned around**, the last one first. -/
theorem makes_revert (hclear : ∀ tasks, c ≠ clear tasks) :
    c.revert.Makes (c.trades.reverse.map Trade.back) := by
  cases c with
  | add task => exact makes_revert_add task
  | remove targets =>
    -- removals were made from the last one on, so they are taken back from the first one on
    rw [trades, ← List.map_reverse, List.reverse_reverse, List.map_map]
    exact Draft.makes_forM (fun t : Target => Draft.makes_modify (t := t.task)
      (f := (·.insert t.position t.task)) fun _ => TaskList.bag_insert) targets
  | edit targets =>
    rw [trades, ← List.map_reverse, List.map_map]
    exact Draft.makes_forM (fun t => makes_swap t.after t.before none) targets.reverse
  | mark targets done =>
    rw [trades, ← List.map_reverse, List.reverse_reverse, List.map_map]
    exact Draft.makes_forM (fun t => makes_swap { t.task with done } t.task none) targets
  | clear tasks => exact absurd rfl (hclear tasks)

end Command

end Agenda
