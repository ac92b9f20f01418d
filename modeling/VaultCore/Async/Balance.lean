import VaultCore.Async.History
import Mathlib.Algebra.BigOperators.Group.Finset.Basic
import Mathlib.Algebra.BigOperators.Group.Finset.Piecewise
import Mathlib.Algebra.Order.BigOperators.Group.Finset
import Mathlib.Algebra.Ring.Int.Defs

/-!
# What the segments of a run add up to

A quantity of the shared state that the environment leaves alone changes by
what the segments of all tasks add to it.  A quantity that no task lowers as a
whole is therefore not lowered by a run, however the tasks are interleaved.
-/

namespace VaultCore

namespace Machine

variable {κ ω σ ε α : Type} {machine : Machine κ ω σ ε α}

/-- What segments add to a quantity. -/
def balance (quantity : σ → Int) (ran : List (σ × σ)) : Int :=
  (ran.map fun segment => quantity segment.2 - quantity segment.1).sum

@[simp] theorem balance_nil (quantity : σ → Int) :
    balance quantity [] = 0 := rfl

@[simp] theorem balance_append (quantity : σ → Int)
    (earlier later : List (σ × σ)) :
    balance quantity (earlier ++ later) =
      balance quantity earlier + balance quantity later := by
  simp only [balance, List.map_append, List.sum_append]

theorem length_tasks_step (pool : Pool κ σ ε α) (event : PoolEvent κ ω) :
    pool.tasks.length ≤ (machine.step pool event).tasks.length := by
  cases event with
  | start call =>
      simp only [step, List.length_append]
      omega
  | resume task =>
      cases found : pool.tasks[task]? with
      | none => rw [machine.step_resume_none found]
      | some entry => simp only [step, found, List.length_set, Nat.le_refl]
  | environment event => exact Nat.le_refl _

theorem runningTask_lt {pool : Pool κ σ ε α} {event : PoolEvent κ ω}
    {task : Nat} (running : runningTask pool event = some task) :
    task < (machine.step pool event).tasks.length := by
  cases event with
  | start call =>
      cases running
      simp only [step, List.length_append, List.length_singleton]
      omega
  | resume index =>
      simp only [runningTask] at running
      split at running
      · rename_i found
        cases running
        obtain ⟨bound, -⟩ := List.getElem?_eq_some_iff.mp found
        exact Nat.lt_of_lt_of_le bound (length_tasks_step pool _)
      · cases running
  | environment event => cases running

/-- Only a running task changes a quantity that the environment keeps. -/
theorem Recorded.quantity_idle {quantity : σ → Int}
    (kept : ∀ event state,
      quantity (machine.environment event state) = quantity state)
    {pool : Pool κ σ ε α} {ran : Nat → List (σ × σ)}
    (recorded : Recorded machine pool ran) {event : PoolEvent κ ω}
    (idle : runningTask pool event = none) :
    quantity (machine.step pool event).state = quantity pool.state := by
  cases event with
  | start call => cases idle
  | environment event => exact kept event pool.state
  | resume task =>
      cases found : pool.tasks[task]? with
      | none => rw [machine.step_resume_none found]
      | some entry =>
          obtain ⟨call, program⟩ := entry
          have history := recorded.started task call program found
          cases history.settled with
          | inl finished =>
              obtain ⟨outcome, rfl⟩ := finished
              simp only [Machine.step, found, Async.wake, Async.runSegment]
          | inr suspended =>
              obtain ⟨rest, rfl⟩ := suspended
              simp only [runningTask, found] at idle
              cases idle

/-- A quantity that the environment keeps changes by what the tasks of a run
add to it. -/
theorem run_balance {quantity : σ → Int}
    (kept : ∀ event state,
      quantity (machine.environment event state) = quantity state)
    (initial : σ) (events : List (PoolEvent κ ω)) {count : Nat}
    (bound : (machine.run (Pool.initial initial) events).tasks.length ≤
      count) :
    quantity (machine.run (Pool.initial initial) events).state =
      quantity initial + (Finset.range count).sum fun task =>
        balance quantity
          (machine.segments task (Pool.initial initial) events) := by
  induction events using List.reverseRecOn with
  | nil =>
      simp only [segments, balance_nil, Finset.sum_const_zero, add_zero]
      rfl
  | append_singleton events event ih =>
      have recorded : Recorded machine
          (machine.run (Pool.initial initial) events) _ :=
        run_recorded initial events
      simp only [run_append, run_cons, run_nil] at bound ⊢
      have before := ih (Nat.le_trans
        (length_tasks_step
          (machine.run (Pool.initial initial) events) event) bound)
      simp only [segments_append, segments_single, balance_append,
        Finset.sum_add_distrib]
      cases running : runningTask
          (machine.run (Pool.initial initial) events) event with
      | none =>
          simp only [reduceCtorEq, if_false, balance_nil,
            Finset.sum_const_zero, add_zero]
          rw [recorded.quantity_idle kept running]
          exact before
      | some task =>
          have within := Nat.lt_of_lt_of_le (runningTask_lt running) bound
          have alone : ∀ other, balance quantity
              (if some task = some other then
                [((machine.run (Pool.initial initial) events).state,
                  (machine.step (machine.run (Pool.initial initial) events)
                    event).state)] else []) =
              if task = other then
                quantity (machine.step (machine.run (Pool.initial initial)
                  events) event).state -
                  quantity (machine.run (Pool.initial initial) events).state
              else 0 := by
            intro other
            by_cases same : task = other
            · simp [same, balance]
            · simp [same]
          simp only [alone, Finset.sum_ite_eq, Finset.mem_range, within,
            if_true]
          rw [← add_assoc, ← before]
          omega

theorem run_nonneg_of_tasks {quantity : σ → Int}
    (kept : ∀ event state,
      quantity (machine.environment event state) = quantity state)
    (initial : σ) (events : List (PoolEvent κ ω))
    (tasks : ∀ task, 0 ≤ balance quantity
      (machine.segments task (Pool.initial initial) events)) :
    quantity initial ≤
      quantity (machine.run (Pool.initial initial) events).state := by
  rw [run_balance kept initial events (Nat.le_refl _)]
  apply le_add_of_nonneg_right
  exact Finset.sum_nonneg fun task _ => tasks task

end Machine

end VaultCore
