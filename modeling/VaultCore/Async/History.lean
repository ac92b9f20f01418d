import VaultCore.Async.Interleaving
import Mathlib.Data.List.Induction

/-!
# Histories of tasks

The segments that one task has run so far, each with the state it began in and
the state it ended in.  Other tasks and the environment may have changed the
state between two of them.
-/

namespace VaultCore

namespace Machine

variable {κ ω σ ε α : Type} (machine : Machine κ ω σ ε α)

/-- The task an event runs a segment of.  Resuming a task that is not
suspended runs none. -/
def runningTask (pool : Pool κ σ ε α) : PoolEvent κ ω → Option Nat
  | .start _ => some pool.tasks.length
  | .resume task =>
      match pool.tasks[task]? with
      | some (_, .pause _) => some task
      | _ => none
  | .environment _ => none

/-- The states between which the segments of a task ran. -/
def segments (task : Nat) (pool : Pool κ σ ε α) :
    List (PoolEvent κ ω) → List (σ × σ)
  | [] => []
  | event :: events =>
      let next := machine.step pool event
      if runningTask pool event = some task then
        (pool.state, next.state) :: segments task next events
      else segments task next events

/-- The segments that a program may have run and what is left of it. -/
inductive History (program : Async σ ε α) :
    List (σ × σ) → Async σ ε α → Prop where
  | started (state : σ) :
      History program [(state, (program.runSegment state).2)]
        (program.runSegment state).1
  | resumed {earlier : List (σ × σ)} {rest : Async σ ε α} (state : σ) :
      History program earlier (.pause rest) →
      History program (earlier ++ [(state, (rest.runSegment state).2)])
        (rest.runSegment state).1

variable {machine}

theorem segments_append (task : Nat) (pool : Pool κ σ ε α)
    (events later : List (PoolEvent κ ω)) :
    machine.segments task pool (events ++ later) =
      machine.segments task pool events ++
        machine.segments task (machine.run pool events) later := by
  induction events generalizing pool with
  | nil => rfl
  | cons event events ih =>
      simp only [List.cons_append, segments, run_cons, ih]
      split
      · rfl
      · rfl

theorem segments_single (task : Nat) (pool : Pool κ σ ε α)
    (event : PoolEvent κ ω) :
    machine.segments task pool [event] =
      if runningTask pool event = some task then
        [(pool.state, (machine.step pool event).state)]
      else [] := rfl

theorem runSegment_settled (program : Async σ ε α) (state : σ) :
    (∃ outcome, (program.runSegment state).1 = .done outcome) ∨
      ∃ rest, (program.runSegment state).1 = .pause rest := by
  induction program generalizing state with
  | done outcome => exact .inl ⟨outcome, rfl⟩
  | sync update rest ih => exact ih state (update state)
  | pause rest _ => exact .inr ⟨rest, rfl⟩

theorem History.settled {program rest : Async σ ε α}
    {earlier : List (σ × σ)} (history : History program earlier rest) :
    (∃ outcome, rest = .done outcome) ∨ ∃ next, rest = .pause next := by
  cases history with
  | started state => exact runSegment_settled program state
  | resumed state _ => exact runSegment_settled _ state

theorem step_resume_done {pool : Pool κ σ ε α} {task : Nat} {call : κ}
    {outcome : Except ε α}
    (found : pool.tasks[task]? = some (call, .done outcome)) :
    machine.step pool (.resume task) = pool := by
  obtain ⟨bound, element⟩ := List.getElem?_eq_some_iff.mp found
  simp only [Machine.step, found, Async.wake, Async.runSegment]
  rw [← element, List.set_getElem_self]

variable (machine) in
/-- The segments of every task are a history of its program. -/
structure Recorded (pool : Pool κ σ ε α) (ran : Nat → List (σ × σ)) :
    Prop where
  unstarted : ∀ task, pool.tasks.length ≤ task → ran task = []
  started : ∀ task call rest, pool.tasks[task]? = some (call, rest) →
    History (machine.program call) (ran task) rest

private theorem Recorded.idle {pool : Pool κ σ ε α}
    {ran : Nat → List (σ × σ)}
    (recorded : Recorded machine pool ran)
    {event : PoolEvent κ ω} (idle : runningTask pool event = none)
    (unchanged : machine.step pool event = pool) :
    Recorded machine (machine.step pool event) fun task =>
      ran task ++ machine.segments task pool [event] := by
  have nothing : ∀ task, machine.segments task pool [event] = [] := by
    intro task
    rw [segments_single, idle, if_neg nofun]
  simp only [nothing, List.append_nil, unchanged]
  exact recorded

theorem Recorded.step {pool : Pool κ σ ε α} {ran : Nat → List (σ × σ)}
    (recorded : Recorded machine pool ran)
    (event : PoolEvent κ ω) :
    Recorded machine (machine.step pool event) fun task =>
      ran task ++ machine.segments task pool [event] := by
  cases event with
  | start call =>
      constructor
      case unstarted =>
        intro task beyond
        simp only [Machine.step, List.length_append, List.length_singleton]
          at beyond
        have other : (some pool.tasks.length : Option Nat) ≠ some task := by
          simp only [ne_eq, Option.some.injEq]
          omega
        rw [segments_single, runningTask, if_neg other,
          recorded.unstarted task (by omega), List.append_nil]
      case started =>
        intro task other rest found
        simp only [Machine.step] at found
        by_cases new : task = pool.tasks.length
        · subst new
          rw [List.getElem?_concat_length, Option.some.injEq,
            Prod.mk.injEq] at found
          obtain ⟨rfl, rfl⟩ := found
          rw [segments_single, runningTask, if_pos rfl,
            recorded.unstarted _ (Nat.le_refl _)]
          exact .started pool.state
        · have bound : task < pool.tasks.length := by
            obtain ⟨within, -⟩ := List.getElem?_eq_some_iff.mp found
            rw [List.length_append, List.length_singleton] at within
            omega
          rw [List.getElem?_append_left bound] at found
          have different :
              (some pool.tasks.length : Option Nat) ≠ some task := by
            simp only [ne_eq, Option.some.injEq]
            omega
          rw [segments_single, runningTask, if_neg different,
            List.append_nil]
          exact recorded.started task other rest found
  | environment event =>
      constructor
      case unstarted =>
        intro task beyond
        rw [recorded.unstarted task beyond]
        rfl
      case started =>
        intro task call rest found
        have other : (none : Option Nat) ≠ some task :=
          (Option.some_ne_none task).symm
        rw [segments_single, runningTask, if_neg other, List.append_nil]
        exact recorded.started task call rest found
  | resume index =>
      cases found : pool.tasks[index]? with
      | none =>
          have idle : runningTask pool (PoolEvent.resume index :
              PoolEvent κ ω) = none := by
            simp only [runningTask, found]
          exact recorded.idle idle (machine.step_resume_none found)
      | some entry =>
          obtain ⟨call, program⟩ := entry
          have ran_history := recorded.started index call program found
          rcases ran_history.settled with finished | suspended
          · obtain ⟨outcome, rfl⟩ := finished
            have idle : runningTask pool (PoolEvent.resume index :
                PoolEvent κ ω) = none := by
              simp only [runningTask, found]
            exact recorded.idle idle (step_resume_done found)
          · obtain ⟨rest, rfl⟩ := suspended
            have running : runningTask pool (PoolEvent.resume index :
                PoolEvent κ ω) = some index := by
              simp only [runningTask, found]
            have stepped : machine.step pool (.resume index) =
                { state := (rest.runSegment pool.state).2
                  tasks := pool.tasks.set index
                    (call, (rest.runSegment pool.state).1) } := by
              simp only [Machine.step, found, Async.wake]
            obtain ⟨bound, -⟩ := List.getElem?_eq_some_iff.mp found
            constructor
            case unstarted =>
              intro task beyond
              rw [stepped, List.length_set] at beyond
              have other : some index ≠ some task := by
                simp only [ne_eq, Option.some.injEq]
                omega
              rw [segments_single, running, if_neg other,
                recorded.unstarted task beyond, List.append_nil]
            case started =>
              intro task other program present
              rw [stepped] at present
              by_cases same : index = task
              · subst same
                rw [List.getElem?_set_self bound, Option.some.injEq,
                  Prod.mk.injEq] at present
                obtain ⟨rfl, rfl⟩ := present
                rw [segments_single, running, if_pos rfl, stepped]
                exact .resumed pool.state ran_history
              · rw [List.getElem?_set_ne same] at present
                have different : some index ≠ some task := by
                  simp only [ne_eq, Option.some.injEq]
                  exact same
                rw [segments_single, running, if_neg different,
                  List.append_nil]
                exact recorded.started task other program present

/-- In every run the segments of every task are a history of its program. -/
theorem run_recorded (state : σ) (events : List (PoolEvent κ ω)) :
    Recorded machine (machine.run (Pool.initial state) events)
      fun task => machine.segments task (Pool.initial state) events := by
  induction events using List.reverseRecOn with
  | nil =>
      constructor
      case unstarted =>
        intro task _
        rfl
      case started =>
        intro task call rest found
        cases found
  | append_singleton events event ih =>
      have next := ih.step event
      simp only [run_append, run_cons, run_nil, segments_append]
      exact next

end Machine

end VaultCore
