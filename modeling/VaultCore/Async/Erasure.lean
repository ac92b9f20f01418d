import VaultCore.Async.Component

/-!
# Erasing what is only recorded

A program on a larger state may record what it does and otherwise act as a
program on a part of that state.  Erasing the record gives the run of the
plain program, segment by segment and in every interleaving.
-/

namespace VaultCore

variable {τ σ ε α β κ ω : Type}

namespace Async

/-- The program acts on the part that `read` gives as the plain program does,
and besides changes only what is outside it. -/
inductive Erases (read : τ → σ) : Async τ ε α → Async σ ε α → Prop where
  | done (outcome : Except ε α) : Erases read (.done outcome) (.done outcome)
  | sync {update : τ → τ} {rest : τ → Async τ ε α} {plainUpdate : σ → σ}
      {plainRest : σ → Async σ ε α} :
      (∀ whole, read (update whole) = plainUpdate (read whole)) →
      (∀ whole, Erases read (rest whole) (plainRest (read whole))) →
      Erases read (.sync update rest) (.sync plainUpdate plainRest)
  | outside {update : τ → τ} {rest : τ → Async τ ε α} {plain : Async σ ε α} :
      (∀ whole, read (update whole) = read whole) →
      (∀ whole, Erases read (rest whole) plain) →
      Erases read (.sync update rest) plain
  | pause {rest : Async τ ε α} {plainRest : Async σ ε α} :
      Erases read rest plainRest →
      Erases read (.pause rest) (.pause plainRest)

namespace Erases

variable {read : τ → σ} {program : Async τ ε α} {plain : Async σ ε α}

theorem within (component : Component τ σ) (plain : Async σ ε α) :
    Erases component.read (plain.within component) plain := by
  induction plain with
  | done outcome => exact .done outcome
  | sync update rest ih =>
      apply Erases.sync
      · intro whole
        exact component.read_write _ whole
      · intro whole
        exact ih (component.read whole)
  | pause rest ih => exact .pause ih

theorem awaitOutcome (outcome : Except ε α) :
    Erases read (Async.awaitOutcome outcome) (Async.awaitOutcome outcome) :=
  .pause (.done outcome)

theorem bind {next : α → Async τ ε β} {plainNext : α → Async σ ε β}
    (erases : Erases read program plain)
    (continues : ∀ value, Erases read (next value) (plainNext value)) :
    Erases read (program >>= next) (plain >>= plainNext) := by
  induction erases with
  | done outcome =>
      cases outcome with
      | ok value => exact continues value
      | error error => exact .done (.error error)
  | sync updates _ ih => exact .sync updates ih
  | outside silent _ ih => exact .outside silent ih
  | pause _ ih => exact .pause ih

theorem await (erases : Erases read program plain) :
    Erases read program.await plain.await := by
  induction erases with
  | done outcome => exact .pause (.done outcome)
  | sync updates _ ih => exact .sync updates ih
  | outside silent _ ih => exact .outside silent ih
  | pause _ ih => exact .pause ih

theorem record {update : τ → τ} {next : Unit → Async τ ε α}
    (silent : ∀ whole, read (update whole) = read whole)
    (continues : Erases read (next ()) plain) :
    Erases read (Async.lift (Sync.modify update) >>= next) plain :=
  .outside silent fun _ => continues

/-- A segment leaves the part as the plain one does, and a program that again
erases to what the plain one has left. -/
theorem runSegment (erases : Erases read program plain) (whole : τ) :
    read (program.runSegment whole).2 = (plain.runSegment (read whole)).2 ∧
      Erases read (program.runSegment whole).1.wake
        (plain.runSegment (read whole)).1.wake := by
  induction erases generalizing whole with
  | done outcome => exact ⟨rfl, .done outcome⟩
  | sync updates _ ih =>
      simp only [Async.runSegment, ← updates]
      exact ih whole _
  | outside silent _ ih =>
      simp only [Async.runSegment]
      rw [← silent whole]
      exact ih whole _
  | pause rest _ => exact ⟨rfl, rest⟩

end Erases

end Async

/-- The pool erases to the plain one: the part of its state is the plain state,
and each of its tasks goes on as the plain task does. -/
structure Pool.Erases (read : τ → σ) (pool : Pool κ τ ε α)
    (plain : Pool κ σ ε α) : Prop where
  state : read pool.state = plain.state
  tasks : List.Forall₂
    (fun task plainTask => task.1 = plainTask.1 ∧
      Async.Erases read task.2.wake plainTask.2.wake) pool.tasks plain.tasks

/-- Every program of the machine erases to the plain one, and the environment
does to the part what it does to the plain state. -/
structure Machine.Erases (read : τ → σ) (machine : Machine κ ω τ ε α)
    (plain : Machine κ ω σ ε α) : Prop where
  program : ∀ call,
    Async.Erases read (machine.program call) (plain.program call)
  environment : ∀ event whole,
    read (machine.environment event whole) =
      plain.environment event (read whole)

namespace Machine.Erases

variable {read : τ → σ} {machine : Machine κ ω τ ε α}
  {plain : Machine κ ω σ ε α} {pool : Pool κ τ ε α}
  {plainPool : Pool κ σ ε α}

private theorem forall₂_set {A B : Type} {related : A → B → Prop}
    {lefts : List A} {rights : List B}
    (all : List.Forall₂ related lefts rights) (index : Nat) {left : A}
    {right : B} (holds : related left right) :
    List.Forall₂ related (lefts.set index left) (rights.set index right) := by
  induction all generalizing index with
  | nil => exact .nil
  | cons head tail ih =>
      cases index with
      | zero => exact .cons holds tail
      | succ index => exact .cons head (ih index)

theorem step (erases : Machine.Erases read machine plain)
    (pools : Pool.Erases read pool plainPool) (event : PoolEvent κ ω) :
    Pool.Erases read (machine.step pool event)
      (plain.step plainPool event) := by
  cases event with
  | start call =>
      obtain ⟨state, rest⟩ := (erases.program call).runSegment pool.state
      rw [pools.state] at state rest
      exact
        { state := state
          tasks := List.rel_append pools.tasks (.cons ⟨rfl, rest⟩ .nil) }
  | environment event =>
      refine { state := ?_, tasks := pools.tasks }
      rw [Machine.step, Machine.step, erases.environment, pools.state]
  | resume task =>
      cases found : pool.tasks[task]? with
      | none =>
          have plainFound : plainPool.tasks[task]? = none := by
            rw [List.getElem?_eq_none_iff] at found ⊢
            rw [← pools.tasks.length_eq]
            exact found
          rw [machine.step_resume_none found,
            plain.step_resume_none plainFound]
          exact pools
      | some entry =>
          obtain ⟨bound, element⟩ := List.getElem?_eq_some_iff.mp found
          have plainBound : task < plainPool.tasks.length := by
            rw [← pools.tasks.length_eq]
            exact bound
          have related := pools.tasks.get bound plainBound
          rw [List.get_eq_getElem, List.get_eq_getElem, element] at related
          obtain ⟨sameCall, rest⟩ := related
          obtain ⟨state, remaining⟩ := rest.runSegment pool.state
          rw [pools.state] at state remaining
          simp only [Machine.step, found,
            List.getElem?_eq_getElem plainBound]
          exact
            { state := state
              tasks := forall₂_set pools.tasks task ⟨sameCall, remaining⟩ }

theorem run (erases : Machine.Erases read machine plain)
    (pools : Pool.Erases read pool plainPool) (events : List (PoolEvent κ ω)) :
    Pool.Erases read (machine.run pool events)
      (plain.run plainPool events) := by
  induction events generalizing pool plainPool with
  | nil => exact pools
  | cons event events ih => exact ih (erases.step pools event)

theorem run_state (erases : Machine.Erases read machine plain) (whole : τ)
    (events : List (PoolEvent κ ω)) :
    read (machine.run (Pool.initial whole) events).state =
      (plain.run (Pool.initial (read whole)) events).state :=
  (erases.run ⟨rfl, .nil⟩ events).state

end Machine.Erases

end VaultCore
