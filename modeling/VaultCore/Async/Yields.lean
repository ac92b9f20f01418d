import VaultCore.Async.Component
import VaultCore.Async.History

/-!
# What a program can end with

A program yields good outcomes when it ends with one whatever the states its
segments find.  In every run of a machine the tasks then end with good
outcomes only.
-/

namespace VaultCore

namespace Async

variable {σ τ ε α β : Type}

/-- Whatever the state is at each point, the outcome is good. -/
def Yields (good : Except ε α → Prop) : Async σ ε α → Prop
  | .done outcome => good outcome
  | .sync _ rest => ∀ state, (rest state).Yields good
  | .pause rest => rest.Yields good

namespace Yields

variable {program : Async σ ε α} {good : Except ε α → Prop}

theorem mono {better : Except ε α → Prop} (yields : program.Yields better)
    (implies : ∀ outcome, better outcome → good outcome) :
    program.Yields good := by
  induction program with
  | done outcome => exact implies outcome yields
  | sync update rest ih =>
      intro state
      exact ih state (yields state)
  | pause rest ih => exact ih yields

theorem anything (program : Async σ ε α) : program.Yields fun _ => True := by
  induction program with
  | done outcome => trivial
  | sync update rest ih => exact ih
  | pause rest ih => exact ih

theorem lift {code : Sync σ ε α} (yields : ∀ state, good (code state).1) :
    (Async.lift code).Yields good :=
  yields

theorem awaitOutcome {outcome : Except ε α} (yields : good outcome) :
    (Async.awaitOutcome outcome : Async σ ε α).Yields good :=
  yields

theorem bind {next : α → Async σ ε β} {last : Except ε β → Prop}
    (first : program.Yields good)
    (continues : ∀ value, good (.ok value) → (next value).Yields last)
    (fails : ∀ error, good (.error error) → last (.error error)) :
    (program >>= next).Yields last := by
  induction program with
  | done outcome =>
      cases outcome with
      | ok value => exact continues value first
      | error error => exact fails error first
  | sync update rest ih =>
      intro state
      exact ih state (first state)
  | pause rest ih => exact ih first

theorem after {next : α → Async σ ε β} {last : Except ε β → Prop}
    (continues : ∀ value, (next value).Yields last)
    (fails : ∀ error, last (.error error)) :
    (program >>= next).Yields last :=
  (anything program).bind (fun value _ => continues value)
    fun error _ => fails error

theorem tryCatch {handler : ε → Async σ ε α} {last : Except ε α → Prop}
    (body : program.Yields good)
    (ends : ∀ value, good (.ok value) → last (.ok value))
    (handles : ∀ error, good (.error error) → (handler error).Yields last) :
    (program.tryCatch handler).Yields last := by
  induction program with
  | done outcome =>
      cases outcome with
      | ok value => exact ends value body
      | error error => exact handles error body
  | sync update rest ih =>
      intro state
      exact ih state (body state)
  | pause rest ih => exact ih body

theorem await (body : program.Yields good) : program.await.Yields good := by
  induction program with
  | done outcome => exact body
  | sync update rest ih =>
      intro state
      exact ih state (body state)
  | pause rest ih => exact ih body

theorem tryFinally {cleanUp : σ → σ} (body : program.Yields good) :
    (program.tryFinally cleanUp).Yields good := by
  induction program with
  | done outcome => exact fun _ => body
  | sync update rest ih =>
      intro state
      exact ih state (body state)
  | pause rest ih => exact ih body

theorem within {component : Component τ σ} (body : program.Yields good) :
    (program.within component).Yields good := by
  induction program with
  | done outcome => exact body
  | sync update rest ih =>
      intro whole
      exact ih (component.read whole) (body _)
  | pause rest ih => exact ih body

theorem runSegment (yields : program.Yields good) (state : σ) :
    (program.runSegment state).1.Yields good := by
  induction program generalizing state with
  | done outcome => exact yields
  | sync update rest ih => exact ih state (yields state) (update state)
  | pause rest _ => exact yields

theorem runAlone (yields : program.Yields good) (state : σ) :
    good (program.runAlone state).1 := by
  induction program generalizing state with
  | done outcome => exact yields
  | sync update rest ih => exact ih state (yields state) (update state)
  | pause rest ih => exact ih yields state

end Yields

/-- What the program returns is good; it may fail with anything. -/
def Returns (good : α → Prop) (program : Async σ ε α) : Prop :=
  program.Yields fun outcome => ∀ value, outcome = .ok value → good value

namespace Returns

variable {program : Async σ ε α} {good : α → Prop}

theorem done {value : α} (holds : good value) :
    Returns good (Async.done (.ok value) : Async σ ε α) := by
  intro other same
  cases same
  exact holds

theorem throw (error : ε) : Returns good (Async.throw error : Async σ ε α) :=
  fun _ impossible => by cases impossible

theorem awaitOutcome {outcome : Except ε α}
    (returns : ∀ value, outcome = .ok value → good value) :
    Returns good (Async.awaitOutcome outcome : Async σ ε α) :=
  returns

theorem bind {next : α → Async σ ε β} {last : β → Prop}
    (first : Returns good program)
    (continues : ∀ value, good value → Returns last (next value)) :
    Returns last (program >>= next) :=
  Yields.bind first (fun value holds => continues value (holds value rfl))
    fun _ _ _ impossible => by cases impossible

theorem after {next : α → Async σ ε β} {last : β → Prop}
    (continues : ∀ value, Returns last (next value)) :
    Returns last (program >>= next) :=
  Yields.after continues fun _ _ impossible => by cases impossible

theorem tryCatch {handler : ε → Async σ ε α} (body : Returns good program)
    (handles : ∀ error, Returns good (handler error)) :
    Returns good (program.tryCatch handler) := by
  apply Yields.tryCatch body
  · intro value holds other same
    cases same
    exact holds value rfl
  · exact fun error _ => handles error

end Returns

end Async

namespace Machine

variable {κ ω σ ε α : Type} {machine : Machine κ ω σ ε α}

/-- What the programs of a machine yield, its tasks end with. -/
theorem yields_of_run {good : κ → Except ε α → Prop}
    (programs : ∀ call, (machine.program call).Yields (good call))
    {initial : σ} {events : List (PoolEvent κ ω)} {task : Nat} {call : κ}
    {rest : Async σ ε α}
    (found : (machine.run (Pool.initial initial) events).tasks[task]? =
      some (call, rest)) : rest.Yields (good call) := by
  have history := (Machine.run_recorded initial events).started task _ rest
    found
  generalize machine.segments task (Pool.initial initial) events = ran
    at history
  clear found
  induction history with
  | started state => exact (programs call).runSegment state
  | @resumed earlier rest state _ ih =>
      have resumed : rest.Yields (good call) := ih
      exact resumed.runSegment state

end Machine

end VaultCore
