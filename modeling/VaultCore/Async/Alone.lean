import VaultCore.Async.Component

/-!
# Programs run alone

A program that runs to its end with nothing else interleaved is a function of
the state it begins in.  Clean-ups, attempts and programs over a component
keep that reading.
-/

namespace VaultCore

/-- A component whose last write is the one that counts, and which is left
unchanged by writing what it holds. -/
structure Component.Settled {τ σ : Type} (component : Component τ σ) : Prop
    where
  write_write : ∀ first second whole,
    component.write second (component.write first whole) =
      component.write second whole
  write_read : ∀ whole, component.write (component.read whole) whole = whole

namespace Async

variable {τ σ ε α β : Type}

theorem runAlone_tryFinally (program : Async σ ε α) (cleanUp : σ → σ)
    (state : σ) :
    (program.tryFinally cleanUp).runAlone state =
      ((program.runAlone state).1, cleanUp (program.runAlone state).2) := by
  induction program generalizing state with
  | done outcome => rfl
  | sync update rest ih => exact ih state (update state)
  | pause rest ih => exact ih state

theorem runAlone_attempt (program : Async σ ε α) (state : σ) :
    program.attempt.runAlone state =
      (.ok (program.runAlone state).1, (program.runAlone state).2) := by
  induction program generalizing state with
  | done outcome => rfl
  | sync update rest ih => exact ih state (update state)
  | pause rest ih => exact ih state

theorem runAlone_within {component : Component τ σ}
    (settled : component.Settled) (program : Async σ ε α) (whole : τ) :
    (program.within component).runAlone whole =
      ((program.runAlone (component.read whole)).1,
        component.write (program.runAlone (component.read whole)).2
          whole) := by
  induction program generalizing whole with
  | done outcome =>
      exact Prod.ext rfl (settled.write_read whole).symm
  | sync update rest ih =>
      have continued := ih (component.read whole)
        (component.write (update (component.read whole)) whole)
      rw [component.read_write, settled.write_write] at continued
      exact continued
  | pause rest ih => exact ih whole

theorem runAlone_bind_ok {program : Async σ ε α} {next : α → Async σ ε β}
    {start middle : σ} {value : α}
    (ran : program.runAlone start = (.ok value, middle)) :
    (program >>= next).runAlone start = (next value).runAlone middle := by
  rw [runAlone_bind, Sync.bind_ok ran]

end Async

end VaultCore
