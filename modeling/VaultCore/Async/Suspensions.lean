import VaultCore.Async.Component

/-!
# How often a program suspends

A program that suspends at most so many times has ended after one segment
more, whatever the states its segments find.
-/

namespace VaultCore

namespace Async

variable {σ τ ε α β : Type}

/-- Whatever the state is at each point, so many suspensions are the most. -/
def SuspendsAtMost : Async σ ε α → Nat → Prop
  | .done _, _ => True
  | .sync _ rest, count => ∀ state, (rest state).SuspendsAtMost count
  | .pause _, 0 => False
  | .pause rest, count + 1 => rest.SuspendsAtMost count

namespace SuspendsAtMost

variable {program : Async σ ε α}

theorem mono {count more : Nat} (bounded : program.SuspendsAtMost count)
    (within : count ≤ more) : program.SuspendsAtMost more := by
  induction program generalizing count more with
  | done outcome => trivial
  | sync update rest ih =>
      intro state
      exact ih state (bounded state) within
  | pause rest ih =>
      cases count with
      | zero => exact bounded.elim
      | succ count =>
          cases more with
          | zero => omega
          | succ more => exact ih bounded (Nat.le_of_succ_le_succ within)

theorem lift (code : Sync σ ε α) : (Async.lift code).SuspendsAtMost 0 :=
  fun _ => trivial

theorem awaitOutcome (outcome : Except ε α) :
    (Async.awaitOutcome outcome : Async σ ε α).SuspendsAtMost 1 :=
  trivial

theorem bind {count more : Nat} {next : α → Async σ ε β}
    (first : program.SuspendsAtMost count)
    (continues : ∀ value, (next value).SuspendsAtMost more) :
    (program >>= next).SuspendsAtMost (count + more) := by
  induction program generalizing count with
  | done outcome =>
      cases outcome with
      | ok value => exact (continues value).mono (Nat.le_add_left more count)
      | error error => trivial
  | sync update rest ih =>
      intro state
      exact ih state (first state)
  | pause rest ih =>
      cases count with
      | zero => exact first.elim
      | succ count =>
          rw [Nat.succ_add]
          exact ih first

theorem bind_lift {count : Nat} {code : Sync σ ε α} {next : α → Async σ ε β}
    (continues : ∀ value, (next value).SuspendsAtMost count) :
    (Async.lift code >>= next).SuspendsAtMost count := by
  rw [← Nat.zero_add count]
  exact (lift code).bind continues

theorem bind_awaitOutcome {count : Nat} {outcome : Except ε α}
    {next : α → Async σ ε β}
    (continues : ∀ value, (next value).SuspendsAtMost count) :
    (Async.awaitOutcome outcome >>= next).SuspendsAtMost (count + 1) := by
  rw [Nat.add_comm]
  exact (awaitOutcome outcome).bind continues

theorem tryCatch {count more : Nat} {handler : ε → Async σ ε α}
    (body : program.SuspendsAtMost count)
    (handles : ∀ error, (handler error).SuspendsAtMost more) :
    (program.tryCatch handler).SuspendsAtMost (count + more) := by
  induction program generalizing count with
  | done outcome =>
      cases outcome with
      | ok value => trivial
      | error error => exact (handles error).mono (Nat.le_add_left more count)
  | sync update rest ih =>
      intro state
      exact ih state (body state)
  | pause rest ih =>
      cases count with
      | zero => exact body.elim
      | succ count =>
          rw [Nat.succ_add]
          exact ih body

theorem await {count : Nat} (body : program.SuspendsAtMost count) :
    program.await.SuspendsAtMost (count + 1) := by
  induction program generalizing count with
  | done outcome => trivial
  | sync update rest ih =>
      intro state
      exact ih state (body state)
  | pause rest ih =>
      cases count with
      | zero => exact body.elim
      | succ count => exact ih body

theorem tryFinally {count : Nat} {cleanUp : σ → σ}
    (body : program.SuspendsAtMost count) :
    (program.tryFinally cleanUp).SuspendsAtMost count := by
  induction program generalizing count with
  | done outcome => exact fun _ => trivial
  | sync update rest ih =>
      intro state
      exact ih state (body state)
  | pause rest ih =>
      cases count with
      | zero => exact body.elim
      | succ count => exact ih body

theorem within {count : Nat} {component : Component τ σ}
    (body : program.SuspendsAtMost count) :
    (program.within component).SuspendsAtMost count := by
  induction program generalizing count with
  | done outcome => trivial
  | sync update rest ih =>
      intro whole
      exact ih (component.read whole) (body _)
  | pause rest ih =>
      cases count with
      | zero => exact body.elim
      | succ count => exact ih body

theorem runSegment {count : Nat} (bounded : program.SuspendsAtMost count)
    (state : σ) :
    (program.runSegment state).1.SuspendsAtMost count := by
  induction program generalizing state with
  | done outcome => trivial
  | sync update rest ih => exact ih state (bounded state) (update state)
  | pause rest _ => exact bounded

end SuspendsAtMost

end Async

namespace Machine

variable {σ ε α : Type}

/-- A task that is still suspended has used up no more than its bound. -/
theorem History.suspensions {program rest : Async σ ε α}
    {ran : List (σ × σ)} (history : History program ran rest) {count : Nat}
    (bounded : program.SuspendsAtMost count) {next : Async σ ε α}
    (suspended : rest = .pause next) :
    ran.length ≤ count ∧ rest.SuspendsAtMost (count - ran.length + 1) := by
  induction history generalizing next with
  | started state =>
      have remaining := bounded.runSegment state
      rw [suspended] at remaining ⊢
      cases count with
      | zero => exact remaining.elim
      | succ count => exact ⟨Nat.succ_le_succ (Nat.zero_le count), remaining⟩
  | @resumed earlier rest state history ih =>
      obtain ⟨within, remaining⟩ := ih rfl
      have bound : rest.SuspendsAtMost (count - earlier.length) := remaining
      have later := bound.runSegment state
      rw [suspended] at later ⊢
      rw [List.length_append, List.length_singleton]
      cases left : count - earlier.length with
      | zero =>
          rw [left] at later
          exact later.elim
      | succ fewer =>
          rw [left] at later
          refine ⟨by omega, ?_⟩
          have same : count - (earlier.length + 1) + 1 = fewer + 1 := by omega
          rw [same]
          exact later

end Machine

end VaultCore
