import Mathlib.Algebra.Ring.Nat
import Mathlib.Data.List.Basic

/-!
# Timeouts

The timeouts of an event loop by their handles.  Every `set` adds one to those
that are pending, whatever is pending already.  A pending timeout may fire at
its deadline or at any time after it; a cleared one never fires.
-/

namespace VaultCore

/-- The delay of a timeout for so many milliseconds, which are kept as a
32-bit number.  A negative one is no delay. -/
def timeoutDelay (ms : Nat) : Nat :=
  if ms % 2 ^ 32 < 2 ^ 31 then ms % 2 ^ 32 else 0

/-- A timeout and the time from which it may fire. -/
structure Timeout (τ : Type) where
  handle : Nat
  deadline : τ
deriving DecidableEq

/-- The timeouts that may still fire.  Handles count from one. -/
structure Timeouts (τ : Type) where
  issued : Nat := 0
  pending : List (Timeout τ) := []
  known : ∀ timeout ∈ pending, timeout.handle ≤ issued := by
    exact List.forall_mem_nil _

namespace Timeouts

variable {τ : Type}

/-- No timeout has been set. -/
def initial : Timeouts τ := {}

/-- `setTimeout` -/
def set (timeouts : Timeouts τ) (deadline : τ) : Nat × Timeouts τ :=
  (timeouts.issued + 1,
    { issued := timeouts.issued + 1
      pending := timeouts.pending ++ [⟨timeouts.issued + 1, deadline⟩]
      known := by
        intro timeout member
        rcases List.mem_append.mp member with earlier | last
        · have before := timeouts.known timeout earlier
          omega
        · rw [List.mem_singleton.mp last] })

/-- `clearTimeout` of a variable, which may hold no handle. -/
def clear (timeouts : Timeouts τ) (held : Option Nat) : Timeouts τ where
  issued := timeouts.issued
  pending := timeouts.pending.filter fun timeout =>
    held != some timeout.handle
  known := by
    intro timeout member
    exact timeouts.known timeout (List.mem_of_mem_filter member)

/-- The timeout of a handle is taken, if it is due. -/
def fire [LE τ] [DecidableLE τ] (timeouts : Timeouts τ) (now : τ)
    (handle : Nat) : Option (Timeouts τ) :=
  if timeouts.pending.any fun timeout =>
      timeout.handle == handle && decide (timeout.deadline ≤ now)
  then some (timeouts.clear (some handle))
  else none

/-- When the timeout of a variable fires, if it is pending. -/
def deadlineOf (timeouts : Timeouts τ) (held : Option Nat) : Option τ :=
  held.bind fun handle =>
    (timeouts.pending.find? fun timeout => timeout.handle == handle).map
      Timeout.deadline

variable {timeouts after : Timeouts τ} {handle : Nat} {deadline : τ}

theorem fire_eq_some [LE τ] [DecidableLE τ] {now : τ}
    (fired : timeouts.fire now handle = some after) :
    after = timeouts.clear (some handle) ∧
      ∃ timeout ∈ timeouts.pending, timeout.handle = handle ∧
        timeout.deadline ≤ now := by
  unfold fire at fired
  split_ifs at fired with due
  obtain ⟨timeout, member, both⟩ := List.any_eq_true.mp due
  refine ⟨(Option.some.inj fired).symm, timeout, member, ?_⟩
  simpa using both

theorem set_pending (nothing : timeouts.pending = []) :
    (timeouts.set deadline).2.pending =
      [⟨(timeouts.set deadline).1, deadline⟩] := by
  simp [set, nothing]

theorem deadlineOf_set (timeouts : Timeouts τ) (deadline : τ) :
    (timeouts.set deadline).2.deadlineOf (some (timeouts.set deadline).1) =
      some deadline := by
  have unknown : timeouts.pending.find? (fun timeout =>
      timeout.handle == timeouts.issued + 1) = none := by
    apply List.find?_eq_none.mpr
    intro timeout member
    have before := timeouts.known timeout member
    simp only [beq_iff_eq]
    omega
  simp [set, deadlineOf, List.find?_append, unknown]

/-- At most one timeout is pending, under the handle that is held. -/
structure HeldBy (timeouts : Timeouts τ) (held : Option Nat) : Prop where
  single : timeouts.pending.length ≤ 1
  held : ∀ timeout ∈ timeouts.pending, held = some timeout.handle

namespace HeldBy

variable {held : Option Nat}

theorem empty (nothing : timeouts.pending = []) (held : Option Nat) :
    timeouts.HeldBy held := by
  constructor
  · simp [nothing]
  · simp [nothing]

theorem clear_pending (only : timeouts.HeldBy held) :
    (timeouts.clear held).pending = [] := by
  apply List.filter_eq_nil_iff.mpr
  intro timeout member
  simp [only.held timeout member]

theorem clear_set_pending (only : timeouts.HeldBy held) :
    ((timeouts.clear held).set deadline).2.pending =
      [⟨((timeouts.clear held).set deadline).1, deadline⟩] :=
  set_pending only.clear_pending

theorem of_pending (only : timeouts.pending = [⟨handle, deadline⟩]) :
    timeouts.HeldBy (some handle) := by
  constructor
  · simp [only]
  · simp [only]

theorem fire [LE τ] [DecidableLE τ] {now : τ} (only : timeouts.HeldBy held)
    (fired : timeouts.fire now handle = some after) :
    held = some handle ∧ after.pending = [] := by
  obtain ⟨rfl, timeout, member, rfl, -⟩ := fire_eq_some fired
  have same := only.held timeout member
  rw [same] at only
  exact ⟨same, only.clear_pending⟩

end HeldBy

end Timeouts

end VaultCore
