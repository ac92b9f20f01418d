import Mathlib.Logic.Basic

/-!
# Programs that run in atomic segments

A single-threaded event loop runs every program up to its next suspension
point without interruption.  `Sync` is the code between two suspension
points: it reads and writes one shared state and may throw, keeping what it
has already written.  `Async` is a program made of such code and of
suspension points, at which the shared state may change arbitrarily before
the program continues.
-/

namespace VaultCore

/-- Uninterrupted code over a shared state.  A throw keeps the state written
so far. -/
def Sync (σ ε α : Type) : Type := σ → Except ε α × σ

namespace Sync

variable {σ ε α β : Type}

/-- Code that answers and leaves the state. -/
def pure (value : α) : Sync σ ε α := fun state => (.ok value, state)

/-- One piece of code after the other, unless the first throws. -/
def bind (first : Sync σ ε α) (next : α → Sync σ ε β) : Sync σ ε β :=
  fun state =>
    match first state with
    | (.ok value, middle) => next value middle
    | (.error error, middle) => (.error error, middle)

instance : Monad (Sync σ ε) where
  pure := pure
  bind := bind

def get : Sync σ ε σ := fun state => (.ok state, state)

def modify (update : σ → σ) : Sync σ ε Unit :=
  fun state => (.ok (), update state)

/-- Throws, with the state as it is. -/
def throw (error : ε) : Sync σ ε α := fun state => (.error error, state)

def ofExcept (outcome : Except ε α) : Sync σ ε α :=
  fun state => (outcome, state)

/-- Run `body`; on a throw run `handler` in the state the throw left. -/
def tryCatch (body : Sync σ ε α) (handler : ε → Sync σ ε α) : Sync σ ε α :=
  fun state =>
    match body state with
    | (.ok value, middle) => (.ok value, middle)
    | (.error error, middle) => handler error middle

@[simp] theorem pure_apply (value : α) (state : σ) :
    (Pure.pure value : Sync σ ε α) state = (.ok value, state) := rfl

@[simp] theorem get_apply (state : σ) :
    (get : Sync σ ε σ) state = (.ok state, state) := rfl

@[simp] theorem modify_apply (update : σ → σ) (state : σ) :
    (modify update : Sync σ ε Unit) state = (.ok (), update state) := rfl

@[simp] theorem throw_apply (error : ε) (state : σ) :
    (throw error : Sync σ ε α) state = (.error error, state) := rfl

@[simp] theorem ofExcept_apply (outcome : Except ε α) (state : σ) :
    (ofExcept outcome : Sync σ ε α) state = (outcome, state) := rfl

theorem bind_apply (first : Sync σ ε α) (next : α → Sync σ ε β)
    (state : σ) :
    (first >>= next) state =
      match first state with
      | (.ok value, middle) => next value middle
      | (.error error, middle) => (.error error, middle) := rfl

theorem bind_ok {first : Sync σ ε α} {next : α → Sync σ ε β}
    {state middle : σ} {value : α}
    (success : first state = (.ok value, middle)) :
    (first >>= next) state = next value middle := by
  rw [bind_apply, success]

theorem bind_error {first : Sync σ ε α} {next : α → Sync σ ε β}
    {state middle : σ} {error : ε}
    (failure : first state = (.error error, middle)) :
    (first >>= next) state = (.error error, middle) := by
  rw [bind_apply, failure]

theorem bind_assoc {γ : Type} (first : Sync σ ε α) (next : α → Sync σ ε β)
    (last : β → Sync σ ε γ) :
    (first >>= next >>= last) = first >>= fun value => next value >>= last := by
  funext state
  rw [bind_apply, bind_apply, bind_apply]
  cases first state with
  | mk outcome middle => cases outcome <;> rfl

theorem bind_eq_ok_iff {first : Sync σ ε α} {next : α → Sync σ ε β}
    {state finish : σ} {result : β} :
    (first >>= next) state = (.ok result, finish) ↔
      ∃ value middle, first state = (.ok value, middle) ∧
        next value middle = (.ok result, finish) := by
  rw [bind_apply]
  cases ran : first state with
  | mk outcome middle =>
      cases outcome with
      | ok value =>
          constructor
          · intro success
            exact ⟨value, middle, rfl, success⟩
          · rintro ⟨other, place, same, success⟩
            cases same
            exact success
      | error error =>
          constructor
          · intro success
            cases success
          · rintro ⟨other, place, same, -⟩
            cases same

end Sync

/-- A program over a shared state: finished, about to run uninterrupted code,
or at a suspension point. -/
inductive Async (σ ε α : Type) : Type where
  | done (outcome : Except ε α)
  | sync (update : σ → σ) (next : σ → Async σ ε α)
  | pause (next : Async σ ε α)

namespace Async

variable {σ ε α β : Type}

def pure (value : α) : Async σ ε α := .done (.ok value)

def throw (error : ε) : Async σ ε α := .done (.error error)

def bind : Async σ ε α → (α → Async σ ε β) → Async σ ε β
  | .done (.ok value), next => next value
  | .done (.error error), _ => .done (.error error)
  | .sync update rest, next => .sync update fun state => (rest state).bind next
  | .pause rest, next => .pause (rest.bind next)

instance : Monad (Async σ ε) where
  pure := pure
  bind := bind

/-- The handler goes on where the program throws. -/
def tryCatch : Async σ ε α → (ε → Async σ ε α) → Async σ ε α
  | .done (.ok value), _ => .done (.ok value)
  | .done (.error error), handler => handler error
  | .sync update rest, handler =>
      .sync update fun state => (rest state).tryCatch handler
  | .pause rest, handler => .pause (rest.tryCatch handler)

/-- Uninterrupted code as a program. -/
def lift (code : Sync σ ε α) : Async σ ε α :=
  .sync (fun state => (code state).2) fun state => .done (code state).1

/-- Call an asynchronous function and await its result: the callee starts in
the current segment, and the caller continues one suspension after the
callee has settled, however it settled. -/
def await : Async σ ε α → Async σ ε α
  | .done outcome => .pause (.done outcome)
  | .sync update rest => .sync update fun state => (rest state).await
  | .pause rest => .pause rest.await

/-- Await a computation that does not touch the shared state. -/
def awaitOutcome (outcome : Except ε α) : Async σ ε α :=
  .pause (.done outcome)

/-- A program that first suspends `count` times. -/
def suspendFor : Nat → Async σ ε α → Async σ ε α
  | 0, program => program
  | count + 1, program => .pause (suspendFor count program)

/-- Run a program up to its next suspension point or to its end. -/
def runSegment : Async σ ε α → σ → Async σ ε α × σ
  | .done outcome, state => (.done outcome, state)
  | .sync update rest, state => (rest state).runSegment (update state)
  | .pause rest, state => (.pause rest, state)

/-- The program after its suspension point, if it stands at one. -/
def wake : Async σ ε α → Async σ ε α
  | .pause rest => rest
  | other => other

/-- Run a program to its end with nothing else interleaved. -/
def runAlone : Async σ ε α → Sync σ ε α
  | .done outcome => fun state => (outcome, state)
  | .sync update rest => fun state => (rest state).runAlone (update state)
  | .pause rest => rest.runAlone

/-- The program stands at a suspension point. -/
def isSuspended : Async σ ε α → Bool
  | .pause _ => true
  | _ => false

@[simp] theorem bind_done_ok (value : α) (next : α → Async σ ε β) :
    (Async.done (.ok value) >>= next) = next value := rfl

@[simp] theorem bind_done_error (error : ε) (next : α → Async σ ε β) :
    (Async.done (.error error) >>= next) = .done (.error error) := rfl

@[simp] theorem pure_bind (value : α) (next : α → Async σ ε β) :
    ((Pure.pure value : Async σ ε α) >>= next) = next value := rfl

@[simp] theorem bind_sync (update : σ → σ) (rest : σ → Async σ ε α)
    (next : α → Async σ ε β) :
    (Async.sync update rest >>= next) =
      .sync update fun state => rest state >>= next := rfl

@[simp] theorem bind_pause (rest : Async σ ε α) (next : α → Async σ ε β) :
    (Async.pause rest >>= next) = .pause (rest >>= next) := rfl

@[simp] theorem suspendFor_bind (count : Nat) (program : Async σ ε α)
    (next : α → Async σ ε β) :
    (suspendFor count program >>= next) =
      suspendFor count (program >>= next) := by
  induction count with
  | zero => rfl
  | succ count ih => exact congrArg Async.pause ih

@[simp] theorem suspendFor_tryCatch (count : Nat) (program : Async σ ε α)
    (handler : ε → Async σ ε α) :
    (suspendFor count program).tryCatch handler =
      suspendFor count (program.tryCatch handler) := by
  induction count with
  | zero => rfl
  | succ count ih => exact congrArg Async.pause ih

@[simp] theorem suspendFor_await (count : Nat) (program : Async σ ε α) :
    (suspendFor count program).await = suspendFor count program.await := by
  induction count with
  | zero => rfl
  | succ count ih => exact congrArg Async.pause ih

theorem suspendFor_pause (count : Nat) (program : Async σ ε α) :
    suspendFor count (.pause program) = suspendFor (count + 1) program := by
  induction count with
  | zero => rfl
  | succ count ih => exact congrArg Async.pause ih

theorem runAlone_bind (program : Async σ ε α) (next : α → Async σ ε β) :
    (program >>= next).runAlone =
      (program.runAlone >>= fun value => (next value).runAlone) := by
  induction program with
  | done outcome => cases outcome <;> rfl
  | sync update rest induction =>
      funext state
      exact congrFun (induction state) (update state)
  | pause rest induction => exact induction

theorem runSegment_lift_bind (code : Sync σ ε α)
    (next : α → Async σ ε β) (state : σ) :
    (lift code >>= next).runSegment state =
      match code state with
      | (.ok value, middle) => (next value).runSegment middle
      | (.error error, middle) => (.done (.error error), middle) := by
  change ((done (code state).1 >>= next).runSegment (code state).2) = _
  cases code state with
  | mk outcome middle => cases outcome <;> rfl

@[simp] theorem runAlone_await (program : Async σ ε α) :
    program.await.runAlone = program.runAlone := by
  induction program with
  | done outcome => rfl
  | sync update rest induction =>
      funext state
      exact congrFun (induction state) (update state)
  | pause rest induction => exact induction

@[simp] theorem runAlone_lift (code : Sync σ ε α) :
    (lift code : Async σ ε α).runAlone = code := by
  funext state
  rfl

@[simp] theorem runAlone_awaitOutcome (outcome : Except ε α) :
    (awaitOutcome outcome : Async σ ε α).runAlone =
      Sync.ofExcept outcome := rfl

@[simp] theorem runAlone_pure (value : α) :
    (Pure.pure value : Async σ ε α).runAlone = Pure.pure value := rfl

@[simp] theorem runAlone_throw (error : ε) :
    (throw error : Async σ ε α).runAlone = Sync.throw error := rfl

theorem runAlone_tryCatch (program : Async σ ε α)
    (handler : ε → Async σ ε α) :
    (program.tryCatch handler).runAlone =
      program.runAlone.tryCatch fun error => (handler error).runAlone := by
  induction program with
  | done outcome => cases outcome <;> rfl
  | sync update rest induction =>
      funext state
      exact congrFun (induction state) (update state)
  | pause rest induction => exact induction

end Async

end VaultCore
