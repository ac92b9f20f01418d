import VaultCore.Async.Ownership

/-!
# Larger states and clean-up

Code over one component of a state runs on the whole state and leaves the
rest of it.  `tryFinally` cleans up however a program ends, and `attempt`
gives its outcome as a value.
-/

namespace VaultCore

/-- A part of a state that can be read and written. -/
structure Component (τ σ : Type) where
  read : τ → σ
  write : σ → τ → τ
  read_write : ∀ part whole, read (write part whole) = part

variable {τ σ ε α β ρ : Type}

/-- Code over a part of the state, as code over the whole. -/
def Sync.within (component : Component τ σ) (code : Sync σ ε α) :
    Sync τ ε α :=
  fun whole =>
    ((code (component.read whole)).1,
      component.write (code (component.read whole)).2 whole)

/-- The code acts on its component as the plain code does, with the same
outcome. -/
def Sync.Simulates (component : Component τ σ) (code : Sync τ ε α)
    (plain : Sync σ ε α) : Prop :=
  ∀ whole, ((code whole).1, component.read (code whole).2) =
    plain (component.read whole)

namespace Sync.Simulates

variable {component : Component τ σ}

theorem within (plain : Sync σ ε α) :
    Simulates component (plain.within component) plain := by
  intro whole
  simp only [Sync.within, component.read_write]

theorem modify_outside {update : τ → τ}
    (outside : ∀ whole, component.read (update whole) = component.read whole) :
    Simulates component (Sync.modify update : Sync τ ε Unit)
      (Pure.pure ()) := by
  intro whole
  simp only [Sync.modify_apply, Sync.pure_apply, outside]

theorem bind {first : Sync τ ε α} {plainFirst : Sync σ ε α}
    {next : α → Sync τ ε β} {plainNext : α → Sync σ ε β}
    (simulates : Simulates component first plainFirst)
    (continues : ∀ value,
      Simulates component (next value) (plainNext value)) :
    Simulates component (first >>= next) (plainFirst >>= plainNext) := by
  intro whole
  have same := simulates whole
  rw [Sync.bind_apply, Sync.bind_apply, ← same]
  cases ran : first whole with
  | mk outcome middle =>
      cases outcome with
      | error error => rfl
      | ok value => exact continues value middle

theorem tryCatch {body : Sync τ ε α} {plainBody : Sync σ ε α}
    {handler : ε → Sync τ ε α} {plainHandler : ε → Sync σ ε α}
    (simulates : Simulates component body plainBody)
    (handles : ∀ error,
      Simulates component (handler error) (plainHandler error)) :
    Simulates component (body.tryCatch handler)
      (plainBody.tryCatch plainHandler) := by
  intro whole
  have same := simulates whole
  rw [Sync.tryCatch, Sync.tryCatch, ← same]
  cases ran : body whole with
  | mk outcome middle =>
      cases outcome with
      | error error => exact handles error middle
      | ok value => rfl

theorem pure (value : α) :
    Simulates component (Pure.pure value : Sync τ ε α) (Pure.pure value) :=
  fun _ => rfl

end Sync.Simulates

namespace Async

/-- A program over a part of the state, as a program over the whole. -/
def within (component : Component τ σ) : Async σ ε α → Async τ ε α
  | .done outcome => .done outcome
  | .sync update rest =>
      .sync (fun whole => component.write (update (component.read whole)) whole)
        fun whole => (rest (component.read whole)).within component
  | .pause rest => .pause (rest.within component)

/-- Run the program and then the clean-up, however the program ended. -/
def tryFinally : Async σ ε α → (σ → σ) → Async σ ε α
  | .done outcome, cleanUp => .sync cleanUp fun _ => .done outcome
  | .sync update rest, cleanUp =>
      .sync update fun state => (rest state).tryFinally cleanUp
  | .pause rest, cleanUp => .pause (rest.tryFinally cleanUp)

/-- The outcome of a program as a value. -/
def attempt : Async σ ε α → Async σ ε (Except ε α)
  | .done outcome => .done (.ok outcome)
  | .sync update rest => .sync update fun state => (rest state).attempt
  | .pause rest => .pause rest.attempt

section Within

variable {component : Component τ σ}

@[simp] theorem within_lift (code : Sync σ ε α) :
    (lift code).within component = lift (code.within component) := rfl

@[simp] theorem within_awaitOutcome (outcome : Except ε α) :
    (awaitOutcome outcome : Async σ ε α).within component =
      awaitOutcome outcome := rfl

@[simp] theorem within_throw (error : ε) :
    (throw error : Async σ ε α).within component = throw error := rfl

@[simp] theorem within_bind (program : Async σ ε α)
    (next : α → Async σ ε β) :
    (program >>= next).within component =
      (program.within component >>= fun value =>
        (next value).within component) := by
  induction program with
  | done outcome => cases outcome <;> rfl
  | sync update rest ih =>
      change Async.sync _ _ = Async.sync _ _
      congr 1
      funext whole
      exact ih (component.read whole)
  | pause rest ih => exact congrArg Async.pause ih

@[simp] theorem within_tryCatch (program : Async σ ε α)
    (handler : ε → Async σ ε α) :
    (program.tryCatch handler).within component =
      (program.within component).tryCatch fun error =>
        (handler error).within component := by
  induction program with
  | done outcome => cases outcome <;> rfl
  | sync update rest ih =>
      change Async.sync _ _ = Async.sync _ _
      congr 1
      funext whole
      exact ih (component.read whole)
  | pause rest ih => exact congrArg Async.pause ih

@[simp] theorem within_await (program : Async σ ε α) :
    program.await.within component = (program.within component).await := by
  induction program with
  | done outcome => rfl
  | sync update rest ih =>
      change Async.sync _ _ = Async.sync _ _
      congr 1
      funext whole
      exact ih (component.read whole)
  | pause rest ih => exact congrArg Async.pause ih

end Within

section Rules

variable {valid : ρ → σ → Prop} {change : ρ → ρ → σ → σ → Prop}

theorem Owns.tryFinally {program : Async σ ε α} {cleanUp : σ → σ}
    {post : Except ε α → ρ → σ → σ → Prop} {owned : ρ} {start state : σ}
    (owns : program.Owns valid change
      (fun outcome held begun finish => post outcome held begun (cleanUp finish))
      owned start state) :
    (program.tryFinally cleanUp).Owns valid change post owned start state := by
  induction program generalizing owned start state with
  | done outcome => exact owns
  | sync update rest ih => exact ih state owns
  | pause rest ih =>
      obtain ⟨kept, changed, continues⟩ := owns
      exact ⟨kept, changed, fun later holds => ih (continues later holds)⟩

theorem Owns.attempt {program : Async σ ε α}
    {post : Except ε (Except ε α) → ρ → σ → σ → Prop} {owned : ρ}
    {start state : σ}
    (owns : program.Owns valid change
      (fun outcome held begun finish => post (.ok outcome) held begun finish)
      owned start state) :
    program.attempt.Owns valid change post owned start state := by
  induction program generalizing owned start state with
  | done outcome => exact owns
  | sync update rest ih => exact ih state owns
  | pause rest ih =>
      obtain ⟨kept, changed, continues⟩ := owns
      exact ⟨kept, changed, fun later holds => ih (continues later holds)⟩

end Rules

end Async

end VaultCore
