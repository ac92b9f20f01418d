import VaultCore.Async.Component

/-!
# Triples for what a task owns

A tracking says when what a task owns is valid in a state, and how a segment
that has come as far as a state has changed it.  A triple holds between what a
task owns before a program and what it owns after it, whatever segments the
program is cut into.
-/

namespace VaultCore

namespace Async

/-- How the segments of a task change what it owns. -/
structure Tracking (ρ σ : Type) where
  valid : ρ → σ → Prop
  change : ρ → ρ → σ → σ → Prop
  begins : ∀ owned state, valid owned state → change owned owned state state

namespace Tracking

variable {ρ σ ε α β : Type}

/-- From a task that owns what `pre` says, the program ends in `post`. -/
def Triple (tracking : Tracking ρ σ) (pre : ρ → σ → Prop)
    (program : Async σ ε α) (post : Except ε α → ρ → σ → Prop) : Prop :=
  ∀ held now start state, tracking.change held now start state →
    pre now state →
    program.Owns tracking.valid tracking.change
      (fun outcome before begun finish => ∃ after,
        tracking.change before after begun finish ∧ post outcome after finish)
      held start state

/-- The same for code that stays within the current segment. -/
def Moves (tracking : Tracking ρ σ) (pre : ρ → σ → Prop) (code : Sync σ ε α)
    (post : Except ε α → ρ → σ → Prop) : Prop :=
  ∀ held now start state, tracking.change held now start state →
    pre now state →
    ∃ after, tracking.change held after start (code state).2 ∧
      post (code state).1 after (code state).2

variable {tracking : Tracking ρ σ} {pre : ρ → σ → Prop}

theorem Moves.of_unchanged {code : Sync σ ε α}
    {post : Except ε α → ρ → σ → Prop}
    (unchanged : ∀ state, (code state).2 = state)
    (ends : ∀ now state, pre now state → post (code state).1 now state) :
    tracking.Moves pre code post := by
  intro held now start state changed holds
  rw [unchanged]
  exact ⟨now, changed, ends now state holds⟩

namespace Triple

variable {program : Async σ ε α} {middle post : Except ε α → ρ → σ → Prop}

theorem weaken (triple : tracking.Triple pre program middle)
    (implied : ∀ outcome now state, middle outcome now state →
      post outcome now state) : tracking.Triple pre program post := by
  intro held now start state changed holds
  apply (triple held now start state changed holds).mono
  intro outcome before begun finish ended
  obtain ⟨after, changed, holds⟩ := ended
  exact ⟨after, changed, implied outcome after finish holds⟩

theorem strengthen {stronger : ρ → σ → Prop}
    (triple : tracking.Triple pre program post)
    (implied : ∀ now state, stronger now state → pre now state) :
    tracking.Triple stronger program post := by
  intro held now start state changed holds
  exact triple held now start state changed (implied now state holds)

theorem done {outcome : Except ε α}
    (ends : ∀ now state, pre now state → post outcome now state) :
    tracking.Triple pre (.done outcome) post := by
  intro held now start state changed holds
  exact ⟨now, changed, ends now state holds⟩

theorem lift {code : Sync σ ε α} (moves : tracking.Moves pre code post) :
    tracking.Triple pre (Async.lift code) post :=
  moves

theorem bind {next : α → Async σ ε β} {post : Except ε β → ρ → σ → Prop}
    (first : tracking.Triple pre program middle)
    (continues : ∀ value,
      tracking.Triple (middle (.ok value)) (next value) post)
    (fails : ∀ error now state, middle (.error error) now state →
      post (.error error) now state) :
    tracking.Triple pre (program >>= next) post := by
  intro held now start state changed holds
  apply Owns.bind
  apply (first held now start state changed holds).mono
  intro outcome before begun finish ended
  obtain ⟨after, changed, holds⟩ := ended
  cases outcome with
  | ok value => exact continues value before after begun finish changed holds
  | error error => exact ⟨after, changed, fails error after finish holds⟩

theorem await (triple : tracking.Triple pre program middle)
    (stable : ∀ outcome now state later, middle outcome now state →
      tracking.valid now later → post outcome now later) :
    tracking.Triple pre program.await post := by
  intro held now start state changed holds
  apply Owns.await
  apply (triple held now start state changed holds).mono
  intro outcome before begun finish ended
  obtain ⟨after, changed, holds⟩ := ended
  refine ⟨after, changed, ?_⟩
  intro later valid
  exact ⟨after, tracking.begins after later valid,
    stable outcome after finish later holds valid⟩

theorem await_claim {claim : Except ε α → ρ → Prop}
    (triple : tracking.Triple pre program fun outcome now _ =>
      claim outcome now) :
    tracking.Triple pre program.await fun outcome now _ =>
      claim outcome now :=
  triple.await fun _ _ _ _ holds _ => holds

theorem awaitOutcome {outcome : Except ε α}
    (settles : ∀ now state later, pre now state → tracking.valid now later →
      post outcome now later) :
    tracking.Triple pre (Async.awaitOutcome outcome) post := by
  intro held now start state changed holds
  refine ⟨now, changed, ?_⟩
  intro later valid
  exact ⟨now, tracking.begins now later valid,
    settles now state later holds valid⟩

/-- Awaiting a computation that does not touch the state. -/
theorem bind_awaitOutcome {claim : ρ → Prop} {outcome : Except ε α}
    {next : α → Async σ ε β} {post : Except ε β → ρ → σ → Prop}
    (continues : ∀ value, outcome = .ok value →
      tracking.Triple (fun now _ => claim now) (next value) post)
    (fails : ∀ error now state, outcome = .error error → claim now →
      post (.error error) now state) :
    tracking.Triple (fun now _ => claim now)
      (Async.awaitOutcome outcome >>= next) post := by
  have settles : tracking.Triple (fun now _ => claim now)
      (Async.awaitOutcome outcome) fun settled now _ =>
        settled = outcome ∧ claim now :=
    .awaitOutcome fun now _ later holds _ => ⟨rfl, holds⟩
  apply settles.bind
  · intro value held now start state changed holds
    exact continues value holds.1.symm held now start state changed holds.2
  · intro error now state holds
    exact fails error now state holds.1.symm holds.2

theorem bind_unchanged {claim : ρ → Prop} {code : Sync σ ε α}
    {next : α → Async σ ε β} {post : Except ε β → ρ → σ → Prop}
    (unchanged : ∀ state, (code state).2 = state)
    (continues : ∀ value,
      tracking.Triple (fun now _ => claim now) (next value) post)
    (fails : ∀ error now state, claim now → post (.error error) now state) :
    tracking.Triple (fun now _ => claim now)
      (Async.lift code >>= next) post := by
  have computes : tracking.Triple (fun now _ => claim now) (Async.lift code)
      fun _ now _ => claim now :=
    .lift (.of_unchanged unchanged fun _ _ holds => holds)
  exact computes.bind continues fails

theorem tryCatch {handler : ε → Async σ ε α}
    (body : tracking.Triple pre program middle)
    (returns : ∀ value now state, middle (.ok value) now state →
      post (.ok value) now state)
    (handles : ∀ error,
      tracking.Triple (middle (.error error)) (handler error) post) :
    tracking.Triple pre (program.tryCatch handler) post := by
  intro held now start state changed holds
  apply Owns.tryCatch
  apply (body held now start state changed holds).mono
  intro outcome before begun finish ended
  obtain ⟨after, changed, holds⟩ := ended
  cases outcome with
  | ok value => exact ⟨after, changed, returns value after finish holds⟩
  | error error => exact handles error before after begun finish changed holds

theorem tryFinally {cleanUp : σ → σ}
    (body : tracking.Triple pre program middle)
    (cleans : ∀ outcome, tracking.Moves (middle outcome)
      (Sync.modify cleanUp : Sync σ ε Unit) fun _ => post outcome) :
    tracking.Triple pre (program.tryFinally cleanUp) post := by
  intro held now start state changed holds
  apply Owns.tryFinally
  apply (body held now start state changed holds).mono
  intro outcome before begun finish ended
  obtain ⟨after, changed, holds⟩ := ended
  exact cleans outcome before after begun finish changed holds

theorem attempt {post : Except ε (Except ε α) → ρ → σ → Prop}
    (body : tracking.Triple pre program fun outcome => post (.ok outcome)) :
    tracking.Triple pre program.attempt post := by
  intro held now start state changed holds
  exact (body held now start state changed holds).attempt

end Triple

/-- What the program leaves of a claim about the task: it still holds. -/
def Maintains (tracking : Tracking ρ σ) (claim : ρ → Prop)
    (program : Async σ ε α) : Prop :=
  tracking.Triple (fun now _ => claim now) program fun _ now _ => claim now

namespace Maintains

variable {claim : ρ → Prop} {program : Async σ ε α}

theorem done (outcome : Except ε α) :
    tracking.Maintains claim (.done outcome : Async σ ε α) :=
  Triple.done fun _ _ holds => holds

theorem unchanged {code : Sync σ ε α}
    (same : ∀ state, (code state).2 = state) :
    tracking.Maintains claim (Async.lift code) :=
  .lift (.of_unchanged same fun _ _ holds => holds)

theorem awaitOutcome (outcome : Except ε α) :
    tracking.Maintains claim (Async.awaitOutcome outcome : Async σ ε α) :=
  Triple.awaitOutcome fun _ _ _ holds _ => holds

theorem bind {next : α → Async σ ε β}
    (first : tracking.Maintains claim program)
    (continues : ∀ value, tracking.Maintains claim (next value)) :
    tracking.Maintains claim (program >>= next) :=
  Triple.bind first continues fun _ _ _ holds => holds

theorem tryCatch {handler : ε → Async σ ε α}
    (body : tracking.Maintains claim program)
    (handles : ∀ error, tracking.Maintains claim (handler error)) :
    tracking.Maintains claim (program.tryCatch handler) :=
  Triple.tryCatch body (fun _ _ _ holds => holds) handles

theorem await (body : tracking.Maintains claim program) :
    tracking.Maintains claim program.await :=
  Triple.await_claim body

end Maintains

end Tracking

end Async

end VaultCore
