import VaultCore.Data.Outcome
import Mathlib.Data.List.Basic

/-!
# Callbacks and the calls made to them

A callback may read and change a state of its own, and keeps the changes of a
call that fails.  Recording a callback writes down every call made to it with
its answer, so that a search over candidates can be described by what it asked
and in which order.
-/

namespace VaultCore

/-- A computation over a callback's own state.  An error keeps the state. -/
abbrev Stateful (σ ε α : Type) := ExceptT ε (StateM σ) α

/-- One call with its answer. -/
structure RecordedCall (β ε α : Type) where
  argument : β
  answer : Except ε α

namespace Stateful

variable {σ ε α β : Type}

/-- A result that reads and writes nothing. -/
def liftExcept (result : Except ε α) : Stateful σ ε α :=
  fun state => (result, state)

/-- The callback with a record of its calls. -/
def recorded (callback : β → Stateful σ ε α) (argument : β) :
    Stateful (σ × List (RecordedCall β ε α)) ε α :=
  fun state =>
    let outcome := callback argument state.1
    (outcome.1, outcome.2, state.2 ++ [{ argument, answer := outcome.1 }])

/-- `try { body } finally { cleanup }` -/
def tryFinally (body : Stateful σ ε α) (cleanup : σ → σ) : Stateful σ ε α :=
  fun state =>
    let outcome := body state
    (outcome.1, cleanup outcome.2)

/-- The first attempt that succeeds, or the error of the last one. -/
def firstSuccess (attempt : β → Stateful σ ε α) :
    List β → ε → Stateful σ ε α
  | [], lastError => throw lastError
  | candidate :: rest, _ =>
      tryCatch (attempt candidate) (firstSuccess attempt rest)

/-- The calls of a search through the candidates in their order, which stops
at the first success. -/
inductive Searched :
    List β → List (RecordedCall β ε α) → Except ε α → Prop where
  | exhausted {error : ε} : Searched [] [] (.error error)
  | found {candidate : β} {rest : List β} {value : α} :
      Searched (candidate :: rest)
        [{ argument := candidate, answer := .ok value }] (.ok value)
  | failed {candidate : β} {rest : List β} {error : ε}
      {calls : List (RecordedCall β ε α)} {result : Except ε α} :
      Searched rest calls result →
      Searched (candidate :: rest)
        ({ argument := candidate, answer := .error error } :: calls) result

section Searched

variable {candidates : List β} {calls : List (RecordedCall β ε α)}
  {result : Except ε α}

theorem Searched.arguments_prefix (searched : Searched candidates calls result) :
    calls.map (fun call => call.argument) <+: candidates := by
  induction searched with
  | exhausted => exact List.prefix_refl []
  | found => exact ⟨_, rfl⟩
  | failed _ ih => exact List.prefix_cons_inj _ |>.mpr ih

/-- A search ends with the answer of its last call and every call before that
one failed. -/
theorem Searched.last_of_ok {value : α}
    (searched : Searched candidates calls (.ok value)) :
    ∃ earlier last, calls = earlier ++ [last] ∧ last.answer = .ok value ∧
      ∀ call ∈ earlier, ∃ error, call.answer = .error error := by
  generalize ended : (Except.ok value : Except ε α) = result at searched
  induction searched with
  | exhausted => cases ended
  | found =>
      cases ended
      refine ⟨[], _, rfl, rfl, ?_⟩
      intro call member
      cases member
  | @failed candidate rest error calls result later ih =>
      obtain ⟨earlier, last, split, answered, failures⟩ := ih ended
      refine ⟨_ :: earlier, last, by rw [split]; rfl, answered, ?_⟩
      intro call member
      cases member with
      | head => exact ⟨error, rfl⟩
      | tail _ member => exact failures call member

theorem Searched.ok_of_mem {call : RecordedCall β ε α} {value : α}
    (searched : Searched candidates calls result) (member : call ∈ calls)
    (answered : call.answer = .ok value) :
    result = .ok value := by
  induction searched with
  | exhausted => cases member
  | found =>
      cases member with
      | head => exact answered
      | tail _ member => cases member
  | failed _ ih =>
      cases member with
      | head => cases answered
      | tail _ member => exact ih member

theorem Searched.arguments_of_error {error : ε}
    (searched : Searched candidates calls (.error error)) :
    calls.map (fun call => call.argument) = candidates := by
  generalize ended : (Except.error error : Except ε α) = result at searched
  induction searched with
  | exhausted => rfl
  | found => cases ended
  | failed _ ih => rw [List.map_cons, ih ended]

end Searched

theorem tryCatch_apply (body : Stateful σ ε α) (handler : ε → Stateful σ ε α)
    (state : σ) :
    (tryCatch body handler : Stateful σ ε α) state =
      match body state with
      | (.ok value, next) => (.ok value, next)
      | (.error error, next) => handler error next := by
  simp only [tryCatch, tryCatchThe, MonadExceptOf.tryCatch, ExceptT.tryCatch,
    ExceptT.mk, bind, StateT.bind]
  generalize body state = outcome
  obtain ⟨answer, next⟩ := outcome
  cases answer with
  | ok value => rfl
  | error error => rfl

theorem bind_apply_ok {first : Stateful σ ε α} {next : α → Stateful σ ε β}
    {state middle : σ} {value : α}
    (ran : first state = (.ok value, middle)) :
    (first >>= next) state = next value middle := by
  simp only [bind, ExceptT.bind, ExceptT.mk, StateT.bind, ran]
  rfl

theorem bind_apply_error {first : Stateful σ ε α} {next : α → Stateful σ ε β}
    {state middle : σ} {error : ε}
    (ran : first state = (.error error, middle)) :
    (first >>= next) state = (.error error, middle) := by
  simp only [bind, ExceptT.bind, ExceptT.mk, StateT.bind, ran]
  rfl

/-- However it ends, the computation keeps the invariant. -/
def Preserves (invariant : σ → Prop) (body : Stateful σ ε α) : Prop :=
  ∀ state, invariant state → invariant (body state).2

theorem Preserves.bind {invariant : σ → Prop} {first : Stateful σ ε α}
    {next : α → Stateful σ ε β} (head : Preserves invariant first)
    (tail : ∀ value, Preserves invariant (next value)) :
    Preserves invariant (first >>= next) := by
  intro state holds
  cases ran : first state with
  | mk answer middle =>
      have kept : invariant middle := by
        have after := head state holds
        rwa [ran] at after
      cases answer with
      | ok value =>
          rw [bind_apply_ok ran]
          exact tail value middle kept
      | error error =>
          rw [bind_apply_error ran]
          exact kept

theorem Preserves.of_unchanged {invariant : σ → Prop}
    {body : Stateful σ ε α} (unchanged : ∀ state, (body state).2 = state) :
    Preserves invariant body := by
  intro state holds
  rw [unchanged state]
  exact holds

theorem liftExcept_ok_bind (value : α) (next : α → Stateful σ ε β) :
    (liftExcept (.ok value) >>= next) = next value := rfl

theorem liftExcept_error_bind (error : ε) (next : α → Stateful σ ε β) :
    (liftExcept (.error error) >>= next) = liftExcept (.error error) := rfl

theorem liftExcept_bind (first : Except ε α) (next : α → Except ε β) :
    (liftExcept first >>= fun value => liftExcept (next value) :
      Stateful σ ε β) = liftExcept (first >>= next) := by
  cases first with
  | ok value => rfl
  | error error => rfl

/-- A search with a callback that keeps no state is the search of
`Outcome.firstSuccess`. -/
theorem firstSuccess_liftExcept (attempt : β → Except ε α)
    (candidates : List β) (lastError : ε) :
    firstSuccess (fun candidate => liftExcept (attempt candidate)) candidates
        lastError =
      (liftExcept (Outcome.firstSuccess attempt candidates lastError) :
        Stateful σ ε α) := by
  induction candidates generalizing lastError with
  | nil => rfl
  | cons candidate rest ih =>
      funext state
      rw [firstSuccess, tryCatch_apply, Outcome.firstSuccess]
      cases tried : attempt candidate with
      | ok value => simp only [liftExcept]
      | error error =>
          simp only [liftExcept]
          exact congrFun (ih error) state

/-- When the answers do not depend on the state, neither does the one of the
search. -/
theorem firstSuccess_answer {attempt : β → Stateful σ ε α}
    {answer : β → Except ε α}
    (same : ∀ candidate state, (attempt candidate state).1 = answer candidate)
    (candidates : List β) (lastError : ε) (state : σ) :
    (firstSuccess attempt candidates lastError state).1 =
      Outcome.firstSuccess answer candidates lastError := by
  induction candidates generalizing lastError state with
  | nil => rfl
  | cons candidate rest ih =>
      have answered := same candidate state
      rw [firstSuccess, tryCatch_apply, Outcome.firstSuccess, ← answered]
      generalize attempt candidate state = outcome
      obtain ⟨found, next⟩ := outcome
      cases found with
      | ok value => rfl
      | error error => exact ih error next

/-- What every attempt keeps a search keeps, and its success leaves what the
successful attempt left. -/
theorem firstSuccess_invariant {attempt : β → Stateful σ ε α}
    {invariant : σ → Prop} {left : α → σ → Prop}
    (step : ∀ candidate state, invariant state →
      invariant (attempt candidate state).2 ∧
        ∀ value, (attempt candidate state).1 = .ok value →
          left value (attempt candidate state).2)
    (candidates : List β) (lastError : ε) {state : σ}
    (holds : invariant state) :
    invariant (firstSuccess attempt candidates lastError state).2 ∧
      ∀ value,
        (firstSuccess attempt candidates lastError state).1 = .ok value →
          left value (firstSuccess attempt candidates lastError state).2 := by
  induction candidates generalizing lastError state with
  | nil =>
      refine ⟨holds, ?_⟩
      intro value impossible
      cases impossible
  | cons candidate rest ih =>
      have kept := step candidate state holds
      rw [firstSuccess, tryCatch_apply]
      generalize attempt candidate state = outcome at kept
      obtain ⟨answer, next⟩ := outcome
      cases answer with
      | ok value => exact kept
      | error error => exact ih error kept.1

theorem firstSuccess_recorded (callback : β → Stateful σ ε α)
    (candidates : List β) (lastError : ε)
    (state : σ × List (RecordedCall β ε α)) :
    ∃ calls,
      (firstSuccess (recorded callback) candidates lastError state).2.2 =
        state.2 ++ calls ∧
      Searched candidates calls
        (firstSuccess (recorded callback) candidates lastError state).1 := by
  induction candidates generalizing lastError state with
  | nil => exact ⟨[], (List.append_nil _).symm, .exhausted⟩
  | cons candidate rest ih =>
      rw [firstSuccess, tryCatch_apply, recorded]
      generalize callback candidate state.1 = outcome
      obtain ⟨answer, next⟩ := outcome
      cases answer with
      | ok value => exact ⟨_, rfl, .found⟩
      | error error =>
          obtain ⟨calls, grown, searched⟩ := ih error
            (next, state.2 ++ [{ argument := candidate
                                 answer := .error error }])
          refine ⟨{ argument := candidate, answer := .error error } :: calls, ?_,
            .failed searched⟩
          exact grown.trans (List.append_assoc _ _ _)

theorem firstSuccess_congr {left right : β → Stateful σ ε α}
    {candidates : List β}
    (same : ∀ candidate ∈ candidates, left candidate = right candidate)
    (lastError : ε) :
    firstSuccess left candidates lastError =
      firstSuccess right candidates lastError := by
  induction candidates generalizing lastError with
  | nil => rfl
  | cons candidate rest ih =>
      have later : firstSuccess left rest = firstSuccess right rest := by
        funext error
        apply ih
        intro other member
        exact same other (List.mem_cons_of_mem _ member)
      rw [firstSuccess, firstSuccess, same candidate List.mem_cons_self, later]

end Stateful

end VaultCore
