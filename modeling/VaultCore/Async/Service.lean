import VaultCore.Async.Interleaving

/-!
# What interleaved calls answer

Calls that share a state answer out of it, so an answer is only as good as the
state the segments before it relied on.  A contract gives a shared invariant,
what every call does to the state and what it may answer; each call is checked
on its own, and the contract holds of every interleaving.
-/

namespace VaultCore

namespace Async

variable {σ ε α β : Type} {invariant : σ → Prop} {guarantee : σ → σ → Prop}
  {good : Except ε α → Prop}

/-- Begun in a segment that keeps the guarantee so far, the program keeps it in
every segment, its last one included, and ends well. -/
def Behaves (invariant : σ → Prop) (guarantee : σ → σ → Prop)
    (good : Except ε α → Prop) (program : Async σ ε α) : Prop :=
  ∀ start state, invariant start → guarantee start state →
    program.Meets invariant guarantee
      (fun outcome begun finish =>
        invariant begun ∧ guarantee begun finish ∧ good outcome) start state

namespace Behaves

variable {program : Async σ ε α}

theorem done {outcome : Except ε α} (holds : good outcome) :
    Behaves invariant guarantee good (.done outcome : Async σ ε α) :=
  fun _ _ sound moved => ⟨sound, moved, holds⟩

theorem pure {value : α} (holds : good (.ok value)) :
    Behaves invariant guarantee good (Pure.pure value : Async σ ε α) :=
  done holds

theorem pause (reflexive : ∀ state, guarantee state state)
    (behaves : Behaves invariant guarantee good program) :
    Behaves invariant guarantee good (.pause program) :=
  fun _ _ _ moved =>
    ⟨moved, fun later sound => behaves later later sound (reflexive later)⟩

theorem awaitOutcome (reflexive : ∀ state, guarantee state state)
    {outcome : Except ε α} (holds : good outcome) :
    Behaves invariant guarantee good
      (Async.awaitOutcome outcome : Async σ ε α) :=
  pause reflexive (done holds)

theorem lift {code : Sync σ ε α}
    (runs : ∀ start state, invariant start → guarantee start state →
      guarantee start (code state).2 ∧ good (code state).1) :
    Behaves invariant guarantee good (Async.lift code) :=
  fun start state sound moved => ⟨sound, runs start state sound moved⟩

theorem ofExcept {outcome : Except ε α} (holds : good outcome) :
    Behaves invariant guarantee good
      (Async.lift (Sync.ofExcept outcome) : Async σ ε α) :=
  lift fun _ _ _ moved => ⟨moved, holds⟩

theorem pause_lift {code : Sync σ ε α}
    (runs : ∀ state, invariant state →
      guarantee state (code state).2 ∧ good (code state).1) :
    Behaves invariant guarantee good (.pause (Async.lift code)) :=
  fun _ _ _ moved =>
    ⟨moved, fun later sound => ⟨sound, runs later sound⟩⟩

theorem bind {next : α → Async σ ε β} {last : Except ε β → Prop}
    (first : Behaves invariant guarantee good program)
    (continues : ∀ value, good (.ok value) →
      Behaves invariant guarantee last (next value))
    (fails : ∀ error, good (.error error) → last (.error error)) :
    Behaves invariant guarantee last (program >>= next) := by
  intro start state sound moved
  apply Meets.bind
  apply (first start state sound moved).mono
  intro outcome begun finish ended
  obtain ⟨begunSound, ranOn, holds⟩ := ended
  cases outcome with
  | ok value => exact continues value holds begun finish begunSound ranOn
  | error error => exact ⟨begunSound, ranOn, fails error holds⟩

theorem tryCatch {handler : ε → Async σ ε α} {last : Except ε α → Prop}
    (first : Behaves invariant guarantee good program)
    (ends : ∀ value, good (.ok value) → last (.ok value))
    (handles : ∀ error, good (.error error) →
      Behaves invariant guarantee last (handler error)) :
    Behaves invariant guarantee last (program.tryCatch handler) := by
  intro start state sound moved
  apply Meets.tryCatch
  apply (first start state sound moved).mono
  intro outcome begun finish ended
  obtain ⟨begunSound, ranOn, holds⟩ := ended
  cases outcome with
  | ok value => exact ⟨begunSound, ranOn, ends value holds⟩
  | error error => exact handles error holds begun finish begunSound ranOn

theorem await (reflexive : ∀ state, guarantee state state)
    (behaves : Behaves invariant guarantee good program) :
    Behaves invariant guarantee good program.await := by
  intro start state sound moved
  apply Meets.await
  apply (behaves start state sound moved).mono
  intro outcome begun finish ended
  obtain ⟨-, ranOn, holds⟩ := ended
  exact ⟨ranOn, fun later laterSound => ⟨laterSound, reflexive later, holds⟩⟩

theorem mono {better : Except ε α → Prop}
    (behaves : Behaves invariant guarantee better program)
    (implies : ∀ outcome, better outcome → good outcome) :
    Behaves invariant guarantee good program := by
  intro start state sound moved
  apply (behaves start state sound moved).mono
  intro outcome begun finish ended
  exact ⟨ended.1, ended.2.1, implies outcome ended.2.2⟩

end Behaves

/-- What a started program still promises, its answer included. -/
def Serving (invariant : σ → Prop) (guarantee : σ → σ → Prop)
    (good : Except ε α → Prop) (program : Async σ ε α) : Prop :=
  ∀ later, invariant later →
    program.wake.Meets invariant guarantee
      (fun outcome begun finish =>
        invariant begun ∧ guarantee begun finish ∧ good outcome) later later

theorem runSegment_serves {program : Async σ ε α} {start state : σ}
    (meets : program.Meets invariant guarantee
      (fun outcome begun finish =>
        invariant begun ∧ guarantee begun finish ∧ good outcome) start state)
    (reflexive : ∀ later, guarantee later later) :
    guarantee start (program.runSegment state).2 ∧
      (program.runSegment state).1.Serving invariant guarantee good := by
  induction program generalizing start state with
  | done outcome =>
      obtain ⟨-, moved, holds⟩ := meets
      exact ⟨moved, fun later sound => ⟨sound, reflexive later, holds⟩⟩
  | sync update rest ih => exact ih state meets
  | pause rest ih => exact ⟨meets.1, meets.2⟩

end Async

namespace Machine

variable {κ ω σ ε α : Type}

/-- A shared invariant, and what each call does to the state and answers. -/
structure Contract (machine : Machine κ ω σ ε α) where
  invariant : σ → Prop
  guarantee : κ → σ → σ → Prop
  answers : κ → Except ε α → Prop
  reflexive : ∀ call state, guarantee call state state
  keeps : ∀ call state finish, invariant state →
    guarantee call state finish → invariant finish
  serves : ∀ call, Async.Behaves invariant (guarantee call) (answers call)
    (machine.program call)
  environment : ∀ event state, invariant state →
    invariant (machine.environment event state)

namespace Contract

variable {machine : Machine κ ω σ ε α} (contract : machine.Contract)

/-- The invariant, with the promise of every program that was started. -/
structure Holds (pool : Pool κ σ ε α) : Prop where
  state : contract.invariant pool.state
  tasks : ∀ task ∈ pool.tasks, task.2.Serving contract.invariant
    (contract.guarantee task.1) (contract.answers task.1)

variable {pool : Pool κ σ ε α}

theorem holds_initial {state : σ} (holds : contract.invariant state) :
    contract.Holds (Pool.initial state) where
  state := holds
  tasks := by
    intro task impossible
    cases impossible

/-- What an event does to the state. -/
def Moves (pool : Pool κ σ ε α) (event : PoolEvent κ ω) (finish : σ) : Prop :=
  match event with
  | .environment occurrence =>
      finish = machine.environment occurrence pool.state
  | .start call => contract.guarantee call pool.state finish
  | .resume task =>
      match pool.tasks[task]? with
      | some (call, _) => contract.guarantee call pool.state finish
      | none => finish = pool.state

theorem step_holds (holds : contract.Holds pool) (event : PoolEvent κ ω) :
    contract.Moves pool event (machine.step pool event).state ∧
      contract.Holds (machine.step pool event) := by
  cases event with
  | start call =>
      obtain ⟨moved, serving⟩ := Async.runSegment_serves
        (contract.serves call _ _ holds.state
          (contract.reflexive call pool.state))
        (contract.reflexive call)
      refine ⟨moved, contract.keeps call _ _ holds.state moved, ?_⟩
      intro task member
      rcases List.mem_append.mp member with earlier | new
      · exact holds.tasks task earlier
      · rw [List.mem_singleton.mp new]
        exact serving
  | resume task =>
      cases found : pool.tasks[task]? with
      | none =>
          rw [machine.step_resume_none found]
          refine ⟨?_, holds⟩
          simp only [Moves, found]
      | some entry =>
          obtain ⟨call, program⟩ := entry
          have serves := holds.tasks _ (List.mem_of_getElem? found)
          obtain ⟨moved, serving⟩ := Async.runSegment_serves
            (serves pool.state holds.state) (contract.reflexive call)
          have stepped : machine.step pool (.resume task) =
              { state := (program.wake.runSegment pool.state).2
                tasks := pool.tasks.set task
                  (call, (program.wake.runSegment pool.state).1) } := by
            simp [step, found]
          rw [stepped]
          refine ⟨?_, contract.keeps call _ _ holds.state moved, ?_⟩
          · simpa only [Moves, found] using moved
          · intro other member
            rcases List.mem_or_eq_of_mem_set member with earlier | new
            · exact holds.tasks other earlier
            · rw [new]
              exact serving
  | environment occurrence =>
      exact ⟨rfl, contract.environment occurrence _ holds.state, holds.tasks⟩

/-- The contract holds after every run that starts in it. -/
theorem run_holds (holds : contract.Holds pool)
    (events : List (PoolEvent κ ω)) :
    contract.Holds (machine.run pool events) := by
  induction events generalizing pool with
  | nil => exact holds
  | cons event events ih =>
      rw [run_cons]
      apply ih
      exact (contract.step_holds holds event).2

theorem Holds.answered {call : κ} {outcome : Except ε α}
    (holds : contract.Holds pool)
    (ended : (call, .done outcome) ∈ pool.tasks) :
    contract.answers call outcome :=
  (holds.tasks _ ended pool.state holds.state).2.2

end Contract

end Machine

end VaultCore
